import Cyclomatic.Text.Offsets

/-!
Reading back what was encoded. The encoding of a character is read as that character, taking as
many bytes as the encoding has: each of its four forms starts with a byte in its own range, its
following bytes are in `0x80`–`0xBF`, and its second byte fits the first because a code point
that takes three or four bytes is neither overlong nor a surrogate nor past `U+10FFFF`. So the
bytes of any characters read back as those characters with no fault, and the bytes of a text
with its surrogates replaced read back as the text with its surrogates replaced.
-/

namespace Cyclomatic

namespace Utf8

theorem toNat_byte {n : Nat} (h : n < 256) : (UInt8.ofNat n).toNat = n := by
  rw [UInt8.toNat_ofNat']
  omega

theorem ofNat_eq_char {c : Char} {n : Nat} (h : n = c.val.toNat) : Char.ofNat n = c := by
  subst h
  exact Char.ofNat_toNat c

theorem isTail_byte {n : Nat} (h : n < 64) : isTail (UInt8.ofNat (n + 0x80)) = true := by
  simp only [isTail, UInt8.le_iff_toNat_le, toNat_byte (show n + 0x80 < 256 by omega),
    UInt8.reduceToNat, Bool.and_eq_true, decide_eq_true_eq]
  omega

/-! ### One character, in each of its four forms -/

section Forms

variable (c : Char) (rest : List UInt8)

theorem front_one (h1 : c.val.toNat ≤ 0x7f) :
    front (UInt8.ofNat c.val.toNat :: rest) = .ok (c, 1) := by
  have b0 := toNat_byte (show c.val.toNat < 256 by omega)
  unfold front
  simp only [UInt8.lt_iff_toNat_lt, b0, UInt8.reduceToNat]
  rw [if_pos (show c.val.toNat < 128 by omega)]
  congr 2
  apply ofNat_eq_char
  rfl

theorem front_two (h1 : ¬ c.val.toNat ≤ 0x7f) (h2 : c.val.toNat ≤ 0x7ff) :
    front (UInt8.ofNat (c.val.toNat / 64 % 32 + 0xc0) :: UInt8.ofNat (c.val.toNat % 64 + 0x80) ::
      rest) = .ok (c, 2) := by
  have b0 := toNat_byte (show c.val.toNat / 64 % 32 + 0xc0 < 256 by omega)
  have b1 := toNat_byte (show c.val.toNat % 64 + 0x80 < 256 by omega)
  rw [front]
  simp only [UInt8.lt_iff_toNat_lt, b0, UInt8.reduceToNat]
  rw [if_neg (show ¬c.val.toNat / 64 % 32 + 192 < 128 by omega),
    if_neg (show ¬c.val.toNat / 64 % 32 + 192 < 194 by omega),
    if_pos (show c.val.toNat / 64 % 32 + 192 < 224 by omega)]
  simp only [isTail_byte (show c.val.toNat % 64 < 64 by omega), if_true, low6, b1]
  congr 2
  apply ofNat_eq_char
  omega

theorem front_three (h2 : ¬ c.val.toNat ≤ 0x7ff) (h3 : c.val.toNat ≤ 0xffff) :
    front (UInt8.ofNat (c.val.toNat / 4096 % 16 + 0xe0) ::
      UInt8.ofNat (c.val.toNat / 64 % 64 + 0x80) :: UInt8.ofNat (c.val.toNat % 64 + 0x80) ::
      rest) = .ok (c, 3) := by
  have valid := c.valid
  simp only [UInt32.isValidChar, Nat.isValidChar] at valid
  have b0 := toNat_byte (show c.val.toNat / 4096 % 16 + 0xe0 < 256 by omega)
  have b1 := toNat_byte (show c.val.toNat / 64 % 64 + 0x80 < 256 by omega)
  have b2 := toNat_byte (show c.val.toNat % 64 + 0x80 < 256 by omega)
  -- no overlong form and no surrogate: the second byte fits the first
  have second : secondOfThree (UInt8.ofNat (c.val.toNat / 4096 % 16 + 0xe0))
      (UInt8.ofNat (c.val.toNat / 64 % 64 + 0x80)) = true := by
    simp only [secondOfThree, isTail_byte (show c.val.toNat / 64 % 64 < 64 by omega),
      Bool.true_and, UInt8.lt_iff_toNat_lt, b1, UInt8.reduceToNat]
    split <;> simp only [bne_iff_ne, ne_eq, ← UInt8.toNat_inj, b0, UInt8.reduceToNat] <;> omega
  rw [front]
  simp only [UInt8.lt_iff_toNat_lt, b0, UInt8.reduceToNat]
  rw [if_neg (show ¬c.val.toNat / 4096 % 16 + 224 < 128 by omega),
    if_neg (show ¬c.val.toNat / 4096 % 16 + 224 < 194 by omega),
    if_neg (show ¬c.val.toNat / 4096 % 16 + 224 < 224 by omega),
    if_pos (show c.val.toNat / 4096 % 16 + 224 < 240 by omega)]
  simp only [second, Bool.not_true, isTail_byte (show c.val.toNat % 64 < 64 by omega), low6, b1,
    b2, Bool.false_eq_true, if_false]
  congr 2
  apply ofNat_eq_char
  omega

theorem front_four (h3 : ¬ c.val.toNat ≤ 0xffff) :
    front (UInt8.ofNat (c.val.toNat / 262144 % 8 + 0xf0) ::
      UInt8.ofNat (c.val.toNat / 4096 % 64 + 0x80) :: UInt8.ofNat (c.val.toNat / 64 % 64 + 0x80) ::
      UInt8.ofNat (c.val.toNat % 64 + 0x80) :: rest) = .ok (c, 4) := by
  have valid := c.valid
  simp only [UInt32.isValidChar, Nat.isValidChar] at valid
  have b0 := toNat_byte (show c.val.toNat / 262144 % 8 + 0xf0 < 256 by omega)
  have b1 := toNat_byte (show c.val.toNat / 4096 % 64 + 0x80 < 256 by omega)
  have b2 := toNat_byte (show c.val.toNat / 64 % 64 + 0x80 < 256 by omega)
  have b3 := toNat_byte (show c.val.toNat % 64 + 0x80 < 256 by omega)
  -- no overlong form and nothing past the last code point: the second byte fits the first
  have second : secondOfFour (UInt8.ofNat (c.val.toNat / 262144 % 8 + 0xf0))
      (UInt8.ofNat (c.val.toNat / 4096 % 64 + 0x80)) = true := by
    simp only [secondOfFour, isTail_byte (show c.val.toNat / 4096 % 64 < 64 by omega),
      Bool.true_and, UInt8.lt_iff_toNat_lt, b1, UInt8.reduceToNat]
    split <;> simp only [bne_iff_ne, ne_eq, ← UInt8.toNat_inj, b0, UInt8.reduceToNat] <;> omega
  rw [front]
  simp only [UInt8.lt_iff_toNat_lt, b0, UInt8.reduceToNat]
  rw [if_neg (show ¬c.val.toNat / 262144 % 8 + 240 < 128 by omega),
    if_neg (show ¬c.val.toNat / 262144 % 8 + 240 < 194 by omega),
    if_neg (show ¬c.val.toNat / 262144 % 8 + 240 < 224 by omega),
    if_neg (show ¬c.val.toNat / 262144 % 8 + 240 < 240 by omega),
    if_pos (show c.val.toNat / 262144 % 8 + 240 < 245 by omega)]
  simp only [second, Bool.not_true, isTail_byte (show c.val.toNat / 64 % 64 < 64 by omega),
    isTail_byte (show c.val.toNat % 64 < 64 by omega), low6, b1, b2, b3, Bool.false_eq_true,
    if_false]
  congr 2
  apply ofNat_eq_char
  omega

/-- The encoding of a character, whatever follows it, reads as that character. -/
theorem front_utf8EncodeChar :
    front (String.utf8EncodeChar c ++ rest) = .ok (c, (String.utf8EncodeChar c).length) := by
  -- the four forms, as the encoder chooses them
  by_cases h1 : c.val.toNat ≤ 0x7f
  · simp only [String.utf8EncodeChar, if_pos h1, List.cons_append, List.nil_append,
      List.length_cons, List.length_nil]
    exact front_one c rest h1
  by_cases h2 : c.val.toNat ≤ 0x7ff
  · simp only [String.utf8EncodeChar, if_neg h1, if_pos h2, List.cons_append, List.nil_append,
      List.length_cons, List.length_nil]
    exact front_two c rest h1 h2
  by_cases h3 : c.val.toNat ≤ 0xffff
  · simp only [String.utf8EncodeChar, if_neg h1, if_neg h2, if_pos h3, List.cons_append,
      List.nil_append, List.length_cons, List.length_nil]
    exact front_three c rest h2 h3
  · simp only [String.utf8EncodeChar, if_neg h1, if_neg h2, if_neg h3, List.cons_append,
      List.nil_append, List.length_cons, List.length_nil]
    exact front_four c rest h3

end Forms

/-! ### Many characters -/

theorem utf8EncodeChar_ne_nil (c : Char) : String.utf8EncodeChar c ≠ [] := by
  rw [← List.length_pos_iff, String.length_utf8EncodeChar]
  exact Char.utf8Size_pos c

theorem length_le_flatMap_utf8EncodeChar (cs : List Char) :
    cs.length ≤ (cs.flatMap String.utf8EncodeChar).length := by
  induction cs with
  | nil => simp
  | cons c cs ih =>
    rw [List.flatMap_cons, List.length_append, String.length_utf8EncodeChar, List.length_cons]
    have one := Char.utf8Size_pos c
    omega

/-- Reading the encoding of some characters gives them back, one character for each step of
fuel, and never a fault, so the reading is the same whether faults are replaced or not. -/
theorem readFrom_flatMap (lossy : Bool) (cs : List Char) {fuel : Nat} (pos : Nat)
    (acc : List Char) (enough : cs.length ≤ fuel) :
    readFrom lossy fuel pos (cs.flatMap String.utf8EncodeChar) acc = .ok (cs.reverse ++ acc) := by
  induction cs generalizing fuel pos acc with
  | nil => cases fuel <;> simp [readFrom]
  | cons c cs ih =>
    obtain ⟨fuel, rfl⟩ : ∃ f, fuel = f + 1 := ⟨fuel - 1, by simp at enough; omega⟩
    -- the bytes are not empty, so one step reads the first character
    obtain ⟨b, bs, bytes⟩ : ∃ b bs, (c :: cs).flatMap String.utf8EncodeChar = b :: bs := by
      rw [List.flatMap_cons]
      cases split : String.utf8EncodeChar c with
      | nil => exact absurd split (utf8EncodeChar_ne_nil c)
      | cons b bs => exact ⟨b, _, List.cons_append⟩
    rw [bytes, readFrom, ← bytes, List.flatMap_cons, front_utf8EncodeChar]
    dsimp only
    rw [List.drop_left, ih _ _ (by simp at enough; omega)]
    simp

theorem decodeLossy_flatMap (cs : List Char) :
    decodeLossy (cs.flatMap String.utf8EncodeChar) = String.ofList cs := by
  rw [decodeLossy, readFrom_flatMap true cs 0 [] (length_le_flatMap_utf8EncodeChar cs)]
  simp

theorem encodeReplacing_eq_flatMap (text : List Nat) :
    encodeReplacing text = (text.map replacing).flatMap String.utf8EncodeChar := by
  rw [encodeReplacing, List.flatMap_map]

/-- The bytes of a text read back as the text with each surrogate replaced by a question mark. -/
theorem decodeLossy_encodeReplacing (text : List Nat) :
    decodeLossy (encodeReplacing text) = String.ofList (text.map replacing) := by
  rw [encodeReplacing_eq_flatMap, decodeLossy_flatMap]

end Utf8

end Cyclomatic
