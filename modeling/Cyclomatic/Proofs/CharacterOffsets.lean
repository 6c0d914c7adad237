import Cyclomatic.Text.Offsets

/-!
Character offsets of byte offsets. The offsets table of a text gives, at the byte where a
character's encoding starts, the index of that character, and at the end the number of
characters; it never decreases. A text with as many bytes as characters needs no table, and
leaving it out changes no offset there. So every byte offset between two characters converts to
the index of the character after it, whatever the text holds.
-/

namespace Cyclomatic

namespace Utf8

@[simp] theorem length_encodeReplacing_singleton (n : Nat) :
    (encodeReplacing [n]).length = (replacing n).utf8Size := by
  simp [encodeReplacing]

@[simp] theorem encodeReplacing_append (a b : List Nat) :
    encodeReplacing (a ++ b) = encodeReplacing a ++ encodeReplacing b := by
  simp [encodeReplacing]

theorem encodeReplacing_cons (n : Nat) (rest : List Nat) :
    encodeReplacing (n :: rest) = encodeReplacing [n] ++ encodeReplacing rest :=
  encodeReplacing_append [n] rest

/-- Every code point takes at least one byte. -/
theorem length_le_encodeReplacing (text : List Nat) :
    text.length ≤ (encodeReplacing text).length := by
  induction text with
  | nil => simp [encodeReplacing]
  | cons n rest ih =>
    rw [encodeReplacing_cons n rest, List.length_append, length_encodeReplacing_singleton]
    have one := Char.utf8Size_pos (replacing n)
    simp only [List.length_cons]
    omega

end Utf8

namespace SourceText

open Utf8

/-- The byte offset at which the character at index `i` of a text starts: the number of bytes
of the characters before it. -/
def byteOffset (text : List Nat) (i : Nat) : Nat := (encodeReplacing (text.take i)).length

theorem byteOffset_cons_succ (n : Nat) (rest : List Nat) (i : Nat) :
    byteOffset (n :: rest) (i + 1) = (encodeReplacing [n]).length + byteOffset rest i := by
  rw [byteOffset, byteOffset, List.take_succ_cons, encodeReplacing_cons n (rest.take i),
    List.length_append]

@[simp] theorem byteOffset_length (text : List Nat) :
    byteOffset text text.length = (encodeReplacing text).length := by
  rw [byteOffset, List.take_length]

/-- The bytes before a character and the bytes from it on make up the bytes of the text. -/
theorem byteOffset_add_rest (text : List Nat) (i : Nat) :
    byteOffset text i + (encodeReplacing (text.drop i)).length = (encodeReplacing text).length := by
  rw [byteOffset, ← List.length_append, ← encodeReplacing_append, List.take_append_drop]

theorem le_byteOffset {text : List Nat} {i : Nat} (bound : i ≤ text.length) :
    i ≤ byteOffset text i := by
  have taken := length_le_encodeReplacing (text.take i)
  rw [List.length_take, Nat.min_eq_left bound] at taken
  exact taken

theorem byteOffset_lt {text : List Nat} {i : Nat} (bound : i < text.length) :
    byteOffset text i < (encodeReplacing text).length := by
  have whole := byteOffset_add_rest text i
  have rest := length_le_encodeReplacing (text.drop i)
  rw [List.length_drop] at rest
  omega

/-- When a text has as many bytes as characters, each character starts at its own index. -/
theorem byteOffset_eq_self {text : List Nat} (oneEach : (encodeReplacing text).length = text.length)
    {i : Nat} (bound : i ≤ text.length) : byteOffset text i = i := by
  -- both parts of the bytes have at least one byte per character, and together no more
  have whole := byteOffset_add_rest text i
  have rest := length_le_encodeReplacing (text.drop i)
  have atLeast := le_byteOffset bound
  rw [List.length_drop] at rest
  omega

/-! ### The offsets table -/

@[simp] theorem length_offsetsFrom (start : Nat) (text : List Nat) :
    (offsetsFrom start text).length = (encodeReplacing text).length := by
  induction text generalizing start with
  | nil => simp [offsetsFrom, encodeReplacing]
  | cons n rest ih =>
    rw [offsetsFrom, List.length_append, List.length_replicate, ih, encodeReplacing_cons n rest,
      List.length_append]

theorem mem_offsetsFrom {start x : Nat} {text : List Nat} (member : x ∈ offsetsFrom start text) :
    start ≤ x ∧ x < start + text.length := by
  induction text generalizing start with
  | nil => simp [offsetsFrom] at member
  | cons n rest ih =>
    rw [offsetsFrom, List.mem_append] at member
    rcases member with here | later
    · rw [(List.mem_replicate.mp here).2]
      simp
    · have := ih later
      simp only [List.length_cons]
      omega

theorem pairwise_offsetsFrom (start : Nat) (text : List Nat) :
    (offsetsFrom start text).Pairwise (· ≤ ·) := by
  induction text generalizing start with
  | nil => exact List.Pairwise.nil
  | cons n rest ih =>
    rw [offsetsFrom, List.pairwise_append]
    refine ⟨List.pairwise_replicate.mpr (.inr (Nat.le_refl start)), ih (start + 1), ?_⟩
    intro x here y later
    rw [(List.mem_replicate.mp here).2]
    have := mem_offsetsFrom later
    omega

theorem pairwise_offsetTable (text : List Nat) : (offsetTable text).Pairwise (· ≤ ·) := by
  rw [offsetTable, List.pairwise_append]
  refine ⟨pairwise_offsetsFrom 0 text, List.pairwise_singleton _ _, ?_⟩
  intro x member y last
  rw [List.mem_singleton.mp last]
  have := mem_offsetsFrom member
  omega

@[simp] theorem length_offsetTable (text : List Nat) :
    (offsetTable text).length = (encodeReplacing text).length + 1 := by
  rw [offsetTable, List.length_append, length_offsetsFrom, List.length_singleton]

/-- At the byte where a character's encoding starts, the entries for the characters numbered
from `start` give that character's number. -/
theorem getElem?_offsetsFrom_byteOffset (start : Nat) {text : List Nat} {i : Nat}
    (bound : i < text.length) :
    (offsetsFrom start text)[byteOffset text i]? = some (start + i) := by
  induction text generalizing start i with
  | nil => exact absurd bound (Nat.not_lt_zero i)
  | cons n rest ih =>
    have width := Char.utf8Size_pos (replacing n)
    rw [offsetsFrom]
    cases i with
    | zero =>
      -- the character's own bytes come first
      rw [show byteOffset (n :: rest) 0 = 0 from rfl,
        List.getElem?_append_left (by simpa using width), List.getElem?_replicate]
      simp [width]
    | succ i =>
      -- the bytes of the first character come before
      rw [byteOffset_cons_succ, List.getElem?_append_right (by simp), List.length_replicate,
        Nat.add_sub_cancel_left, ih (start + 1) (by simpa using bound)]
      congr 1
      omega

theorem lookup_eq_getD {table : List Nat} {b : Nat} (inside : b < table.length) :
    lookup table b = table.getD b 0 := by
  rw [lookup, Nat.min_eq_left (by omega)]

/-- The table inverts the byte offset of each character, and of the end of the text. -/
theorem lookup_offsetTable_byteOffset {text : List Nat} {i : Nat} (bound : i ≤ text.length) :
    lookup (offsetTable text) (byteOffset text i) = i := by
  rcases Nat.lt_or_eq_of_le bound with inner | last
  · have before := byteOffset_lt inner
    rw [lookup_eq_getD (by simp; omega), List.getD_eq_getElem?_getD,
      offsetTable, List.getElem?_append_left (by simpa using before),
      getElem?_offsetsFrom_byteOffset 0 inner]
    simp
  · -- the end of the bytes reads the last entry, the number of characters
    subst last
    rw [lookup_eq_getD (by simp),
      List.getD_eq_getElem?_getD, offsetTable, byteOffset_length,
      List.getElem?_append_right (Nat.le_of_eq (length_offsetsFrom 0 text)), length_offsetsFrom,
      Nat.sub_self]
    rfl

theorem lookup_mono {table : List Nat} (sorted : table.Pairwise (· ≤ ·)) {a b : Nat}
    (le : a ≤ b) : lookup table a ≤ lookup table b := by
  unfold lookup
  cases table with
  | nil => simp
  | cons x rest =>
    have ia : min a rest.length < (x :: rest).length := by simp only [List.length_cons]; omega
    have ib : min b rest.length < (x :: rest).length := by simp only [List.length_cons]; omega
    simp only [List.length_cons, Nat.add_sub_cancel]
    rw [List.getD_eq_getElem?_getD, List.getElem?_eq_getElem ia, Option.getD_some,
      List.getD_eq_getElem?_getD, List.getElem?_eq_getElem ib, Option.getD_some]
    rcases Nat.lt_or_eq_of_le (show min a rest.length ≤ min b rest.length by omega) with lt | same
    · exact List.pairwise_iff_getElem.mp sorted _ _ ia ib lt
    · simp only [same, Nat.le_refl]

/-- When every character takes one byte, the table is the identity on the text's offsets. -/
theorem lookup_offsetTable_of_oneEach {text : List Nat}
    (oneEach : (encodeReplacing text).length = text.length) {b : Nat} (bound : b ≤ text.length) :
    lookup (offsetTable text) b = b := by
  have atItself := lookup_offsetTable_byteOffset bound
  rw [byteOffset_eq_self oneEach bound] at atItself
  exact atItself

/-- A text's character offsets: the byte offset itself when every character takes one byte,
else the table's entry. -/
theorem charOffset_create (text : List Nat) (b : Nat) :
    (create text).charOffset b =
      if (encodeReplacing text).length = text.length then b else lookup (offsetTable text) b := by
  unfold charOffset create offsets?
  by_cases oneEach : (encodeReplacing text).length = text.length
  · simp only [oneEach, if_true]
  · simp only [oneEach, if_false]

theorem offsets_create_eq_none_iff (text : List Nat) :
    (create text).offsets = none ↔ (create text).data.length = text.length := by
  unfold create offsets?
  by_cases oneEach : (encodeReplacing text).length = text.length <;> simp [oneEach]

/-- The character offsets of a text agree with its table on every byte offset of the text,
whether the table is kept or left out. -/
theorem charOffset_eq_lookup (text : List Nat) {b : Nat} (bound : b ≤ (create text).data.length) :
    (create text).charOffset b = lookup (offsetTable text) b := by
  rw [charOffset_create]
  split
  · next oneEach => exact (lookup_offsetTable_of_oneEach oneEach (oneEach ▸ bound)).symm
  · rfl

theorem charOffset_mono (text : List Nat) {a b : Nat} (le : a ≤ b) :
    (create text).charOffset a ≤ (create text).charOffset b := by
  rw [charOffset_create, charOffset_create]
  split
  · exact le
  · exact lookup_mono (pairwise_offsetTable text) le

/-- For any text of code points, astral characters and lone surrogates included: the character
offset of the byte at which a character's encoding starts is the character's index, and that of
the end of the bytes is the number of characters; character offsets never decrease; the table
is left out exactly when there are as many bytes as characters, and then every byte offset of
the text converts to the same character offset as the table would give. -/
theorem charOffset_byteOffset_eq_index (text : List Nat) :
    (∀ i ≤ text.length, (create text).charOffset (byteOffset text i) = i) ∧
    (∀ a b, a ≤ b → (create text).charOffset a ≤ (create text).charOffset b) ∧
    ((create text).offsets = none ↔ (create text).data.length = text.length) ∧
    ∀ b ≤ (create text).data.length,
      (create text).charOffset b = lookup (offsetTable text) b := by
  refine ⟨?_, fun a b le => charOffset_mono text le, offsets_create_eq_none_iff text,
    fun b bound => charOffset_eq_lookup text bound⟩
  intro i bound
  -- a character starts within the bytes of the text, where the table decides
  have inside : byteOffset text i ≤ (create text).data.length := by
    have whole := byteOffset_add_rest text i
    show byteOffset text i ≤ (encodeReplacing text).length
    omega
  rw [charOffset_eq_lookup text inside, lookup_offsetTable_byteOffset bound]

/-- After `a` (one byte) and an astral character (four bytes), the lone surrogate that follows
starts at byte 5, which converts back to its index 2. -/
theorem charOffset_after_astral_character :
    2 ≤ [0x61, 0x1F600, 0xD800, 0xE9].length ∧
      byteOffset [0x61, 0x1F600, 0xD800, 0xE9] 2 = 5 ∧
      (create [0x61, 0x1F600, 0xD800, 0xE9]).charOffset 5 = 2 := by
  have start : byteOffset [0x61, 0x1F600, 0xD800, 0xE9] 2 = 5 := by decide
  refine ⟨by decide, start, ?_⟩
  rw [← start]
  exact (charOffset_byteOffset_eq_index [0x61, 0x1F600, 0xD800, 0xE9]).1 2 (by decide)

end SourceText

end Cyclomatic
