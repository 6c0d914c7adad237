import Cyclomatic.Proofs.Utf8RoundTrip
import Cyclomatic.Proofs.CharacterOffsets
import Cyclomatic.Proofs.DocumentOutline

/-!
The text of a node, read from its bytes, against the characters its span delimits. Between the
starts of two characters lie the bytes of the characters between them, which read back as those
characters with each surrogate replaced, so a function's name, the text of its name node, is the
text of the characters its span delimits.
-/

namespace Cyclomatic

namespace SourceText

open Utf8

@[simp] theorem data_create (text : List Nat) : (create text).data = encodeReplacing text := rfl

theorem encodeReplacing_take_drop (text : List Nat) (k : Nat) :
    encodeReplacing text = encodeReplacing (text.take k) ++ encodeReplacing (text.drop k) := by
  rw [← encodeReplacing_append, List.take_append_drop]

theorem drop_byteOffset (text : List Nat) (i : Nat) :
    (encodeReplacing text).drop (byteOffset text i) = encodeReplacing (text.drop i) := by
  rw [encodeReplacing_take_drop text i, byteOffset, List.drop_left]

theorem take_encodeReplacing_take (text : List Nat) (k : Nat) :
    (encodeReplacing text).take (encodeReplacing (text.take k)).length =
      encodeReplacing (text.take k) := by
  rw [encodeReplacing_take_drop text k, List.take_left]

theorem byteOffset_add (text : List Nat) (i k : Nat) :
    byteOffset text (i + k) = byteOffset text i + (encodeReplacing ((text.drop i).take k)).length := by
  rw [byteOffset, byteOffset, List.take_add, encodeReplacing_append, List.length_append]

theorem byteOffset_mono (text : List Nat) {i j : Nat} (le : i ≤ j) :
    byteOffset text i ≤ byteOffset text j := by
  obtain ⟨k, rfl⟩ := Nat.exists_eq_add_of_le le
  rw [byteOffset_add]
  omega

/-- The bytes between the starts of two characters are the bytes of the characters between. -/
theorem byteOffset_sub (text : List Nat) (i j : Nat) :
    byteOffset text j - byteOffset text i = (encodeReplacing ((text.drop i).take (j - i))).length := by
  by_cases le : i ≤ j
  · obtain ⟨k, rfl⟩ := Nat.exists_eq_add_of_le le
    rw [byteOffset_add, Nat.add_sub_cancel_left, Nat.add_sub_cancel_left]
  · have before := byteOffset_mono text (show j ≤ i by omega)
    rw [Nat.sub_eq_zero_of_le before, Nat.sub_eq_zero_of_le (show j ≤ i by omega), List.take_zero]
    rfl

theorem bytes_between (text : List Nat) (i j : Nat) :
    ((encodeReplacing text).drop (byteOffset text i)).take (byteOffset text j - byteOffset text i) =
      encodeReplacing ((text.drop i).take (j - i)) := by
  rw [drop_byteOffset, byteOffset_sub, take_encodeReplacing_take]

/-- The text of the bytes from the start of one character to the start of another is the text
of the characters between them, each surrogate replaced. -/
theorem nodeText_byteOffset (text : List Nat) (i j : Nat) :
    (create text).nodeText (byteOffset text i) (byteOffset text j) =
      String.ofList ((text.map replacing).extract i j) := by
  rw [nodeText, data_create, bytes_between, decodeLossy_encodeReplacing, List.extract_eq_take_drop, List.map_take,
    List.map_drop]

theorem charOffset_byteOffset (text : List Nat) {i : Nat} (bound : i ≤ text.length) :
    (create text).charOffset (byteOffset text i) = i := by
  have inside : byteOffset text i ≤ (create text).data.length := by
    have whole := byteOffset_add_rest text i
    rw [data_create]
    omega
  rw [charOffset_eq_lookup text inside, lookup_offsetTable_byteOffset bound]

/-- The characters between two positions of a parsed text with its surrogates replaced are
the text of the bytes between the byte offsets of those positions. -/
theorem slice_ofString (text : List Nat) (dialect : Syntax.Dialect) (a b : Nat) :
    (Syntax.Source.ofString (String.ofList (text.map replacing)) dialect).slice a b =
      (create text).nodeText (byteOffset text a) (byteOffset text b) := by
  rw [nodeText_byteOffset]
  simp only [Syntax.Source.slice, Syntax.Source.ofString, Array.toList_extract,
    String.toList_ofList, List.toList_toArray]

end SourceText

theorem Language.parse_source {l : Language} {text : String} {d : Document}
    (parsed : l.parse text = .ok d) : d.source = Syntax.Source.ofString text l.dialect := by
  unfold Language.parse at parsed
  dsimp only at parsed
  split at parsed
  · cases parsed
    rfl
  · cases parsed

namespace Document

theorem outlineOf_name (s : Syntax.Source) (parent : Option Syntax.Node) (n : Syntax.Node) :
    (outlineOf s parent n).name =
      if (outlineOf s parent n).isFunction then (nameNode parent n).map fun m => s.slice m.start m.stop
      else none := by
  rcases n with ⟨kind, field, start, stop, cs, op⟩
  rfl

open SourceText Utf8

/-- Names read from bytes agree with spans read from characters. For a text of code points,
surrogates included, the bytes from the start of one character to the start of another read as
the characters between the character offsets of those byte offsets, each surrogate replaced by a
question mark. So in a document parsed from that text, a function's name is the text of the
bytes of its name node, which are the characters its span delimits; a node that is not a
function has no name. -/
theorem function_names_are_source_text (text : List Nat) :
    (∀ i ≤ text.length, ∀ j ≤ text.length,
      (create text).nodeText (byteOffset text i) (byteOffset text j) =
        String.ofList ((text.map replacing).extract
          ((create text).charOffset (byteOffset text i))
          ((create text).charOffset (byteOffset text j)))) ∧
    ∀ (l : Language) (d : Document), l.parse (String.ofList (text.map replacing)) = .ok d →
      ∀ (parent : Option Syntax.Node) (n : Syntax.Node),
        (outlineOf d.source parent n).name =
          (if (outlineOf d.source parent n).isFunction then
            (nameNode parent n).map fun m =>
              (create text).nodeText (byteOffset text m.start) (byteOffset text m.stop)
          else none) ∧
        ((outlineOf d.source parent n).isFunction = true →
          (outlineOf d.source parent n).name = (nameNode parent n).map fun m =>
            String.ofList ((text.map replacing).extract (spanOf d.source m).startOffset.toNat
              (spanOf d.source m).endOffset.toNat)) := by
  refine ⟨fun i hi j hj => ?_, fun l d parsed parent n => ?_⟩
  · rw [charOffset_byteOffset text hi, charOffset_byteOffset text hj, nodeText_byteOffset]
  · -- the parser read the text with its surrogates replaced, so its slices are node texts
    have sliced : ∀ m : Syntax.Node, d.source.slice m.start m.stop =
        (create text).nodeText (byteOffset text m.start) (byteOffset text m.stop) := by
      intro m
      rw [Language.parse_source parsed, slice_ofString]
    refine ⟨?_, fun isFunction => ?_⟩
    · simp only [outlineOf_name, sliced]
    · simp only [outlineOf_name, isFunction, if_true, sliced, nodeText_byteOffset, spanOf,
        Int.toNat_natCast]

/-- A string literal holding an astral character and a lone surrogate, then functions named by a
declarator and by a key, and an arrow function with no name. -/
def namedFunctions : List Nat :=
  "\"😀".toList.map Char.toNat ++ [0xD800] ++
    "\";const bound = function () \x7b\x7d;o = \x7b prop: () => 2 \x7d;f(x => x);".toList.map Char.toNat

theorem function_names_after_astral_and_surrogate :
    (create namedFunctions).nodeText (byteOffset namedFunctions 1) (byteOffset namedFunctions 3) =
        "😀?" ∧
    ∃ d, Language.javascript.parse (String.ofList (namedFunctions.map replacing)) = .ok d ∧
      ((d.root.preorderFrom none).filter fun e => (outlineOf d.source e.1 e.2).isFunction).map
          (fun e => (outlineOf d.source e.1 e.2).name) =
        [some "bound", some "prop", none] := by
  refine ⟨?_, ?_⟩
  · rw [(function_names_are_source_text namedFunctions).1 1 (by decide +kernel) 3 (by decide +kernel)]
    decide +kernel
  · have checked : (Language.javascript.parse (String.ofList (namedFunctions.map replacing))).toOption.map
        (fun d => decide ((((d.root.preorderFrom none).filter
          fun e => (outlineOf d.source e.1 e.2).isFunction).map fun e =>
            (nameNode e.1 e.2).map fun m =>
              (create namedFunctions).nodeText (byteOffset namedFunctions m.start)
                (byteOffset namedFunctions m.stop)) =
          [some "bound", some "prop", none])) =
        some true := by
      decide +kernel
    obtain ⟨d, parsed, read⟩ := Analysis.exists_ok_of_check checked
    refine ⟨d, parsed, ?_⟩
    rw [← read]
    apply List.map_congr_left
    intro e member
    rw [((function_names_are_source_text namedFunctions).2 .javascript d parsed e.1 e.2).1,
      if_pos (List.mem_filter.mp member).2]

end Document

end Cyclomatic
