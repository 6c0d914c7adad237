import Cyclomatic.Files.Disk
import Mathlib

/-!
Looking paths up. The components of a resolved path are names, and the text of a place of names
resolves back to that place; a name joined to a path resolves one level below it. A lookup of a
path with no null character, short enough and meeting no name too long, gives what the path
names.
-/

namespace Cyclomatic

theorem eq_ok_of_toOption {ε α : Type} {e : Except ε α} {a : α} (found : e.toOption = some a) :
    e = .ok a := by
  cases e with
  | error _ => cases found
  | ok b => cases found; rfl

namespace Path

theorem resolveStep_name {c : String} (name : IsName c) (acc : List String) :
    resolveStep acc c = acc ++ [c] := by
  obtain ⟨nonempty, -, notDot, notDots⟩ := name
  simp [resolveStep, nonempty, notDot, notDots]

@[simp] theorem resolveStep_empty (acc : List String) : resolveStep acc "" = acc := by
  simp [resolveStep]

theorem foldl_resolveStep_names {cs : List String} (names : ∀ c ∈ cs, IsName c)
    (acc : List String) : cs.foldl resolveStep acc = acc ++ cs := by
  induction cs generalizing acc with
  | nil => simp
  | cons c cs ih =>
    rw [List.foldl_cons, resolveStep_name (names c List.mem_cons_self),
      ih (fun d member => names d (List.mem_cons_of_mem c member))]
    simp

theorem piece_of_mem_splitOn {x : Char} {l piece : List Char} (member : piece ∈ l.splitOn x) :
    x ∉ piece ∧ ∀ y ∈ piece, y ∈ l := by
  -- a separator starts a new piece; any other character joins the first piece of the rest
  induction l generalizing piece with
  | nil => simp at member; simp [member]
  | cons y l ih =>
    rw [List.splitOn_cons_eq_if_modifyHead] at member
    split at member
    · rcases List.mem_cons.mp member with rfl | later
      · simp
      · obtain ⟨free, within⟩ := ih later
        exact ⟨free, fun z member => List.mem_cons_of_mem y (within z member)⟩
    · next differ =>
      obtain ⟨first, rest, pieces⟩ := List.exists_cons_of_ne_nil (List.splitOn_ne_nil x l)
      rw [pieces, List.modifyHead_cons] at member
      rcases List.mem_cons.mp member with rfl | later
      · obtain ⟨firstFree, firstWithin⟩ := ih (by rw [pieces]; exact List.mem_cons_self)
        simp only [beq_iff_eq] at differ
        refine ⟨by simp [firstFree, Ne.symm differ], fun z member => ?_⟩
        rcases List.mem_cons.mp member with rfl | inFirst
        · exact List.mem_cons_self
        · exact List.mem_cons_of_mem y (firstWithin z inFirst)
      · obtain ⟨free, within⟩ := ih (by rw [pieces]; exact List.mem_cons_of_mem first later)
        exact ⟨free, fun z member => List.mem_cons_of_mem y (within z member)⟩

theorem slash_not_mem_of_mem_split {p c : String} (member : c ∈ split p) : '/' ∉ c.toList := by
  obtain ⟨piece, inSplit, rfl⟩ := List.mem_map.mp member
  rw [String.toList_ofList]
  exact (piece_of_mem_splitOn inSplit).1

theorem mem_of_mem_split {p c : String} (member : c ∈ split p) {y : Char}
    (inC : y ∈ c.toList) : y ∈ p.toList := by
  obtain ⟨piece, inSplit, rfl⟩ := List.mem_map.mp member
  rw [String.toList_ofList] at inC
  exact (piece_of_mem_splitOn inSplit).2 y inC

theorem mem_of_mem_foldl {cs acc : List String} {c : String}
    (member : c ∈ cs.foldl resolveStep acc) : c ∈ cs ∨ c ∈ acc := by
  induction cs generalizing acc with
  | nil => exact .inr member
  | cons x cs ih =>
    rcases ih member with inRest | inAcc
    · exact .inl (List.mem_cons_of_mem x inRest)
    · unfold resolveStep at inAcc
      split at inAcc
      · exact .inr inAcc
      · split at inAcc
        · exact .inr (List.dropLast_subset acc inAcc)
        · rcases List.mem_append.mp inAcc with old | new
          · exact .inr old
          · exact .inl (by rw [List.mem_singleton.mp new]; exact List.mem_cons_self)

theorem isName_of_mem_foldl {cs acc : List String} (names : ∀ c ∈ acc, IsName c)
    (slashFree : ∀ c ∈ cs, '/' ∉ c.toList) : ∀ c ∈ cs.foldl resolveStep acc, IsName c := by
  -- a step keeps or shortens what is resolved, or appends a component that is not skipped
  induction cs generalizing acc with
  | nil => exact names
  | cons c cs ih =>
    apply ih _ (fun d member => slashFree d (List.mem_cons_of_mem c member))
    intro d member
    unfold resolveStep at member
    split at member
    · exact names d member
    · split at member
      · exact names d (List.dropLast_subset acc member)
      · rcases List.mem_append.mp member with old | new
        · exact names d old
        · next notEmpty notDots =>
          rw [List.mem_singleton] at new
          subst new
          simp only [Bool.or_eq_true, beq_iff_eq, not_or, String.isEmpty_iff] at notEmpty
          simp only [beq_iff_eq] at notDots
          exact ⟨notEmpty.1, slashFree d List.mem_cons_self, notEmpty.2, notDots⟩

theorem isName_workingDir : ∀ c ∈ workingDir, IsName c := by
  decide

theorem isName_origin (p : String) : ∀ c ∈ origin p, IsName c := by
  unfold origin
  split
  · simp
  · exact isName_workingDir

/-- Every component of a resolved path is a name. -/
theorem isName_resolveParts (p : String) : ∀ c ∈ resolveParts p, IsName c :=
  isName_of_mem_foldl (isName_origin p) (fun _ member => slash_not_mem_of_mem_split member)

/-- A resolved path holds no character its text does not, besides the working directory's. -/
theorem null_not_mem_of_mem_resolveParts {p : String} (free : '\x00' ∉ p.toList) :
    ∀ c ∈ resolveParts p, '\x00' ∉ c.toList := by
  intro c member
  rcases mem_of_mem_foldl member with inSplit | inOrigin
  · exact fun null => free (mem_of_mem_split inSplit null)
  · have named : ∀ c ∈ workingDir, '\x00' ∉ c.toList := by decide
    unfold origin at inOrigin
    split at inOrigin
    · cases inOrigin
    · exact named c inOrigin

@[simp] theorem split_slash_append (s : String) : split ("/" ++ s) = "" :: split s := by
  simp [split, List.splitOn_cons_eq_if_modifyHead]

theorem split_intercalate {cs : List String} (slashFree : ∀ c ∈ cs, '/' ∉ c.toList)
    (nonempty : cs ≠ []) : split ("/".intercalate cs) = cs := by
  have pieces : ∀ l ∈ cs.map String.toList, '/' ∉ l := by
    intro l member
    obtain ⟨c, inCs, rfl⟩ := List.mem_map.mp member
    exact slashFree c inCs
  have slash : "/".toList = ['/'] := rfl
  rw [split, String.toList_intercalate, slash,
    List.splitOn_intercalate '/' pieces (by simpa using nonempty), List.map_map]
  conv_rhs => rw [← List.map_id cs]
  apply List.map_congr_left
  intro c _
  simp

-- with no components the text is empty, and its one piece is skipped when resolved
theorem split_intercalate_nil : split ("/".intercalate []) = [""] := rfl

theorem startsWith_intercalate {cs : List String} (names : ∀ c ∈ cs, IsName c) :
    ("/".intercalate cs).startsWith "/" = false := by
  cases cs with
  | nil => decide
  | cons c cs =>
    obtain ⟨nonempty, slashFree, -, -⟩ := names c List.mem_cons_self
    obtain ⟨x, xs, chars⟩ := List.exists_cons_of_ne_nil (by simpa using nonempty : c.toList ≠ [])
    have notSlash : '/' ≠ x := by
      intro same
      rw [chars, ← same] at slashFree
      exact slashFree List.mem_cons_self
    simp [String.toList_intercalate, chars, notSlash]

theorem foldl_split_intercalate {cs : List String} (names : ∀ c ∈ cs, IsName c)
    (acc : List String) : (split ("/".intercalate cs)).foldl resolveStep acc = acc ++ cs := by
  cases cs with
  | nil => rw [split_intercalate_nil, List.foldl_cons, List.foldl_nil, resolveStep_empty,
      List.append_nil]
  | cons c cs =>
    rw [split_intercalate (fun d member => (names d member).2.1) (List.cons_ne_nil c cs),
      foldl_resolveStep_names names]

/-- A relative path of names resolves below the working directory, one component per name. -/
theorem resolveParts_intercalate {cs : List String} (names : ∀ c ∈ cs, IsName c) :
    resolveParts ("/".intercalate cs) = workingDir ++ cs := by
  rw [resolveParts, origin, startsWith_intercalate names, foldl_split_intercalate names]
  rfl

@[simp] theorem startsWith_absolute (cs : List String) : (absolute cs).startsWith "/" = true := by
  simp [absolute]

@[simp] theorem origin_absolute (cs : List String) : origin (absolute cs) = [] := by
  rw [origin, if_pos (startsWith_absolute cs)]

/-- The text of a place of names resolves to that place. -/
theorem resolveParts_absolute {cs : List String} (names : ∀ c ∈ cs, IsName c) :
    resolveParts (absolute cs) = cs := by
  rw [resolveParts, origin_absolute, absolute, split_slash_append, List.foldl_cons,
    resolveStep_empty, foldl_split_intercalate names]
  rfl

/-- The components a lookup of the text of a place of names visits are the place's. -/
theorem components_absolute {cs : List String} (names : ∀ c ∈ cs, IsName c) :
    components (absolute cs) = cs := by
  rw [components, absolute, split_slash_append, List.filter_cons_of_neg (by simp)]
  cases cs with
  | nil => rfl
  | cons c cs =>
    rw [split_intercalate (fun d member => (names d member).2.1) (List.cons_ne_nil c cs),
      List.filter_eq_self]
    intro d member
    simpa using (names d member).1

theorem place_absolute {cs : List String} (names : ∀ c ∈ cs, IsName c) :
    place (absolute cs) =
      if workingDir.isPrefixOf cs then .below (cs.drop workingDir.length)
      else if cs.isPrefixOf workingDir then .above else .outside := by
  unfold place
  rw [resolveParts_absolute names]

theorem mem_of_mem_intercalate {y : Char} {sep : List Char} (notSep : y ∉ sep) :
    ∀ {ls : List (List Char)}, y ∈ sep.intercalate ls → ∃ l ∈ ls, y ∈ l
  | [], member => by simp at member
  | [l], member => ⟨l, List.mem_singleton_self l, by simpa using member⟩
  | l :: l' :: ls, member => by
    rw [List.intercalate_cons_cons, List.mem_append, List.mem_append] at member
    rcases member with (here | inSep) | later
    · exact ⟨l, List.mem_cons_self, here⟩
    · exact absurd inSep notSep
    · obtain ⟨m, inLs, inM⟩ := mem_of_mem_intercalate notSep later
      exact ⟨m, List.mem_cons_of_mem l inLs, inM⟩

theorem null_not_mem_absolute {cs : List String} (free : ∀ c ∈ cs, '\x00' ∉ c.toList) :
    '\x00' ∉ (absolute cs).toList := by
  rw [absolute, String.toList_append, String.toList_intercalate, List.mem_append]
  rintro (slash | inner)
  · simp at slash
  · obtain ⟨l, inL, null⟩ := mem_of_mem_intercalate (by decide) inner
    obtain ⟨c, inCs, rfl⟩ := List.mem_map.mp inL
    exact free c inCs null

@[simp] theorem split_append_slash (b c : String) : split (b ++ "/" ++ c) = split b ++ split c := by
  simp [split, List.splitOn, String.toList_append, List.splitOnP_append_cons]

theorem split_of_slash_free {s : String} (free : '/' ∉ s.toList) : split s = [s] := by
  rw [split, List.splitOn, List.splitOnP_eq_singleton]
  · simp
  · intro x member
    simp only [beq_eq_false_iff_ne]
    rintro rfl
    exact free member

theorem startsWith_of_slash_free {s : String} (free : '/' ∉ s.toList) :
    s.startsWith "/" = false := by
  cases chars : s.toList with
  | nil => simp_all
  | cons x xs =>
    have notSlash : '/' ≠ x := by
      rintro rfl
      simp [chars] at free
    simp [chars, notSlash]

theorem origin_append {s : String} (nonempty : s ≠ "") (t : String) :
    origin (s ++ t) = origin s := by
  obtain ⟨x, xs, chars⟩ := List.exists_cons_of_ne_nil (by simpa using nonempty : s.toList ≠ [])
  simp [origin, String.startsWith_string_iff, chars]

theorem resolveParts_append_slash {s : String} (nonempty : s ≠ "") :
    resolveParts (s ++ "/") = resolveParts s := by
  have empty : split "" = [""] := rfl
  have pieces : split (s ++ "/") = split s ++ [""] := by
    simpa [empty] using split_append_slash s ""
  rw [resolveParts, resolveParts, origin_append nonempty, pieces, List.foldl_append]
  simp

theorem resolveParts_slash_append (b c : String) :
    resolveParts (b ++ "/" ++ c) = (split c).foldl resolveStep (resolveParts (b ++ "/")) := by
  have empty : split "" = [""] := rfl
  have pieces : split (b ++ "/") = split b ++ [""] := by
    simpa [empty] using split_append_slash b ""
  rw [resolveParts, resolveParts, origin_append (by simp) c, split_append_slash, pieces,
    List.foldl_append, List.foldl_append]
  simp

theorem exists_of_endsWith_slash {a : String} (slash : a.endsWith "/" = true) :
    ∃ b, a = b ++ "/" := by
  simp only [← String.endsWith_toSlice, String.Slice.endsWith_string_iff] at slash
  obtain ⟨bl, whole⟩ := slash
  have chars : a.toList = bl ++ ['/'] := by simpa using whole.symm
  exact ⟨String.ofList bl, String.toList_injective (by simp [chars])⟩

/-- A name joined to a path resolves one level below where the path does. -/
@[simp] theorem resolveParts_join (a : String) {n : String} (name : IsName n) :
    resolveParts (join a n) = resolveParts a ++ [n] := by
  have pieces : split n = [n] := split_of_slash_free name.2.1
  have relative : n.startsWith "/" = false := startsWith_of_slash_free name.2.1
  unfold join
  rw [if_neg (by simp [relative])]
  split
  · next bare =>
    rcases Bool.or_eq_true_iff.mp bare with empty | slash
    · -- joined to nothing, the name resolves from the working directory
      rw [String.isEmpty_iff.mp empty, String.empty_append, resolveParts, pieces, origin,
        if_neg (by simp [relative]), List.foldl_cons, List.foldl_nil, resolveStep_name name]
      rfl
    · obtain ⟨b, rfl⟩ := exists_of_endsWith_slash slash
      rw [resolveParts_slash_append, pieces, List.foldl_cons, List.foldl_nil, resolveStep_name name]
  · next notBare =>
    have nonempty : a ≠ "" := by
      rintro rfl
      simp at notBare
    rw [resolveParts_slash_append, resolveParts_append_slash nonempty, pieces, List.foldl_cons,
      List.foldl_nil, resolveStep_name name]

theorem place_join_below {a : String} {parts : List String} (placed : place a = .below parts)
    {n : String} (name : IsName n) : place (join a n) = .below (parts ++ [n]) := by
  unfold place at placed ⊢
  dsimp only at placed ⊢
  rw [resolveParts_join a name]
  split at placed
  · next inside =>
    cases placed
    have inside' : workingDir <+: resolveParts a := List.isPrefixOf_iff_prefix.mp inside
    rw [if_pos (List.isPrefixOf_iff_prefix.mpr (inside'.trans (List.prefix_append _ _))),
      List.drop_append_of_le_length (inside'.length_le)]
  · split at placed <;> cases placed

/-- Each component of a place counts its bytes and the slash before it. -/
theorem utf8ByteSize_absolute {cs : List String} (nonempty : cs ≠ []) :
    (absolute cs).utf8ByteSize = (cs.map fun c => c.utf8ByteSize + 1).sum := by
  induction cs with
  | nil => contradiction
  | cons c cs ih =>
    cases cs with
    | nil =>
      simp only [absolute, String.intercalate_singleton, String.utf8ByteSize_append]
      simp only [List.map_cons, List.map_nil, List.sum_cons, List.sum_nil]
      have slash : ("/" : String).utf8ByteSize = 1 := rfl
      omega
    | cons c' cs =>
      have split : absolute (c :: c' :: cs) = "/" ++ c ++ absolute (c' :: cs) := by
        simp only [absolute, String.intercalate_cons_cons, String.append_assoc]
      have slash : ("/" : String).utf8ByteSize = 1 := rfl
      rw [split, String.utf8ByteSize_append, String.utf8ByteSize_append, ih (List.cons_ne_nil _ _),
        slash]
      simp only [List.map_cons, List.sum_cons]
      omega

/-- A place above another, with a name no longer, has text no longer. -/
theorem utf8ByteSize_absolute_le {dir top : List String} (above : dir <+: top) {a b : String}
    (shorter : a.utf8ByteSize ≤ b.utf8ByteSize) :
    (absolute (dir ++ [a])).utf8ByteSize ≤ (absolute (top ++ [b])).utf8ByteSize := by
  rw [utf8ByteSize_absolute (by simp), utf8ByteSize_absolute (by simp)]
  obtain ⟨rest, rfl⟩ := above
  simp only [List.map_append, List.sum_append, List.map_cons, List.map_nil, List.sum_cons,
    List.sum_nil]
  omega

end Path

namespace Disk

variable {d : Disk}

theorem entry?_of_statEntry? {p : String} {e : Entry} (found : d.statEntry? p = some e) :
    d.entry? p = some e := by
  unfold statEntry? stat at found
  split_ifs at found
  simpa using found

theorem bytes?_of_fileSize? {p : String} {n : Nat} (sized : d.fileSize? p = some n) :
    ∃ bs, d.bytes? p = some bs ∧ bs.length = n := by
  unfold fileSize? at sized
  split at sized
  · next bs _ _ found =>
    cases sized
    exact ⟨bs, by simp [bytes?, Disk.entry?_of_statEntry? found], rfl⟩
  · cases sized

theorem meetsLongName_of_append {here xs ys : List String}
    (clear : d.meetsLongName here (xs ++ ys) = false) : d.meetsLongName here xs = false := by
  induction xs generalizing here with
  | nil => rfl
  | cons x xs ih =>
    simp only [List.cons_append, meetsLongName, Bool.and_eq_false_iff,
      Bool.or_eq_false_iff] at clear ⊢
    rcases clear with notDir | ⟨short, rest⟩
    · exact .inl notDir
    · exact .inr ⟨short, ih rest⟩

theorem meetsLongName_of_prefix {here xs ys : List String} (before : xs <+: ys)
    (clear : d.meetsLongName here ys = false) : d.meetsLongName here xs = false := by
  obtain ⟨rest, rfl⟩ := before
  exact meetsLongName_of_append clear

theorem meetsLongName_short {here ys : List String}
    (short : ∀ c ∈ ys, c.utf8ByteSize ≤ maxNameBytes) : d.meetsLongName here ys = false := by
  induction ys generalizing here with
  | nil => rfl
  | cons y ys ih =>
    have notLong : ¬ maxNameBytes < y.utf8ByteSize := Nat.not_lt.mpr (short y List.mem_cons_self)
    simp [meetsLongName, notLong, ih fun c member => short c (List.mem_cons_of_mem y member)]

theorem meetsLongName_append_short {here xs ys : List String}
    (clear : d.meetsLongName here xs = false) (short : ∀ c ∈ ys, c.utf8ByteSize ≤ maxNameBytes) :
    d.meetsLongName here (xs ++ ys) = false := by
  induction xs generalizing here with
  | nil => exact meetsLongName_short short
  | cons x xs ih =>
    simp only [List.cons_append, meetsLongName, Bool.and_eq_false_iff,
      Bool.or_eq_false_iff] at clear ⊢
    rcases clear with notDir | ⟨notLong, rest⟩
    · exact .inl notDir
    · exact .inr ⟨notLong, ih rest⟩

/-- The three ways a lookup fails, and what it gives when none happens. -/
theorem stat_eq (p : String) :
    d.stat p =
      if '\x00' ∈ p.toList then .error .nullByte
      else if maxPathBytes ≤ p.utf8ByteSize ∨
          d.meetsLongName (Path.origin p) (Path.components p) = true then .error (.nameTooLong p)
      else .ok (d.entry? p) := by
  unfold stat
  simp only [Bool.or_eq_true, decide_eq_true_eq]

theorem stat_eq_ok {p : String} (free : '\x00' ∉ p.toList) (short : p.utf8ByteSize < maxPathBytes)
    (clear : d.meetsLongName (Path.origin p) (Path.components p) = false) :
    d.stat p = .ok (d.entry? p) := by
  have fits : ¬ (maxPathBytes ≤ p.utf8ByteSize ∨ d.meetsLongName (Path.origin p)
      (Path.components p) = true) := by
    simpa [clear] using short
  rw [stat_eq, if_neg free, if_neg fits]

theorem meetsLongName_of_stat_ok {p : String} {e : Option Entry} (found : d.stat p = .ok e) :
    d.meetsLongName (Path.origin p) (Path.components p) = false := by
  rw [stat_eq] at found
  split_ifs at found with null long
  simpa using (not_or.mp long).2

theorem statEntry?_of_stat_ok {p : String} {e : Option Entry} (found : d.stat p = .ok e) :
    d.statEntry? p = e := by
  rw [Disk.statEntry?, found]

end Disk

end Cyclomatic
