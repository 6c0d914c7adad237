import Cyclomatic.Config.File
import Cyclomatic.Proofs.DiskLookup

/-!
Where a settings file is found. A null character in the start is refused; otherwise the start is
looked up to learn whether it is a file, and the search tries its directory and each one above it,
nearest first, and in each the settings file names in order. A lookup that fails (a name too long
in a directory it reaches, or a path of `maxPathBytes` bytes or more) ends the search with its
fault. The search returns exactly when the start holds no null character, its lookup succeeds,
and the first place tried is short enough (`Searchable`); it then gives the first name found in
the nearest directory.
-/

namespace Cyclomatic

namespace Config

section Monadic

variable {α β ε : Type}

theorem findSomeM?_eq_ok {f : α → Except ε (Option β)} {g : α → Option β} :
    ∀ {l : List α}, (∀ x ∈ l, f x = .ok (g x)) → l.findSomeM? f = .ok (l.findSome? g)
  | [], _ => rfl
  | x :: l, each => by
    rw [List.findSomeM?_cons, each x List.mem_cons_self, List.findSome?_cons]
    cases g x with
    | some b => rfl
    | none => exact findSomeM?_eq_ok fun y member => each y (List.mem_cons_of_mem x member)

theorem findSomeM?_cons_error {f : α → Except ε (Option β)} {x : α} {l : List α} {e : ε}
    (failed : f x = .error e) : (x :: l).findSomeM? f = .error e := by
  rw [List.findSomeM?_cons, failed]
  rfl

end Monadic

/-! ### The start -/

/-- The text of the place a start resolves to. -/
def startText (start : String) : String := Path.absolute (Path.resolveParts start)

/-- The directory a search begins in: where the start resolves, or the directory holding it when
its lookup finds a file. -/
def startDir (d : Disk) (start : String) : List String :=
  match d.stat (startText start) with
  | .ok e => searchStart (Path.resolveParts start) e
  | .error _ => Path.resolveParts start

/-- When the search returns: the start holds no null character, its lookup succeeds, and the
first place tried is shorter than the system's limit. -/
structure Searchable (d : Disk) (start : String) : Prop where
  free : '\x00' ∉ start.toList
  found : ∃ e, d.stat (startText start) = .ok e
  short : (Path.absolute (startDir d start ++ [".complexitylens.yaml"])).utf8ByteSize <
    Disk.maxPathBytes

variable {d : Disk} {start : String}

theorem find_of_null (null : '\x00' ∈ start.toList) : find d start = .error .nullByte := by
  unfold find
  rw [if_pos null]
  rfl

theorem find_eq (free : '\x00' ∉ start.toList) :
    find d start = (d.stat (startText start)).bind fun e =>
      searchFrom d (searchStart (Path.resolveParts start) e) := by
  unfold find
  rw [if_neg free]
  rfl

theorem find_of_stat_error (free : '\x00' ∉ start.toList) {f : PathFault}
    (failed : d.stat (startText start) = .error f) : find d start = .error f := by
  rw [find_eq free, failed]
  rfl

theorem find_of_stat_ok (free : '\x00' ∉ start.toList) {e : Option Entry}
    (looked : d.stat (startText start) = .ok e) : find d start = searchFrom d (startDir d start) := by
  rw [find_eq free, looked, startDir, looked]
  rfl

theorem startDir_prefix_resolveParts (d : Disk) (start : String) : startDir d start <+: Path.resolveParts start := by
  unfold startDir
  split
  · next e _ =>
    unfold searchStart
    split
    · exact List.dropLast_prefix _
    · exact List.prefix_refl _
  · exact List.prefix_refl _

theorem isName_startDir (d : Disk) (start : String) : ∀ c ∈ startDir d start, Path.IsName c :=
  fun c member => Path.isName_resolveParts start c ((startDir_prefix_resolveParts d start).subset member)

theorem isName_fileNames : ∀ name ∈ fileNames, Path.IsName name := by
  decide

theorem null_not_mem_fileNames : ∀ name ∈ fileNames, '\x00' ∉ name.toList := by
  decide

theorem utf8ByteSize_fileNames : ∀ name ∈ fileNames,
    name.utf8ByteSize ≤ ".complexitylens.yaml".utf8ByteSize ∧
      name.utf8ByteSize ≤ Disk.maxNameBytes := by
  decide

theorem meetsLongName_of_start {e : Option Entry} (looked : d.stat (startText start) = .ok e) :
    d.meetsLongName [] (Path.resolveParts start) = false := by
  have clear := Disk.meetsLongName_of_stat_ok looked
  rwa [startText, Path.origin_absolute, Path.components_absolute (Path.isName_resolveParts start)]
    at clear

/-! ### The places tried -/

/-- What the search gives for a place when anything exists there: its path below the working
directory when it lies there, and its path from the root otherwise. -/
def found (d : Disk) (place : List String) : Option String :=
  if d.exists? (Path.absolute place) then some (shown (Path.absolute place)) else none

/-- The search when no lookup fails. -/
def pureSearch (d : Disk) (dir : List String) : Option String :=
  (ancestors dir).findSome? fun dir => fileNames.findSome? fun name => found d (dir ++ [name])

theorem tryPlace_of_stat_ok {place : List String} {e : Option Entry}
    (looked : d.stat (Path.absolute place) = .ok e) : tryPlace d place = .ok (found d place) := by
  have present : d.exists? (Path.absolute place) = e.isSome := by
    rw [Disk.exists?, Disk.statEntry?_of_stat_ok looked]
  rw [tryPlace, found, present]
  simp only [looked]
  rfl

theorem tryPlace_of_stat_error {place : List String} {f : PathFault}
    (failed : d.stat (Path.absolute place) = .error f) : tryPlace d place = .error f := by
  rw [tryPlace]
  simp only [failed]
  rfl

/-- A place the search tries holds no null character when the start holds none: its components
are the start's and a settings file name. -/
theorem null_not_mem_place (free : '\x00' ∉ start.toList) {dir : List String}
    (above : dir <+: Path.resolveParts start) {name : String} (listed : name ∈ fileNames) :
    '\x00' ∉ (Path.absolute (dir ++ [name])).toList :=
  Path.null_not_mem_absolute (List.forall_mem_append.mpr
    ⟨fun c member => Path.null_not_mem_of_mem_resolveParts free c (above.subset member),
      List.forall_mem_singleton.mpr (null_not_mem_fileNames name listed)⟩)

/-- For a start that is searchable, the lookup of every place tried succeeds. -/
theorem stat_of_searchable (sable : Searchable d start) {dir : List String}
    (above : dir <+: startDir d start) {name : String} (listed : name ∈ fileNames) :
    d.stat (Path.absolute (dir ++ [name])) = .ok (d.entry? (Path.absolute (dir ++ [name]))) := by
  obtain ⟨e, looked⟩ := sable.found
  have inStart : dir <+: Path.resolveParts start := above.trans (startDir_prefix_resolveParts d start)
  have names : ∀ c ∈ dir ++ [name], Path.IsName c :=
    List.forall_mem_append.mpr ⟨fun c member => isName_startDir d start c (above.subset member),
      List.forall_mem_singleton.mpr (isName_fileNames name listed)⟩
  apply Disk.stat_eq_ok (null_not_mem_place sable.free inStart listed)
  · calc (Path.absolute (dir ++ [name])).utf8ByteSize
        ≤ (Path.absolute (startDir d start ++ [".complexitylens.yaml"])).utf8ByteSize :=
          Path.utf8ByteSize_absolute_le above (utf8ByteSize_fileNames name listed).1
      _ < Disk.maxPathBytes := sable.short
  · -- the components are the start's, clear by its lookup, then a short name
    rw [Path.origin_absolute, Path.components_absolute names]
    exact Disk.meetsLongName_append_short
      (Disk.meetsLongName_of_prefix inStart (meetsLongName_of_start looked))
      (List.forall_mem_singleton.mpr (utf8ByteSize_fileNames name listed).2)

@[simp] theorem mem_ancestors {dir x : List String} : x ∈ ancestors dir ↔ x <+: dir := by
  constructor
  · intro member
    obtain ⟨n, -, rfl⟩ := List.mem_map.mp member
    exact List.take_prefix n dir
  · intro before
    refine List.mem_map.mpr ⟨x.length, ?_, (List.prefix_iff_eq_take.mp before).symm⟩
    rw [List.mem_reverse, List.mem_range]
    exact Nat.lt_succ_of_le before.length_le

theorem ancestors_eq_cons (dir : List String) : ∃ rest, ancestors dir = dir :: rest := by
  refine ⟨(List.range dir.length).reverse.map fun n => dir.take n, ?_⟩
  rw [ancestors, List.range_succ, List.reverse_append, List.reverse_singleton, List.singleton_append,
    List.map_cons, List.take_length]

/-- For a searchable start the search returns what the search with no failing lookup gives. -/
theorem find_eq_pureSearch (sable : Searchable d start) :
    find d start = .ok (pureSearch d (startDir d start)) := by
  obtain ⟨e, looked⟩ := sable.found
  rw [find_of_stat_ok sable.free looked, searchFrom, pureSearch]
  apply findSomeM?_eq_ok
  intro dir listed
  apply findSomeM?_eq_ok
  intro name named
  exact tryPlace_of_stat_ok (stat_of_searchable sable (mem_ancestors.mp listed) named)

/-- A start whose first place tried is too long for the system ends the search there. -/
theorem find_of_long (free : '\x00' ∉ start.toList) {e : Option Entry}
    (looked : d.stat (startText start) = .ok e)
    (long : Disk.maxPathBytes ≤
      (Path.absolute (startDir d start ++ [".complexitylens.yaml"])).utf8ByteSize) :
    find d start =
      .error (.nameTooLong (Path.absolute (startDir d start ++ [".complexitylens.yaml"]))) := by
  have freePlace := null_not_mem_place free (startDir_prefix_resolveParts d start)
    (show ".complexitylens.yaml" ∈ fileNames from List.mem_cons_self)
  have failed : d.stat (Path.absolute (startDir d start ++ [".complexitylens.yaml"])) =
      .error (.nameTooLong (Path.absolute (startDir d start ++ [".complexitylens.yaml"]))) := by
    rw [Disk.stat_eq, if_neg freePlace, if_pos (.inl long)]
  obtain ⟨rest, first⟩ := ancestors_eq_cons (startDir d start)
  rw [find_of_stat_ok free looked, searchFrom, first]
  exact findSomeM?_cons_error (findSomeM?_cons_error (tryPlace_of_stat_error failed))

/-- The search returns exactly when the start is searchable. -/
theorem searchable_iff : (∃ r, find d start = .ok r) ↔ Searchable d start := by
  constructor
  · rintro ⟨r, returned⟩
    by_cases null : '\x00' ∈ start.toList
    · rw [find_of_null null] at returned
      cases returned
    cases looked : d.stat (startText start) with
    | error f =>
      rw [find_of_stat_error null looked] at returned
      cases returned
    | ok e =>
      refine ⟨null, ⟨e, looked⟩, Nat.lt_of_not_le fun long => ?_⟩
      rw [find_of_long null looked long] at returned
      cases returned
  · intro sable
    exact ⟨_, find_eq_pureSearch sable⟩

/-! ### The answer of the search -/

theorem found_eq_none_iff (d : Disk) (place : List String) :
    found d place = none ↔ d.exists? (Path.absolute place) = false := by
  unfold found
  by_cases present : d.exists? (Path.absolute place) = true
  · simp [present]
  · simp [present]

theorem exists_of_found {place : List String} {p : String} (result : found d place = some p) :
    d.exists? (Path.absolute place) = true := by
  by_contra absent
  rw [Bool.not_eq_true, ← found_eq_none_iff, result] at absent
  cases absent

theorem resolveParts_of_found {place : List String} {p : String}
    (names : ∀ c ∈ place, Path.IsName c) (result : found d place = some p) :
    Path.resolveParts p = place := by
  have placed := Path.place_absolute names
  unfold found at result
  rw [if_pos (exists_of_found result)] at result
  simp only [Option.some.injEq] at result
  subst result
  unfold shown
  cases placeOf : Path.place (Path.absolute place) with
  | below ps =>
    -- a place below the working directory is given by its components under it
    rw [placeOf] at placed
    split at placed
    · next inside =>
      cases placed
      rw [Path.resolveParts_intercalate fun c member => names c (List.mem_of_mem_drop member)]
      exact List.prefix_iff_eq_append.mp (List.isPrefixOf_iff_prefix.mp inside)
    · split at placed <;> cases placed
  | above | outside =>
    -- any other place is given from the root
    exact Path.resolveParts_absolute names

theorem pairwise_ancestors (dir : List String) :
    (ancestors dir).Pairwise fun a b => b.length < a.length := by
  unfold ancestors
  rw [List.pairwise_map, List.pairwise_reverse]
  refine List.pairwise_lt_range.imp_of_mem ?_
  intro m n inM inN lt
  rw [List.mem_range] at inM inN
  simp only [List.length_take]
  omega

theorem mem_nearer_of_longer {dir closer : List String} {base : List String}
    {nearer farther : List (List String)} (split : ancestors base = nearer ++ dir :: farther)
    (closerPrefix : closer <+: base) (longer : dir.length < closer.length) : closer ∈ nearer := by
  have listed := mem_ancestors.mpr closerPrefix
  rw [split] at listed
  rcases List.mem_append.mp listed with early | later
  · exact early
  · have order := pairwise_ancestors base
    rw [split, List.pairwise_append, List.pairwise_cons] at order
    rcases List.mem_cons.mp later with same | far
    · subst same
      omega
    · have shorter := order.2.1.1 closer far
      omega

theorem pureSearch_eq_none_iff (base : List String) :
    pureSearch d base = none ↔ ∀ dir, dir <+: base → ∀ name ∈ fileNames,
      d.exists? (Path.absolute (dir ++ [name])) = false := by
  rw [pureSearch, List.findSome?_eq_none_iff]
  simp only [List.findSome?_eq_none_iff, found_eq_none_iff, mem_ancestors]

theorem pureSearch_eq_some {base : List String} (names : ∀ c ∈ base, Path.IsName c) {p : String}
    (result : pureSearch d base = some p) :
    ∃ dir name, dir <+: base ∧ d.exists? (Path.absolute (dir ++ [name])) = true ∧
      Path.resolveParts p = dir ++ [name] ∧
      (∀ closer, closer <+: base → dir.length < closer.length →
        ∀ other ∈ fileNames, d.exists? (Path.absolute (closer ++ [other])) = false) ∧
      (∃ before after, fileNames = before ++ name :: after ∧
        ∀ earlier ∈ before, d.exists? (Path.absolute (dir ++ [earlier])) = false) := by
  rw [pureSearch, List.findSome?_eq_some_iff] at result
  obtain ⟨nearer, dir, farther, split, inDir, passed⟩ := result
  rw [List.findSome?_eq_some_iff] at inDir
  obtain ⟨before, name, after, order, atName, earlier⟩ := inDir
  have dirPrefix : dir <+: base := mem_ancestors.mp (by rw [split]; simp)
  have placeNames : ∀ c ∈ dir ++ [name], Path.IsName c :=
    List.forall_mem_append.mpr ⟨fun c member => names c (dirPrefix.subset member),
      List.forall_mem_singleton.mpr (isName_fileNames name (by rw [order]; simp))⟩
  refine ⟨dir, name, dirPrefix, exists_of_found atName, resolveParts_of_found placeNames atName,
    ?_, before, after, order, ?_⟩
  · intro closer closerPrefix longer other listed
    have nothing := passed closer (mem_nearer_of_longer split closerPrefix longer)
    rw [List.findSome?_eq_none_iff] at nothing
    exact (found_eq_none_iff d _).mp (nothing other listed)
  · intro e skipped
    exact (found_eq_none_iff d _).mp (earlier e skipped)

theorem load_without_file (d : Disk) (start : String) :
    load d none start = match find d start with
      | .error f => .error (.path f)
      | .ok none => .ok Settings.default
      | .ok (some p) => (loadDocument d p).bind fun es => (Settings.ofEntries es).mapError .config := by
  unfold load
  rcases find d start with f | _ | p
  · rfl
  · rfl
  · -- a refused document is reported as such; anything else is the settings read from it
    show (loadDocument d p).bind _ = (loadDocument d p).bind _
    congr 1
    funext es
    cases Settings.ofEntries es <;> rfl

/-- A tree with a settings file at the top, one in `a`, and a source file in `a`. -/
def nestedSettings : Disk :=
  Disk.ofLists [(".complexitylens.yaml", []), ("a/complexitylens.json", []), ("a/x.js", [])] []

example : (find nestedSettings "a/x.js").toOption = some (some "a/complexitylens.json") := by
  decide +kernel

end Config

end Cyclomatic
