import Cyclomatic.Analysis.Scan
import Cyclomatic.Proofs.DiskLookup
import Mathlib.Data.List.Flatten
import Mathlib.Data.List.Sort
import Mathlib.Data.String.Basic

/-!
Which files a scan reads. For settings whose patterns are lists of strings and whose largest
size is an integer, the walk is a plain function of two tests on paths: which subdirectories it
enters and which files it yields. From that form, narrower settings yield a sublist of the files
in the same order, and every file yielded lies in a directory reached through subdirectories the
patterns keep. The target itself is never tested.
-/

namespace Cyclomatic

namespace Scan

open Config

section Traversal

variable {ε α β : Type}

@[simp] theorem ok_bind (x : α) (f : α → Except ε β) : (Except.ok x >>= f) = f x := rfl

theorem anyM_eq_ok {p : α → Except ε Bool} {q : α → Bool} :
    ∀ {l : List α}, (∀ x ∈ l, p x = .ok (q x)) → l.anyM p = .ok (l.any q)
  | [], _ => rfl
  | x :: l, each => by
    rw [List.anyM_cons, each x List.mem_cons_self, List.any_cons]
    cases q x with
    | true => rfl
    | false => exact anyM_eq_ok fun y member => each y (List.mem_cons_of_mem x member)

-- the accumulator holds the kept items in reverse, so it is generalized
theorem filterAuxM_eq_ok {p : α → Except ε Bool} {q : α → Bool} :
    ∀ {l acc : List α}, (∀ x ∈ l, p x = .ok (q x)) →
      List.filterAuxM p l acc = .ok ((l.filter q).reverse ++ acc)
  | [], _, _ => rfl
  | x :: l, acc, each => by
    unfold List.filterAuxM
    rw [each x List.mem_cons_self]
    show List.filterAuxM p l (cond (q x) (x :: acc) acc) = _
    rw [filterAuxM_eq_ok fun y member => each y (List.mem_cons_of_mem x member), List.filter_cons]
    cases q x <;> simp

theorem filterM_eq_ok {p : α → Except ε Bool} {q : α → Bool} {l : List α}
    (each : ∀ x ∈ l, p x = .ok (q x)) : l.filterM p = .ok (l.filter q) := by
  unfold List.filterM
  rw [filterAuxM_eq_ok each]
  simp [bind, Except.bind, pure, Except.pure]

theorem bind_congr_ok {x : Except ε α} {f g : α → Except ε β}
    (same : ∀ a, x = .ok a → f a = g a) : x >>= f = x >>= g := by
  cases x with
  | error e => rfl
  | ok a => exact same a rfl

theorem mem_of_filterAuxM_eq_ok {p : α → Except ε Bool} :
    ∀ {l acc r : List α}, List.filterAuxM p l acc = .ok r → ∀ x ∈ r, x ∈ l ∨ x ∈ acc
  | [], acc, r, done, x, member => by
    cases done
    exact .inr member
  | y :: l, acc, r, done, x, member => by
    unfold List.filterAuxM at done
    cases kept : p y with
    | error e =>
      rw [kept] at done
      cases done
    | ok b =>
      rw [kept, ok_bind] at done
      rcases mem_of_filterAuxM_eq_ok done x member with later | held
      · exact .inl (List.mem_cons_of_mem y later)
      · cases b
        · exact .inr held
        · rcases List.mem_cons.mp held with rfl | old
          · exact .inl List.mem_cons_self
          · exact .inr old

theorem mem_of_filterM_eq_ok {p : α → Except ε Bool} {l r : List α} (done : l.filterM p = .ok r)
    {x : α} (member : x ∈ r) : x ∈ l := by
  unfold List.filterM at done
  cases kept : List.filterAuxM p l [] with
  | error e =>
    rw [kept] at done
    cases done
  | ok r' =>
    rw [kept] at done
    cases done
    rcases mem_of_filterAuxM_eq_ok kept x (List.mem_reverse.mp member) with found | none
    · exact found
    · cases none

theorem mapM_congr {f g : α → Except ε β} :
    ∀ {l : List α}, (∀ x ∈ l, f x = g x) → l.mapM f = l.mapM g
  | [], _ => rfl
  | x :: l, each => by
    rw [List.mapM_cons, List.mapM_cons, each x List.mem_cons_self,
      mapM_congr fun y member => each y (List.mem_cons_of_mem x member)]

theorem mapM_eq_ok {f : α → Except ε β} {g : α → β} :
    ∀ {l : List α}, (∀ x ∈ l, f x = .ok (g x)) → l.mapM f = .ok (l.map g)
  | [], _ => rfl
  | x :: l, each => by
    rw [List.mapM_cons, each x List.mem_cons_self,
      mapM_eq_ok fun y member => each y (List.mem_cons_of_mem x member)]
    rfl

end Traversal

/-! ### The tests of a walk -/

def isText : Value → Bool
  | .str _ => true
  | .codes _ => true
  | _ => false

def textPoints : Value → List Nat
  | .str p => p.toList.map Char.toNat
  | .codes ps => ps
  | _ => []

theorem patternPoints_eq {p : Value} (text : isText p = true) :
    patternPoints p = .ok (textPoints p) := by
  cases p with
  | str s => rfl
  | codes ps => rfl
  | _ => cases text

/-- Whether a path is left out of a scan of a base by the exclude patterns `ex` and the include
patterns `inc`: some exclude pattern leaves it out, or there are include patterns, the path is
a file, and none of them keeps it. -/
def leftOut (ex inc : List Value) (d : Disk) (path base : String) : Bool :=
  let rel := (Path.relative path base).getD ""
  let name := Path.basename path
  ex.any (fun p => excludes (textPoints p) rel name) ||
    (!inc.isEmpty && d.isFile path && !inc.any fun p => includes (textPoints p) rel name)

/-- Settings whose exclude patterns are the texts `ex`, whose include patterns are the texts
`inc` (`inc` empty when there are none), and whose largest file size is the integer `limit` (a
boolean counting as 0 or 1). -/
structure Filters (s : Settings) (ex inc : List Value) (limit : Int) : Prop where
  excluded : s.excludePatterns = .seq ex
  included : s.includePatterns = .seq inc ∨ (s.includePatterns = .null ∧ inc = [])
  sized : s.maxFileSize.toNum? = some (.int limit)
  texts : ∀ p ∈ ex ++ inc, isText p = true

section Filtered

variable {s : Settings} {ex inc : List Value} {limit : Int}

theorem truthy_includePatterns (filters : Filters s ex inc limit) :
    s.includePatterns.truthy = !inc.isEmpty := by
  rcases filters.included with listed | ⟨absent, rfl⟩
  · rw [listed]
    rfl
  · rw [absent]
    rfl

/-- Whether a path is left out never fails for such settings, and is `leftOut`. -/
theorem ignored_eq (filters : Filters s ex inc limit) (d : Disk) {path : String} (base : String)
    (named : path ≠ "") : ignored s d path base = .ok (leftOut ex inc d path base) := by
  obtain ⟨rel, relative⟩ : ∃ rel, Path.relative path base = some rel := by
    unfold Path.relative
    simp [named]
  unfold ignored leftOut
  simp only [relative, Option.getD_some, filters.excluded, patternsOf]
  rw [ok_bind,
    @anyM_eq_ok _ _ _ (fun p => excludes (textPoints p) rel (Path.basename path)) _ ?excluding]
  case excluding =>
    intro p member
    rw [patternPoints_eq (filters.texts p (List.mem_append_left inc member))]
    rfl
  rw [truthy_includePatterns filters]
  cases ex.any fun p => excludes (textPoints p) rel (Path.basename path)
  · rw [ok_bind]
    by_cases active : (!inc.isEmpty && d.isFile path) = true
    · -- there are include patterns, so the settings list them
      have listed : s.includePatterns = .seq inc := by
        rcases filters.included with listed | ⟨-, rfl⟩
        · exact listed
        · simp at active
      simp only [active, listed, if_true, Bool.false_eq_true, if_false, ok_bind]
      rw [@anyM_eq_ok _ _ _ (fun p => includes (textPoints p) rel (Path.basename path)) _
        ?including]
      · rfl
      · intro p member
        rw [patternPoints_eq (filters.texts p (List.mem_append_right ex member))]
        rfl
    · simp only [Bool.not_eq_true] at active
      simp only [Bool.false_eq_true, if_false, active, Bool.false_or, Bool.false_and]
      rfl
  · rfl

/-- One more text among the exclude patterns keeps settings of this form. -/
theorem Filters.excludeAlso (filters : Filters s ex inc limit) {x : Value} (text : isText x = true) :
    Filters { s with excludePatterns := .seq (ex ++ [x]) } (ex ++ [x]) inc limit := by
  refine ⟨rfl, filters.included, filters.sized, fun p member => ?_⟩
  rcases List.mem_append.mp member with listed | included
  · rcases List.mem_append.mp listed with excluded | added
    · exact filters.texts p (List.mem_append_left inc excluded)
    · rw [List.mem_singleton.mp added]
      exact text
  · exact filters.texts p (List.mem_append_right ex included)

theorem tooLarge_eq (filters : Filters s ex inc limit) (size : Nat) :
    tooLarge size s.maxFileSize = .ok (decide ((size : Int) > limit)) := by
  have sized := filters.sized
  cases given : s.maxFileSize with
  | int n =>
    rw [given] at sized
    cases Option.some.inj sized
    rfl
  | bool b =>
    rw [given] at sized
    cases Option.some.inj sized
    cases b with
    | false => simp [tooLarge]
    | true =>
      simp only [tooLarge, if_true, Except.ok.injEq, decide_eq_decide]
      omega
  | _ =>
    rw [given] at sized
    cases sized

end Filtered

/-! ### The walk as a function of its tests -/

/-- Whether a walk enters a subdirectory: the patterns keep it. -/
def entersDir (ex inc : List Value) (d : Disk) (target path : String) : Bool :=
  !leftOut ex inc d path target

/-- Whether a walk yields a file: its extension names a language, the patterns keep it, and the
system gives its size, no larger than the limit. -/
def keepsFile (ex inc : List Value) (limit : Int) (d : Disk) (target path : String) : Bool :=
  (Language.ofPath path).isSome && !leftOut ex inc d path target &&
    (d.fileSize? path).any fun (size : Nat) => decide ((size : Int) ≤ limit)

section Tests

variable {ex inc : List Value} {limit : Int} {d : Disk} {target path : String}

@[simp] theorem entersDir_eq_true :
    entersDir ex inc d target path = true ↔ leftOut ex inc d path target = false := by
  simp [entersDir]

@[simp] theorem keepsFile_eq_true :
    keepsFile ex inc limit d target path = true ↔
      (Language.ofPath path).isSome ∧ leftOut ex inc d path target = false ∧
        ∃ size, d.fileSize? path = some size ∧ (size : Int) ≤ limit := by
  simp [keepsFile, Option.any_eq_true, and_assoc]

end Tests

/-- The files a walk of a directory yields when it enters the subdirectories and keeps the files
that two tests pass: its own kept files, then each entered subdirectory's, in name order. -/
def walkKept (d : Disk) (enter keep : String → Bool) : Nat → String → List String
  | 0, _ => []
  | fuel + 1, root =>
    let entries := d.children root
    let dirs := ((entries.filter (·.2)).map (·.1)).filter fun n => enter (Path.join root n)
    let files := (sortNames ((entries.filter (!·.2)).map (·.1))).filter
      fun n => keep (Path.join root n)
    files.map (Path.join root) ++
      (sortNames dirs).flatMap fun n => walkKept d enter keep fuel (Path.join root n)

theorem join_ne_empty {root : String} (named : root ≠ "") (n : String) :
    Path.join root n ≠ "" := by
  unfold Path.join
  split
  · next slash =>
    intro empty
    rw [empty] at slash
    simp at slash
  · split <;> simp [named]

theorem pure_ne_empty (p : String) : Path.pure p ≠ "" := by
  unfold Path.pure
  dsimp only
  split
  · simp
  · split
    · simp
    · next body =>
      intro empty
      exact body (by rw [empty]; rfl)

section Filtered

variable {s : Settings} {ex inc : List Value} {limit : Int}

/-- The check a walk makes of each file is `keepsFile`, and does not fail. -/
theorem fileCheck_eq (filters : Filters s ex inc limit) (d : Disk) (target : String)
    {path : String} (named : path ≠ "") :
    (do
      if (Language.ofPath path).isNone then return false
      if ← ignored s d path target then return false
      let some size := d.fileSize? path | return false
      return !(← tooLarge size s.maxFileSize) : Except ScanError Bool) =
      .ok (keepsFile ex inc limit d target path) := by
  unfold keepsFile
  cases language : Language.ofPath path with
  | none => rfl
  | some l =>
    rw [ignored_eq filters d target named]
    cases leftOut ex inc d path target
    · cases d.fileSize? path with
      | none => simp
      | some size =>
        simp only [Option.isNone_some, Bool.false_eq_true, if_false, ok_bind,
          tooLarge_eq filters, Option.isSome_some, Bool.not_false, Bool.true_and,
          Option.any_some]
        simp only [pure, Except.pure, ← decide_not, Int.not_lt]
    · rfl

theorem walk_eq (filters : Filters s ex inc limit) (d : Disk) (target : String) :
    ∀ (fuel : Nat) {root : String}, root ≠ "" →
      walk s d target fuel root =
        .ok (walkKept d (entersDir ex inc d target) (keepsFile ex inc limit d target) fuel root)
  | 0, _, _ => rfl
  | fuel + 1, root, named => by
    unfold walk
    dsimp only
    rw [@filterM_eq_ok _ _ _ (fun n => entersDir ex inc d target (Path.join root n)) _ ?dirs,
      ok_bind,
      @filterM_eq_ok _ _ _ (fun n => keepsFile ex inc limit d target (Path.join root n)) _ ?files,
      ok_bind,
      @mapM_eq_ok _ _ _ _
        (fun n => walkKept d (entersDir ex inc d target) (keepsFile ex inc limit d target) fuel
          (Path.join root n)) _ ?below]
    case dirs =>
      intro n _
      rw [ignored_eq filters d target (join_ne_empty named n)]
      rfl
    case files =>
      intro n _
      exact fileCheck_eq filters d target (join_ne_empty named n)
    case below =>
      intro n _
      exact walk_eq filters d target fuel (join_ne_empty named n)
    rfl

/-- For such settings the files of a scan are found without failing: the target alone when it
is a file, otherwise what the walk of it yields. -/
theorem discover_eq (filters : Filters s ex inc limit) (d : Disk) (target : String) :
    discover s d target =
      .ok (if d.isFile (Path.pure target) then [Path.pure target]
        else walkKept d (entersDir ex inc d target) (keepsFile ex inc limit d target)
          (walkFuel d) (Path.pure target)) := by
  unfold discover
  split
  · rfl
  · exact walk_eq filters d target _ (pure_ne_empty target)

end Filtered

/-! ### Narrower settings yield fewer files -/

theorem sortNames_sublist {xs ys : List String} (sub : xs.Sublist ys) :
    (sortNames xs).Sublist (sortNames ys) := by
  have sorted : ∀ names, (sortNames names).SortedLE := fun _ => List.sortedLE_mergeSort
  apply List.sublist_of_subperm_of_sortedLE _ (sorted xs) (sorted ys)
  exact (List.mergeSort_perm xs _).subperm.trans
    (sub.subperm.trans (List.mergeSort_perm ys _).symm.subperm)

/-- A walk whose tests pass fewer paths yields a sublist of the files. -/
theorem walkKept_sublist (d : Disk) {enter enter' keep keep' : String → Bool}
    (entersFewer : ∀ p, enter' p = true → enter p = true)
    (keepsFewer : ∀ p, keep' p = true → keep p = true) :
    ∀ fuel root, (walkKept d enter' keep' fuel root).Sublist (walkKept d enter keep fuel root)
  | 0, _ => .slnil
  | fuel + 1, root => by
    simp only [walkKept]
    apply List.Sublist.append
    · apply List.Sublist.map
      exact List.monotone_filter_right _ fun n kept => keepsFewer _ kept
    · -- fewer subdirectories, each walked to fewer files
      have fewerDirs := sortNames_sublist
        (List.monotone_filter_right ((d.children root |>.filter (·.2)).map (·.1))
          fun n entered => entersFewer (Path.join root n) entered)
      exact (List.Sublist.flatMap_right _ fun n _ => walkKept_sublist d entersFewer keepsFewer
        fuel (Path.join root n)).trans (fewerDirs.flatMap _)

section Narrower

variable {d : Disk} {ex inc ex' inc' : List Value}

/-- More exclude patterns, and include patterns where there were none or a part of them, leave
out every path that was left out. -/
theorem leftOut_mono (moreExcluded : ∀ p ∈ ex, p ∈ ex')
    (fewerIncluded : inc = [] ∨ inc' ≠ [] ∧ ∀ p ∈ inc', p ∈ inc) {path base : String}
    (out : leftOut ex inc d path base = true) : leftOut ex' inc' d path base = true := by
  unfold leftOut at out ⊢
  simp only [Bool.or_eq_true, Bool.and_eq_true, Bool.not_eq_true', List.any_eq_true,
    List.any_eq_false, List.isEmpty_eq_false_iff] at out ⊢
  rcases out with ⟨p, member, hit⟩ | ⟨⟨listed, file⟩, missed⟩
  · exact .inl ⟨p, moreExcluded p member, hit⟩
  · -- there were include patterns, so the new ones are a part of them
    obtain ⟨listed', within⟩ := fewerIncluded.resolve_left listed
    exact .inr ⟨⟨listed', file⟩, fun p member => missed p (within p member)⟩

variable {limit limit' : Int} {target : String}

theorem entersDir_mono (moreExcluded : ∀ p ∈ ex, p ∈ ex')
    (fewerIncluded : inc = [] ∨ inc' ≠ [] ∧ ∀ p ∈ inc', p ∈ inc) (path : String)
    (entered : entersDir ex' inc' d target path = true) :
    entersDir ex inc d target path = true := by
  rw [entersDir_eq_true] at entered ⊢
  exact Bool.eq_false_iff.mpr fun out =>
    absurd (leftOut_mono moreExcluded fewerIncluded out) (by rw [entered]; simp)

theorem keepsFile_mono (moreExcluded : ∀ p ∈ ex, p ∈ ex')
    (fewerIncluded : inc = [] ∨ inc' ≠ [] ∧ ∀ p ∈ inc', p ∈ inc) (smaller : limit' ≤ limit)
    (path : String) (kept : keepsFile ex' inc' limit' d target path = true) :
    keepsFile ex inc limit d target path = true := by
  rw [keepsFile_eq_true] at kept ⊢
  obtain ⟨language, notOut, size, sized, fits⟩ := kept
  have stillIn : entersDir ex inc d target path = true :=
    entersDir_mono moreExcluded fewerIncluded path (entersDir_eq_true.mpr notOut)
  exact ⟨language, entersDir_eq_true.mp stillIn, size, sized, fits.trans smaller⟩

end Narrower

/-! ### Where the files a walk yields lie -/

/-- The directories a walk from `root` enters: `root`, and each subdirectory of an entered
directory that passes the walk's test. -/
inductive Entered (d : Disk) (enters : String → Prop) (root : String) : String → Prop
  | root : Entered d enters root root
  | sub {dir name : String} : Entered d enters root dir → (name, true) ∈ d.children dir →
      enters (Path.join dir name) → Entered d enters root (Path.join dir name)

namespace Entered

variable {d : Disk} {enters : String → Prop} {root : String}

theorem trans {mid dir : String} (first : Entered d enters root mid)
    (second : Entered d enters mid dir) : Entered d enters root dir := by
  induction second with
  | root => exact first
  | sub _ child passes reached => exact .sub reached child passes

theorem ne_empty (named : root ≠ "") {dir : String} (entered : Entered d enters root dir) :
    dir ≠ "" := by
  induction entered with
  | root => exact named
  | sub _ _ _ reached => exact join_ne_empty reached _

/-- A test that every path the first passes also passes enters the same directories; only
paths that are not empty are tested. -/
theorem mono {enters' : String → Prop} (named : root ≠ "")
    (weaker : ∀ p, p ≠ "" → enters p → enters' p) {dir : String}
    (entered : Entered d enters root dir) : Entered d enters' root dir := by
  induction entered with
  | root => exact .root
  | sub inner child passes reached =>
    exact .sub reached child (weaker _ (join_ne_empty (inner.ne_empty named) _) passes)

end Entered

/-- Every file a walk yields passes the file test and is a file of a directory the walk
enters. -/
theorem mem_walkKept (d : Disk) (enter keep : String → Bool) :
    ∀ {fuel : Nat} {root p : String}, p ∈ walkKept d enter keep fuel root →
      keep p = true ∧ ∃ dir name, Entered d (fun q => enter q = true) root dir ∧
        (name, false) ∈ d.children dir ∧ p = Path.join dir name
  | 0, _, _, member => nomatch member
  | fuel + 1, root, p, member => by
    simp only [walkKept, List.mem_append, List.mem_map, List.mem_flatMap, List.mem_filter] at member
    rcases member with ⟨name, ⟨listed, kept⟩, rfl⟩ | ⟨name, listed, below⟩
    · -- a file of the root itself
      rw [sortNames, List.mem_mergeSort, List.mem_map] at listed
      obtain ⟨⟨n, isDir⟩, member, rfl⟩ := listed
      have notDir : isDir = false := by simpa using (List.mem_filter.mp member).2
      subst notDir
      exact ⟨kept, root, n, .root, (List.mem_filter.mp member).1, rfl⟩
    · -- a file below one of the root's subdirectories
      rw [sortNames, List.mem_mergeSort, List.mem_filter, List.mem_map] at listed
      obtain ⟨⟨⟨n, isDir⟩, member, rfl⟩, entered⟩ := listed
      have dir : isDir = true := by simpa using (List.mem_filter.mp member).2
      subst dir
      obtain ⟨kept, dir, file, reached, child, rfl⟩ := mem_walkKept d enter keep below
      exact ⟨kept, dir, file,
        Entered.trans (.sub .root (List.mem_filter.mp member).1 entered) reached, child, rfl⟩

/-! ### The files a scan reads -/

section Discover

variable (d : Disk) (target : String) {c c' : Settings} {ex inc ex' inc' : List Value}
  {limit limit' : Int}

theorem entersDir_iff (filters : Filters c ex inc limit) {path : String} (named : path ≠ "") :
    entersDir ex inc d target path = true ↔ ignored c d path target = .ok false := by
  rw [ignored_eq filters d target named, entersDir]
  cases leftOut ex inc d path target <;> simp

/-- Every file the walk of a directory target yields has a language, is kept by the patterns,
is no larger than the largest size, and lies in a directory reached from the target through
subdirectories the patterns keep. -/
theorem mem_walk_target (filters : Filters c ex inc limit) {p : String}
    (member : p ∈ walkKept d (entersDir ex inc d target) (keepsFile ex inc limit d target)
      (walkFuel d) (Path.pure target)) :
    (Language.ofPath p).isSome ∧ ignored c d p target = .ok false ∧
      (((d.bytes? p).getD []).length : Int) ≤ limit ∧
      ∃ dir name, Entered d (fun q => ignored c d q target = .ok false) (Path.pure target) dir ∧
        (name, false) ∈ d.children dir ∧ p = Path.join dir name := by
  obtain ⟨kept, dir, name, reached, child, rfl⟩ := mem_walkKept d _ _ member
  have named : Path.join dir name ≠ "" :=
    join_ne_empty (reached.ne_empty (pure_ne_empty target)) name
  obtain ⟨language, notOut, size, sized, fits⟩ := keepsFile_eq_true.mp kept
  obtain ⟨bs, bytes, length⟩ := Disk.bytes?_of_fileSize? sized
  have bounded : ((bs.length : Nat) : Int) ≤ limit := by
    rw [length]
    exact fits
  refine ⟨language, (entersDir_iff d target filters named).mp (entersDir_eq_true.mpr notOut),
    by simpa [bytes] using bounded,
    dir, name, ?_, child, rfl⟩
  exact reached.mono (pure_ne_empty target) fun q named passes =>
    (entersDir_iff d target filters named).mp passes

/-- Narrower settings find a sublist of the files, in the same order. -/
theorem discover_sublist_of_narrower (filters : Filters c ex inc limit)
    (filters' : Filters c' ex' inc' limit') (moreExcluded : ∀ p ∈ ex, p ∈ ex')
    (smaller : limit' ≤ limit) (fewerIncluded : inc = [] ∨ inc' ≠ [] ∧ ∀ p ∈ inc', p ∈ inc) :
    ∃ files files', discover c d target = .ok files ∧ discover c' d target = .ok files' ∧
      files'.Sublist files := by
  refine ⟨_, _, discover_eq filters d target, discover_eq filters' d target, ?_⟩
  split
  · exact List.Sublist.refl _
  · exact walkKept_sublist d (entersDir_mono moreExcluded fewerIncluded)
      (keepsFile_mono moreExcluded fewerIncluded smaller) _ _

/-- Narrower settings (every exclude pattern kept and maybe more, a largest size no larger, and
include patterns only where there were none, or a non-empty part of them) find a sublist of the
files, in the same order; in particular one more exclude pattern never adds a file. A target
that is a file is found alone, whatever the settings. Every file found in a directory target
has a language, is not left out by the patterns, is no larger than the largest size, and lies
in a directory reached from the target through subdirectories that the patterns do not leave
out. The target itself is not tested. -/
theorem narrower_settings_discover_sublist (filters : Filters c ex inc limit)
    (filters' : Filters c' ex' inc' limit') (moreExcluded : ∀ p ∈ ex, p ∈ ex')
    (smaller : limit' ≤ limit) (fewerIncluded : inc = [] ∨ inc' ≠ [] ∧ ∀ p ∈ inc', p ∈ inc) :
    ∃ files files', discover c d target = .ok files ∧ discover c' d target = .ok files' ∧
      files'.Sublist files ∧
      (∀ x, isText x = true → ∃ more,
        discover { c with excludePatterns := .seq (ex ++ [x]) } d target = .ok more ∧
          more.Sublist files) ∧
      (d.isFile (Path.pure target) = true → files = [Path.pure target]) ∧
      (d.isFile (Path.pure target) = false → ∀ p ∈ files,
        (Language.ofPath p).isSome ∧ ignored c d p target = .ok false ∧
        (((d.bytes? p).getD []).length : Int) ≤ limit ∧
        ∃ dir name, Entered d (fun q => ignored c d q target = .ok false) (Path.pure target) dir ∧
          (name, false) ∈ d.children dir ∧ p = Path.join dir name) := by
  obtain ⟨files, files', found, found', fewer⟩ :=
    discover_sublist_of_narrower d target filters filters' moreExcluded smaller fewerIncluded
  refine ⟨files, files', found, found', fewer, fun x text => ?_, fun file => ?_, fun dir => ?_⟩
  · -- one more exclude pattern is a narrower setting
    have onceMore := filters.excludeAlso text
    have sameIncluded : inc = [] ∨ inc ≠ [] ∧ ∀ p ∈ inc, p ∈ inc := by
      by_cases empty : inc = []
      · exact .inl empty
      · exact .inr ⟨empty, fun _ member => member⟩
    obtain ⟨files₀, more, found₀, foundMore, fewerMore⟩ :=
      discover_sublist_of_narrower d target filters onceMore
        (fun p member => List.mem_append_left [x] member) (le_refl limit) sameIncluded
    rw [found, Except.ok.injEq] at found₀
    exact ⟨more, foundMore, found₀ ▸ fewerMore⟩
  · rw [discover_eq filters d target, if_pos file] at found
    exact (Except.ok.inj found).symm
  · rw [discover_eq filters d target, if_neg (by simp [dir])] at found
    intro p member
    rw [← Except.ok.inj found] at member
    exact mem_walk_target d target filters member

end Discover

/-- The default settings: the default exclude patterns, no include patterns, at most 10 MiB. -/
theorem filters_default :
    Filters Settings.default (Settings.defaultExclude.map .str) [] Settings.defaultMaxFileSize :=
  ⟨rfl, .inr ⟨rfl, rfl⟩, rfl, by decide⟩

/-- The default settings narrowed: test files left out too, only what is under `src` kept, and
no file over 4 KiB read. -/
def narrowedDefaults : Settings :=
  { Settings.default with
    excludePatterns := .seq ((Settings.defaultExclude ++ ["*.test.js"]).map .str),
    includePatterns := .seq [.str "src/*"], maxFileSize := .int 4096 }

def sampleTree : Disk :=
  Disk.ofLists [("src/a.js", []), ("src/a.test.js", []), ("lib/b.js", [])] ["src", "lib"]

theorem narrowed_defaults_discover_sublist :
    Filters Settings.default (Settings.defaultExclude.map .str) [] Settings.defaultMaxFileSize ∧
    Filters narrowedDefaults ((Settings.defaultExclude ++ ["*.test.js"]).map .str)
      [.str "src/*"] 4096 ∧
    (∀ p ∈ Settings.defaultExclude.map Value.str,
      p ∈ (Settings.defaultExclude ++ ["*.test.js"]).map Value.str) ∧
    (4096 : Int) ≤ Settings.defaultMaxFileSize ∧
    (([] : List Value) = [] ∨ [Value.str "src/*"] ≠ [] ∧ ∀ p ∈ [Value.str "src/*"], p ∈ []) ∧
    ∃ files files', discover Settings.default sampleTree "." = .ok files ∧
      discover narrowedDefaults sampleTree "." = .ok files' ∧
      files'.Sublist files ∧
      (∀ x, isText x = true → ∃ more,
        discover { Settings.default with
          excludePatterns := .seq (Settings.defaultExclude.map .str ++ [x]) } sampleTree "." =
            .ok more ∧ more.Sublist files) ∧
      (sampleTree.isFile (Path.pure ".") = true → files = [Path.pure "."]) ∧
      (sampleTree.isFile (Path.pure ".") = false → ∀ p ∈ files,
        (Language.ofPath p).isSome ∧ ignored Settings.default sampleTree p "." = .ok false ∧
        (((sampleTree.bytes? p).getD []).length : Int) ≤ Settings.defaultMaxFileSize ∧
        ∃ dir name, Entered sampleTree (fun q => ignored Settings.default sampleTree q "." =
            .ok false) (Path.pure ".") dir ∧
          (name, false) ∈ sampleTree.children dir ∧ p = Path.join dir name) := by
  have filters' : Filters narrowedDefaults ((Settings.defaultExclude ++ ["*.test.js"]).map .str)
      [.str "src/*"] 4096 := ⟨rfl, .inl rfl, rfl, by decide⟩
  have moreExcluded : ∀ p ∈ Settings.defaultExclude.map Value.str,
      p ∈ (Settings.defaultExclude ++ ["*.test.js"]).map Value.str := fun p member => by
    rw [List.map_append]
    exact List.mem_append_left _ member
  have smaller : (4096 : Int) ≤ Settings.defaultMaxFileSize := by decide
  exact ⟨filters_default, filters', moreExcluded, smaller, .inl rfl,
    narrower_settings_discover_sublist sampleTree "." filters_default filters' moreExcluded smaller
      (.inl rfl)⟩

def sourceTree : Disk := Disk.ofLists [("src/a.js", [])] ["src"]

def sourceExcluded : Settings := { Settings.default with excludePatterns := .seq [.str "src"] }

/-- Scanning the directory `src` with `src` left out: the patterns leave the directory out, yet
the walk of the target finds its file. -/
theorem excluded_target_still_walked :
    sourceTree.isDir "src" = true ∧
    ignored sourceExcluded sourceTree "src" "src" = .ok true ∧
    discover sourceExcluded sourceTree "src" = .ok [Path.join "src" "a.js"] :=
  ⟨by decide +kernel, eq_ok_of_toOption (by decide +kernel),
    eq_ok_of_toOption (by decide +kernel)⟩

end Scan

end Cyclomatic
