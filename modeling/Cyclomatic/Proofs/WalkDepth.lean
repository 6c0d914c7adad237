import Cyclomatic.Proofs.FileDiscovery

/-!
How deep the walk of a discovery goes. On a disk whose places are all named by names, as every
disk built from paths is, each directory a walk enters lies one level below the directory it
came from: below the working directory fewer entries lie under it, and above it fewer levels lie
between it and the working directory (`levelsBelow`). The fuel a discovery gives exceeds the
levels below any path, so the walk it makes is the walk with any more fuel.
-/

namespace Cyclomatic

namespace Disk

/-- Every component of every place a disk holds is a name. -/
def WellNamed (d : Disk) : Prop := ∀ e ∈ d.entries, ∀ c ∈ e.1, Path.IsName c

variable {d : Disk} {parts : List String}

theorem prefix_of_mem_parentsOf {ps : List String} (member : ps ∈ parentsOf parts) :
    ps <+: parts := by
  obtain ⟨n, -, kept⟩ := List.mem_filterMap.mp member
  split at kept
  · cases kept
  · cases kept
    exact List.take_prefix n parts

theorem WellNamed.makeDirs (named : d.WellNamed) (names : ∀ c ∈ parts, Path.IsName c)
    (t : Nat) : (d.makeDirs parts t).WellNamed := by
  -- each directory made is the place itself or one above it
  apply List.foldlRecOn (motive := WellNamed) _ _ named
  intro acc accNamed ps member
  split
  · exact accNamed
  · intro e inEntries
    rcases List.mem_append.mp inEntries with old | new
    · exact accNamed e old
    · rw [List.mem_singleton.mp new]
      intro c inPs
      rcases List.mem_append.mp member with parent | self
      · exact names c ((prefix_of_mem_parentsOf parent).subset inPs)
      · rw [List.mem_singleton.mp self] at inPs
        exact names c inPs

theorem WellNamed.putFile (named : d.WellNamed) (names : ∀ c ∈ parts, Path.IsName c)
    (bytes : List UInt8) (t : Nat) : (d.putFile parts bytes t).WellNamed := by
  have made : ((parentsOf parts).foldl (fun d ps => d.makeDirs ps t) d).WellNamed := by
    apply List.foldlRecOn (motive := WellNamed) _ _ named
    intro acc accNamed ps member
    exact accNamed.makeDirs (fun c inPs => names c ((prefix_of_mem_parentsOf member).subset inPs)) t
  unfold Disk.putFile
  dsimp only
  split
  · intro e inEntries
    obtain ⟨old, inOld, rfl⟩ := List.mem_map.mp inEntries
    split
    · exact names
    · exact made old inOld
  · intro e inEntries
    rcases List.mem_append.mp inEntries with old | new
    · exact made e old
    · rw [List.mem_singleton.mp new]
      exact names

theorem names_of_place {p : String} (placed : Path.place p = .below parts) :
    ∀ c ∈ parts, Path.IsName c := by
  unfold Path.place at placed
  dsimp only at placed
  split at placed
  · cases placed
    exact fun c member => Path.isName_resolveParts p c (List.mem_of_mem_drop member)
  · split at placed <;> cases placed

/-- A disk built from paths holds only places of names. -/
theorem wellNamed_ofLists (files : List (String × List UInt8)) (dirs : List String) :
    (ofLists files dirs).WellNamed := by
  unfold ofLists
  -- each path that names a place below the working directory adds that place, and others none
  apply List.foldlRecOn (motive := WellNamed) _ _
  · apply List.foldlRecOn (motive := WellNamed) _ _ (fun e member => by cases member)
    intro acc accNamed p _
    cases placed : Path.place p with
    | below parts => exact accNamed.makeDirs (names_of_place placed) 0
    | above => exact accNamed
    | outside => exact accNamed
  · intro acc accNamed ⟨p, bytes⟩ _
    dsimp only
    cases placed : Path.place p with
    | below parts => exact accNamed.putFile (names_of_place placed) bytes 0
    | above => exact accNamed
    | outside => exact accNamed

end Disk

namespace Scan

def strictlyBelow (parts ps : List String) : Bool := parts.length < ps.length && parts.isPrefixOf ps

/-- How many more directories, one within another, a walk from a path can enter: below the
working directory, the entries below its place; above it, the levels down to the working
directory and then every entry. -/
def levelsBelow (d : Disk) (p : String) : Nat :=
  match Path.place p with
  | .below parts => d.entries.countP fun e => strictlyBelow parts e.1
  | .above => Path.workingDir.length - (Path.resolveParts p).length + d.entries.length
  | .outside => 0

variable {d : Disk}

theorem levelsBelow_of_below {p : String} {parts : List String}
    (placed : Path.place p = .below parts) :
    levelsBelow d p = d.entries.countP fun e => strictlyBelow parts e.1 := by
  rw [levelsBelow, placed]

theorem levelsBelow_of_above {p : String} (placed : Path.place p = .above) :
    levelsBelow d p = Path.workingDir.length - (Path.resolveParts p).length + d.entries.length := by
  rw [levelsBelow, placed]

theorem levelsBelow_le (d : Disk) (p : String) :
    levelsBelow d p ≤ Path.workingDir.length - (Path.resolveParts p).length + d.entries.length := by
  unfold levelsBelow
  split
  · next parts _ =>
    have counted : d.entries.countP (fun e => strictlyBelow parts e.1) ≤ d.entries.length :=
      List.countP_le_length
    omega
  · exact le_refl _
  · exact Nat.zero_le _

theorem levelsBelow_lt_walkFuel (d : Disk) (p : String) : levelsBelow d p < walkFuel d := by
  have bound := levelsBelow_le d p
  unfold walkFuel
  omega

theorem countP_lt_countP {α : Type} {p q : α → Bool} {l : List α}
    (implies : ∀ x ∈ l, p x = true → q x = true) {y : α} (member : y ∈ l) (yes : q y = true)
    (no : p y = false) : l.countP p < l.countP q := by
  induction l with
  | nil => cases member
  | cons x l ih =>
    have rest : l.countP p ≤ l.countP q :=
      List.countP_mono_left fun z inL => implies z (List.mem_cons_of_mem x inL)
    rw [List.countP_cons, List.countP_cons]
    rcases List.mem_cons.mp member with rfl | later
    · simp only [yes, no, Bool.false_eq_true, ↓reduceIte]
      omega
    · have fewer := ih (fun z inL => implies z (List.mem_cons_of_mem x inL)) later
      have step : (if p x = true then 1 else 0) ≤ if q x = true then 1 else 0 := by
        by_cases px : p x = true
        · simp [px, implies x List.mem_cons_self px]
        · simp [px]
      omega

/-- Below the working directory, the directory a walk enters has fewer entries under it: its own
entry lies under the directory it came from, not under itself. -/
theorem levelsBelow_join_lt_below (named : d.WellNamed) {root n : String} {parts : List String}
    (placed : Path.place root = .below parts) {ps : List String} {e : Entry}
    (inEntries : (ps, e) ∈ d.entries) (child : ps = parts ++ [n]) :
    levelsBelow d (Path.join root n) < levelsBelow d root := by
  have name : Path.IsName n := named _ inEntries n (by simp [child])
  rw [levelsBelow_of_below (Path.place_join_below placed name), levelsBelow_of_below placed]
  apply countP_lt_countP _ inEntries
  · simp [strictlyBelow, child]
  · simp [strictlyBelow, child]
  · intro x _ deeper
    simp only [strictlyBelow, Bool.and_eq_true, decide_eq_true_eq,
      List.isPrefixOf_iff_prefix] at deeper ⊢
    obtain ⟨longer, under⟩ := deeper
    simp only [List.length_append, List.length_singleton] at longer
    exact ⟨by omega, (List.prefix_append parts [n]).trans under⟩

/-- Above the working directory, the directory a walk enters is the next one down towards it. -/
theorem levelsBelow_join_lt_above {root n : String} (placed : Path.place root = .above)
    {rest : List String} (down : Path.workingDir.drop (Path.resolveParts root).length = n :: rest) :
    levelsBelow d (Path.join root n) < levelsBelow d root := by
  have name : Path.IsName n :=
    Path.isName_workingDir n (List.mem_of_mem_drop (by rw [down]; exact List.mem_cons_self))
  have higher : (Path.resolveParts root).length < Path.workingDir.length := by
    have counted := congrArg List.length down
    rw [List.length_drop, List.length_cons] at counted
    omega
  have bound := levelsBelow_le d (Path.join root n)
  rw [Path.resolveParts_join root name, List.length_append, List.length_singleton] at bound
  rw [levelsBelow_of_above placed]
  omega

/-- Each directory a walk enters lies one level further down. -/
theorem levelsBelow_join_lt (named : d.WellNamed) {root n : String}
    (child : (n, true) ∈ d.children root) : levelsBelow d (Path.join root n) < levelsBelow d root := by
  unfold Disk.children at child
  split at child
  · next parts placed =>
    obtain ⟨⟨ps, e⟩, inEntries, kept⟩ := List.mem_filterMap.mp child
    dsimp only at kept
    split at kept
    · next fits =>
      simp only [Option.some.injEq, Prod.mk.injEq] at kept
      simp only [Bool.and_eq_true, beq_iff_eq, List.isPrefixOf_iff_prefix] at fits
      obtain ⟨sized, rest, rfl⟩ := fits
      obtain ⟨x, rfl⟩ := List.length_eq_one_iff.mp (by simpa using sized)
      rw [List.getLastD_concat] at kept
      rw [kept.1] at inEntries
      exact levelsBelow_join_lt_below named placed inEntries rfl
    · cases kept
  · next placed =>
    dsimp only at child
    split at child
    · next next rest down =>
      obtain ⟨rfl, -⟩ := Prod.mk.inj (List.mem_singleton.mp child)
      exact levelsBelow_join_lt_above placed down
    · cases child
  · cases child

variable {s : Config.Settings} {target : String}

/-- A walk with more fuel than levels below its root is the same walk with any more fuel. -/
theorem walk_add_fuel (named : d.WellNamed) (k : Nat) :
    ∀ {fuel : Nat} {root : String}, levelsBelow d root < fuel →
      walk s d target (fuel + k) root = walk s d target fuel root
  | 0, _, deep => absurd deep (Nat.not_lt_zero _)
  | fuel + 1, root, deep => by
    rw [Nat.add_right_comm]
    unfold walk
    dsimp only
    refine bind_congr_ok fun dirs kept => bind_congr_ok fun _ _ => ?_
    -- only the walks of the subdirectories read the fuel, each with a level less to go
    have deeper : ∀ n ∈ sortNames dirs,
        walk s d target (fuel + k) (Path.join root n) = walk s d target fuel (Path.join root n) := by
      intro n sorted
      rw [sortNames, List.mem_mergeSort] at sorted
      obtain ⟨⟨m, isDir⟩, entered, rfl⟩ := List.mem_map.mp (mem_of_filterM_eq_ok kept sorted)
      obtain ⟨child, rfl⟩ : (m, isDir) ∈ d.children root ∧ isDir = true :=
        List.mem_filter.mp entered
      exact walk_add_fuel named k (Nat.lt_of_lt_of_le (levelsBelow_join_lt named child)
        (Nat.lt_succ_iff.mp deep))
    rw [mapM_congr deeper]

/-- The walk of a discovery has fuel enough on every disk of names: any more walks the same. -/
theorem discover_eq_walk (named : d.WellNamed) {fuel : Nat} (enough : walkFuel d ≤ fuel) :
    discover s d target =
      if d.isFile (Path.pure target) then .ok [Path.pure target]
      else walk s d target fuel (Path.pure target) := by
  obtain ⟨k, rfl⟩ := Nat.exists_eq_add_of_le enough
  unfold discover
  rw [walk_add_fuel named k (levelsBelow_lt_walkFuel d _)]

example : (discover Config.Settings.default (Disk.ofLists [("src/a.js", [])] []) "/").toOption =
    some ["/work/dir/src/a.js"] := by
  decide +kernel

end Scan

end Cyclomatic
