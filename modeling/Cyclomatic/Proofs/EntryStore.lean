import Cyclomatic.Value.Basic

/-!
Storing into a mapping. A mapping is a list of entries; storing a value under a key that is
present replaces the value in place, and under a new key appends an entry. For string keys:
storing a list of entries gives each key the value of the last entry stored under it, keeps the
keys already there in their places and adds the new ones at the end, in order. Under distinct
keys the last entry is the one found under its key.
-/

namespace Cyclomatic

namespace Value

@[simp] theorem sameKey_str_right {k : Value} {s : String} : sameKey k (.str s) = true ↔ k = .str s := by
  cases k with
  | str t =>
    show (t == s) = true ↔ _
    simp
  | _ =>
    -- a key that is not a string is never the same key as one
    show false = true ↔ _
    simp

@[simp] theorem sameKey_str_left {k : Value} {s : String} : sameKey (.str s) k = true ↔ k = .str s := by
  cases k with
  | str t =>
    show (s == t) = true ↔ _
    rw [beq_iff_eq, Value.str.injEq]
    exact eq_comm
  | _ =>
    show false = true ↔ _
    simp

namespace Entries

theorem contains_iff_mem_keys (es : Entries) {k : Value} {s : String} (key : k = .str s) :
    Entries.contains es k = true ↔ k ∈ es.map Prod.fst := by
  subst key
  simp only [Entries.contains, List.any_eq_true, sameKey_str_right, List.mem_map]

/-- Storing in place keeps every key, so a view of the keys does not change. -/
theorem comp_store {β : Type} (g : Value → β) (k v : Value) :
    (fun e : Value × Value => g e.1) ∘ (fun e => if sameKey e.1 k = true then (e.1, v) else e) =
      fun e => g e.1 := by
  funext e
  simp only [Function.comp]
  split <;> rfl

/-- Storing a value gives its key that value and leaves every other string key as it was. -/
theorem find?_insert_str (es : Entries) (k v : Value) (s : String) :
    Entries.find? (Entries.insert es k v) (.str s) =
      if sameKey k (.str s) then some v else Entries.find? es (.str s) := by
  unfold Entries.insert Entries.find?
  split
  · next present =>
    -- stored in place: the keys stay, so the search meets the same entry
    rw [List.find?_map, Option.map_map, comp_store (sameKey · (.str s))]
    split
    · next same =>
      have key := sameKey_str_right.mp same
      subst key
      obtain ⟨e, found⟩ := Option.isSome_iff_exists.mp
        (List.find?_isSome.mpr (List.any_eq_true.mp present))
      have hit := List.find?_some found
      rw [found]
      simp [hit]
    · next other =>
      apply Option.map_congr
      intro e found
      have hit := List.find?_some found
      have key := sameKey_str_right.mp hit
      have apart : sameKey e.1 k = false := by
        rw [key]
        exact Bool.eq_false_iff.mpr fun same => other (sameKey_str_right.mpr
          (sameKey_str_left.mp same))
      simp [apart]
  · next absent =>
    -- stored at the end, after every entry that was there
    rw [List.find?_append, Option.map_or]
    split
    · next same =>
      have key := sameKey_str_right.mp same
      subst key
      have none : List.find? (fun e => sameKey e.1 (.str s)) es = none :=
        List.find?_eq_none.mpr fun e member hit =>
          absent (List.any_eq_true.mpr ⟨e, member, hit⟩)
      simp [none, same]
    · next other =>
      simp [other]

/-- Storing a list of entries: a string key gives the value of the last entry stored under it,
or else what it gave before. -/
theorem find?_update_str (es more : Entries) (s : String) :
    Entries.find? (Entries.update es more) (.str s) =
      ((more.filter fun e => sameKey e.1 (.str s)).getLast?.map Prod.snd).or
        (Entries.find? es (.str s)) := by
  induction more generalizing es with
  | nil => rfl
  | cons m more ih =>
    show Entries.find? (Entries.update (Entries.insert es m.1 m.2) more) (.str s) = _
    rw [ih, find?_insert_str, List.filter_cons]
    by_cases same : sameKey m.1 (.str s) = true
    · rw [if_pos same, if_pos same, List.getLast?_cons]
      cases (more.filter fun e => sameKey e.1 (.str s)).getLast? <;> rfl
    · rw [if_neg same, if_neg same]

/-- Whether a key is present depends on the keys only. -/
theorem contains_eq_any (es : Entries) (k : Value) :
    Entries.contains es k = (es.map Prod.fst).any fun x => sameKey x k := by
  rw [Entries.contains, List.any_map]
  rfl

theorem keys_insert (es : Entries) (k v : Value) :
    (Entries.insert es k v).map Prod.fst =
      if Entries.contains es k then es.map Prod.fst else es.map Prod.fst ++ [k] := by
  unfold Entries.insert
  split
  · rw [List.map_map, comp_store fun x => x]
  · rw [List.map_append]
    rfl

/-- Storing distinct string keys keeps the keys already there in place and adds the new ones at
the end, in order. -/
theorem keys_update (es more : Entries) (strKeys : ∀ e ∈ more, ∃ s, e.1 = .str s)
    (distinct : (more.map Prod.fst).Nodup) :
    (Entries.update es more).map Prod.fst =
      es.map Prod.fst ++ (more.map Prod.fst).filter fun k => !Entries.contains es k := by
  induction more generalizing es with
  | nil => simp [Entries.update]
  | cons m more ih =>
    have tailKeys : ∀ e ∈ more, ∃ s, e.1 = .str s := fun e member =>
      strKeys e (List.mem_cons_of_mem m member)
    rw [List.map_cons, List.nodup_cons] at distinct
    obtain ⟨notLater, tailDistinct⟩ := distinct
    show (Entries.update (Entries.insert es m.1 m.2) more).map Prod.fst = _
    rw [ih _ tailKeys tailDistinct, keys_insert, List.map_cons, List.filter_cons]
    -- a key still to come is present after storing `m` exactly when it was before
    have later : ∀ k ∈ more.map Prod.fst,
        Entries.contains (Entries.insert es m.1 m.2) k = Entries.contains es k := by
      intro k member
      obtain ⟨e, inMore, rfl⟩ := List.mem_map.mp member
      obtain ⟨t, key⟩ := tailKeys e inMore
      have apart : sameKey m.1 e.1 = false := by
        rw [key]
        exact Bool.eq_false_iff.mpr fun same =>
          notLater (sameKey_str_right.mp same ▸ key ▸ List.mem_map_of_mem inMore)
      rw [contains_eq_any, contains_eq_any, keys_insert]
      split
      · rfl
      · rw [List.any_append]
        simp [apart]
    rw [List.filter_congr fun k member => congrArg (! ·) (later k member)]
    by_cases present : Entries.contains es m.1 = true
    · simp [present]
    · simp [present]

/-- In a mapping with distinct string keys, the last entry is the one found under its key. -/
theorem getLast?_map_snd (L : Entries) (strKeys : ∀ e ∈ L, ∃ s, e.1 = .str s)
    (distinct : (L.map Prod.fst).Nodup) :
    L.getLast?.map Prod.snd = (L.map Prod.fst).getLast?.bind (Entries.find? L) := by
  rw [List.getLast?_map]
  cases last : L.getLast? with
  | none => rfl
  | some e =>
    obtain ⟨init, split⟩ := List.getLast?_eq_some_iff.mp last
    obtain ⟨s, key⟩ := strKeys e
      (by rw [split]; exact List.mem_append_right _ (List.mem_singleton_self e))
    subst split
    rw [List.map_append, List.nodup_append] at distinct
    have before : List.find? (fun x => sameKey x.1 e.1) init = none := by
      apply List.find?_eq_none.mpr
      intro x member same
      rw [key] at same
      exact distinct.2.2 x.1 (List.mem_map_of_mem member) e.1 (List.mem_singleton_self e.1)
        ((sameKey_str_right.mp same).trans key.symm)
    have self : sameKey e.1 e.1 = true := by
      rw [key]
      exact sameKey_str_right.mpr rfl
    simp [Entries.find?, List.find?_append, before, self]

/-- Under distinct string keys at most one entry has a given key, so the last entry under it is
the first. -/
theorem getLast?_filter_eq_find? (L : Entries) (s : String)
    (distinct : (L.map Prod.fst).Nodup) :
    (L.filter fun e => sameKey e.1 (.str s)).getLast?.map Prod.snd = Entries.find? L (.str s) := by
  -- the keys are distinct, so no two entries are under the key
  have atMostOne : ∀ a b rest, L.filter (fun e => sameKey e.1 (.str s)) ≠ a :: b :: rest := by
    intro a b rest split
    have under : ∀ x ∈ L.filter (fun e => sameKey e.1 (.str s)), x.1 = .str s :=
      fun x member => sameKey_str_right.mp (List.mem_filter.mp member).2
    have apart := distinct.sublist
      ((List.filter_sublist (p := fun e => sameKey e.1 (.str s)) (l := L)).map Prod.fst)
    rw [split] at under apart
    rw [List.map_cons, List.map_cons, List.nodup_cons] at apart
    have aKey := under a List.mem_cons_self
    have bKey := under b (List.mem_cons_of_mem _ List.mem_cons_self)
    exact apart.1 (List.mem_cons.mpr (.inl (aKey.trans bKey.symm)))
  unfold Entries.find?
  rw [← List.head?_filter]
  cases split : L.filter (fun e => sameKey e.1 (.str s)) with
  | nil => rfl
  | cons a rest =>
    cases rest with
    | nil => rfl
    | cons b rest => exact absurd split (atMostOne a b rest)

end Entries

end Value

end Cyclomatic
