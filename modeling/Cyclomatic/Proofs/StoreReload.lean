import Cyclomatic.Config.Store

/-!
Reloading settings. A store asked for its settings reads its file again when the file exists and
the store holds nothing yet or the file's time has changed. Over any sequence of asks, every
answer is the settings of the latest reading that succeeded, or the defaults while none has; a
reading that fails in a way the store does not recover from is passed on as the answer of that
ask, and only of that one.
-/

namespace Cyclomatic

namespace Config

namespace Store

/-- The settings a store gives when it does not read: what it holds, or the defaults. -/
def held (s : Store) : Settings := s.settings.getD Settings.default

/-- The reading a store makes when asked over a disk: the result of loading its file when it
has one that exists and it holds nothing yet or the file's time is not the one it last saw, or
the failure of asking the file's time; none when it does not read. -/
def reading (s : Store) (d : Disk) : Option (Except LoadError Settings) :=
  match s.path with
  | none => none
  | some p =>
    match timeOf d p with
    | .error f => some (.error (.path f))
    | .ok none => none
    | .ok (some t) =>
      if s.settings.isNone || s.mtime != some t then some (load d (some p) ".") else none

theorem timeOf_error {d : Disk} {p : String} {f : PathFault} (failed : timeOf d p = .error f) :
    f.isOSError = false := by
  unfold timeOf at failed
  split at failed
  · cases failed
  · next g _ =>
    split at failed
    · cases failed
    · next notOS =>
      cases failed
      simpa using notOS

def answers (s : Store) : List Disk → List (Except LoadError Settings)
  | [] => []
  | d :: ds => (s.current d).1 :: answers (s.current d).2 ds

def readings (s : Store) : List Disk → List (Option (Except LoadError Settings))
  | [] => []
  | d :: ds => s.reading d :: readings (s.current d).2 ds

/-- The settings of the latest reading that succeeded, or `start` when none did. -/
def latest (start : Settings) (rs : List (Option (Except LoadError Settings))) : Settings :=
  ((rs.filterMap fun r => r.bind Except.toOption).getLast?).getD start

def heldAfter (start : Settings) : Option (Except LoadError Settings) → Settings
  | some (.ok v) => v
  | _ => start

theorem latest_cons (start : Settings) (r : Option (Except LoadError Settings))
    (rs : List (Option (Except LoadError Settings))) :
    latest start (r :: rs) = latest (heldAfter start r) rs := by
  unfold latest
  rcases r with _ | _ | v
  · rfl
  · rfl
  · simp [Except.toOption, heldAfter, List.getLast?_cons]

/-- Everything one ask can do: no reading, and the held settings stay; a reading that succeeds
and is held; a failed reading the store recovers from, keeping what it held; and a failed
reading it passes on, keeping what it held. -/
theorem current_cases (s : Store) (d : Disk) :
    (s.reading d = none ∧ (s.current d).1 = .ok (held s) ∧ held (s.current d).2 = held s) ∨
    (∃ v, s.reading d = some (.ok v) ∧ (s.current d).1 = .ok v ∧ held (s.current d).2 = v) ∨
    (∃ e, s.reading d = some (.error e) ∧ e.recoverable = true ∧
      (s.current d).1 = .ok (held s) ∧ held (s.current d).2 = held s) ∨
    (∃ e, s.reading d = some (.error e) ∧ e.recoverable = false ∧
      (s.current d).1 = .error e ∧ (s.current d).2.settings = s.settings) := by
  rcases s with ⟨path, settings, mtime⟩
  cases path with
  | none =>
    -- no file: the store keeps what it holds
    exact .inl ⟨rfl, rfl, rfl⟩
  | some p =>
    rcases time : timeOf d p with f | _ | t
    · -- the time cannot be asked: the failure is passed on, and nothing else changes
      refine .inr (.inr (.inr ⟨.path f, by simp [reading, time], ?_, by simp [current, time],
        by simp [current, time]⟩))
      simp [LoadError.recoverable, timeOf_error time]
    · simp [current, reading, time, keepLast, held]
    · by_cases stale : (settings.isNone || mtime != some t) = true
      · cases loaded : load d (some p) "." with
        | ok v => simp [current, reading, time, stale, loaded, held]
        | error e =>
          cases kept : e.recoverable with
          | true => simp [current, reading, time, stale, loaded, kept, keepLast, held]
          | false => simp [current, reading, time, stale, loaded, kept]
      · -- the file is as the store last read it
        simp only [Bool.not_eq_true] at stale
        simp [current, reading, time, stale, held]

/-- After one ask the store holds what its reading gave, or what it held before. -/
theorem held_current (s : Store) (d : Disk) :
    held (s.current d).2 = heldAfter (held s) (s.reading d) := by
  rcases current_cases s d with ⟨none, -, same⟩ | ⟨v, read, -, got⟩ |
      ⟨e, read, -, -, same⟩ | ⟨e, read, -, -, kept⟩
  · rw [none, same]
    rfl
  · rw [read, got]
    rfl
  · rw [read, same]
    rfl
  · rw [read]
    exact congrArg (·.getD Settings.default) kept

/-- One ask answers what it then holds, unless it passes on a failed reading it cannot recover
from. -/
theorem current_answer (s : Store) (d : Disk) :
    (s.current d).1 = .ok (held (s.current d).2) ∨
    ∃ e, (s.current d).1 = .error e ∧ s.reading d = some (.error e) ∧
      e.recoverable = false := by
  rcases current_cases s d with ⟨-, answer, same⟩ | ⟨v, -, answer, got⟩ |
      ⟨e, -, -, answer, same⟩ | ⟨e, read, kept, answer, -⟩
  · exact .inl (by rw [answer, same])
  · exact .inl (by rw [answer, got])
  · exact .inl (by rw [answer, same])
  · exact .inr ⟨e, answer, read, kept⟩

/-- Over any sequence of asks, each answer is the settings of the latest successful reading so
far, or what the store held at the start while none has succeeded; or it is a failed reading
of that ask that the store does not recover from. -/
theorem answers_latest_reading (s : Store) (ds : List Disk) (i : Nat) (bound : i < ds.length) :
    (answers s ds)[i]? = some (.ok (latest (held s) ((readings s ds).take (i + 1)))) ∨
    ∃ e, (answers s ds)[i]? = some (.error e) ∧ (readings s ds)[i]? = some (some (.error e)) ∧
      e.recoverable = false := by
  induction ds generalizing s i with
  | nil => exact absurd bound (Nat.not_lt_zero i)
  | cons d ds ih =>
    cases i with
    | zero =>
      -- the first ask: its own reading is the only one so far
      rcases current_answer s d with answer | ⟨e, answer, read, kept⟩
      · left
        simp only [answers, readings, List.getElem?_cons_zero, List.take_succ_cons,
          List.take_zero, latest_cons, answer, ← held_current]
        rfl
      · exact .inr ⟨e, by simp [answers, answer], by simp [readings, read], kept⟩
    | succ i =>
      -- a later ask: the run goes on from the store the first ask left
      have later := ih (s.current d).2 i (Nat.lt_of_succ_lt_succ bound)
      simp only [answers, readings, List.getElem?_cons_succ, List.take_succ_cons, latest_cons,
        ← held_current]
      exact later

/-- A store made for a settings file, asked once over each state of the disk in turn, answers
the settings of the latest reading of the file that succeeded, or the defaults while none has;
a reading that fails changes no answer, except that one that fails on bytes that are not UTF-8
or on a value that fails as its own type is itself the answer of the ask that made it. -/
theorem ask_answers_latest_reading (path : String) (ds : List Disk) (i : Nat)
    (bound : i < ds.length) :
    (answers (ofPath (some path)) ds)[i]? =
      some (.ok (latest Settings.default ((readings (ofPath (some path)) ds).take (i + 1)))) ∨
    ∃ e, (answers (ofPath (some path)) ds)[i]? = some (.error e) ∧
      (readings (ofPath (some path)) ds)[i]? = some (some (.error e)) ∧
      e.recoverable = false :=
  answers_latest_reading (ofPath (some path)) ds i bound

/-- A disk whose settings file `c.yaml` holds a byte that no UTF-8 character starts with. -/
def undecodableDisk : Disk := ⟨[(["c.yaml"], .file [0xff, 0x0a] 1000010 true)]⟩

/-- Asked once over a file that is not UTF-8, a fresh store answers the defaults or passes on
the failure. -/
theorem ask_answers_over_undecodable_file :
    0 < [undecodableDisk].length ∧
      ((answers (ofPath (some "c.yaml")) [undecodableDisk])[0]? =
        some (.ok (latest Settings.default
          ((readings (ofPath (some "c.yaml")) [undecodableDisk]).take 1))) ∨
      ∃ e, (answers (ofPath (some "c.yaml")) [undecodableDisk])[0]? = some (.error e) ∧
        (readings (ofPath (some "c.yaml")) [undecodableDisk])[0]? = some (some (.error e)) ∧
        e.recoverable = false) :=
  ⟨by decide, ask_answers_latest_reading "c.yaml" [undecodableDisk] 0 (by decide)⟩

/-- Asking a fresh store for its settings can fail: over a settings file that is not UTF-8 it
passes on the decoding failure instead of answering the defaults. -/
theorem current_fails_on_undecodable_file :
    ∃ e, ((ofPath (some "c.yaml")).current undecodableDisk).1 = .error e ∧
      e.kind = "UnicodeDecodeError" := by
  have kind : (match ((ofPath (some "c.yaml")).current undecodableDisk).1 with
      | .error e => e.kind
      | .ok _ => "") = "UnicodeDecodeError" := by
    decide +kernel
  revert kind
  cases ((ofPath (some "c.yaml")).current undecodableDisk).1 with
  | ok v => exact fun never => absurd (show "" = "UnicodeDecodeError" from never) (by decide)
  | error e => exact fun kind => ⟨e, rfl, kind⟩

end Store

end Config

end Cyclomatic
