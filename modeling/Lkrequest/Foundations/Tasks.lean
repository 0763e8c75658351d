import Mathlib.Data.List.Basic

namespace Foundations

/-!
# Tasks that take turns

Tasks are started one after the other and then stay at their index.  A step
changes one of them.  A lock has the one holder that stands where it is held,
and a common log can be read task by task: the entries of a task are a function
of where it stands.
-/

section Tasks

variable {Task Entry : Type} {tasks : List Task} {index : Nat} {old new : Task}

/-! ## Starting and changing a task -/

/-- A task among those after a change is the changed one, or was there before. -/
theorem changed_cases (found : tasks[index]? = some old) {each : Nat} {task : Task}
    (there : (tasks.set index new)[each]? = some task) :
    (each = index ∧ task = new) ∨ (each ≠ index ∧ tasks[each]? = some task) := by
  by_cases same : index = each
  · subst same
    rw [List.getElem?_set_self (List.getElem?_eq_some_iff.mp found).1] at there
    exact Or.inl ⟨rfl, (Option.some.inj there).symm⟩
  · rw [List.getElem?_set_ne same] at there
    exact Or.inr ⟨Ne.symm same, there⟩

theorem started_cases {each : Nat} {task : Task} (there : (tasks ++ [new])[each]? = some task) :
    tasks[each]? = some task ∨ (each = tasks.length ∧ task = new) := by
  rcases Nat.lt_or_ge each tasks.length with earlier | late
  · rw [List.getElem?_append_left earlier] at there
    exact Or.inl there
  · have bound := (List.getElem?_eq_some_iff.mp there).1
    rw [List.length_append, List.length_singleton] at bound
    have last : each = tasks.length := by omega
    subst last
    rw [List.getElem?_concat_length] at there
    exact Or.inr ⟨rfl, (Option.some.inj there).symm⟩

/-! ## The holder of a lock -/

/-- The holder is the task that stands where the lock is held. -/
def Held (locks : Task -> Bool) (tasks : List Task) (holder : Option Nat) : Prop :=
  forall index, holder = some index <-> ∃ task, tasks[index]? = some task ∧ locks task = true

variable {locks : Task -> Bool} {holder : Option Nat}

theorem held_nil : Held locks [] none := by
  intro index
  constructor
  · exact nofun
  · rintro ⟨task, found, _⟩
    exact (nomatch found)

theorem Held.start (held : Held locks tasks holder) (outside : locks new = false) :
    Held locks (tasks ++ [new]) holder := by
  intro each
  rw [held each]
  constructor
  · rintro ⟨task, found, inside⟩
    have inRange := (List.getElem?_eq_some_iff.mp found).1
    exact ⟨task, (List.getElem?_append_left inRange).trans found, inside⟩
  · rintro ⟨task, found, inside⟩
    rcases started_cases found with there | ⟨_, rfl⟩
    · exact ⟨task, there, inside⟩
    · exact (nomatch outside.symm.trans inside)

/-- Where the changed task stands decides whether it is the holder now. -/
theorem held_change (held : Held locks tasks holder) (found : tasks[index]? = some old)
    {next : Option Nat} (own : next = some index <-> locks new = true)
    (others : forall each, each ≠ index -> (next = some each <-> holder = some each)) :
    Held locks (tasks.set index new) next := by
  intro each
  by_cases same : each = index
  · subst same
    rw [List.getElem?_set_self (List.getElem?_eq_some_iff.mp found).1, own]
    simp
  · rw [List.getElem?_set_ne (Ne.symm same), others each same]
    exact held each

theorem Held.keep (held : Held locks tasks holder) (found : tasks[index]? = some old)
    (alike : locks new = locks old) : Held locks (tasks.set index new) holder := by
  refine held_change held found ?_ (fun _ _ => Iff.rfl)
  rw [held index, found, alike]
  simp

theorem Held.take (held : Held locks tasks none) (found : tasks[index]? = some old)
    (inside : locks new = true) : Held locks (tasks.set index new) (some index) := by
  refine held_change held found (by simp [inside]) ?_
  intro each foreign
  simp [Ne.symm foreign]

theorem Held.leave (held : Held locks tasks holder) (found : tasks[index]? = some old)
    (inside : locks old = true) (outside : locks new = false) : Held locks (tasks.set index new) none := by
  have mine : holder = some index := (held index).mpr ⟨old, found, inside⟩
  refine held_change held found (by simp [outside]) ?_
  intro each foreign
  simp [mine, Ne.symm foreign]

/-! ## A common log -/

/-- The entries of one task. -/
def slice (by_ : Entry -> Option Nat) (index : Nat) (log : List Entry) : List Entry :=
  log.filter (fun entry => by_ entry = some index)

variable {by_ : Entry -> Option Nat} {log entries : List Entry} {Story : Nat -> Task -> List Entry -> Prop}

theorem slice_append (index : Nat) (log entries : List Entry) :
    slice by_ index (log ++ entries) = slice by_ index log ++ slice by_ index entries :=
  List.filter_append ..

theorem mem_slice {entry : Entry} : entry ∈ slice by_ index log <-> entry ∈ log ∧ by_ entry = some index := by
  unfold slice
  rw [List.mem_filter, decide_eq_true_iff]

theorem slice_own (own : ∀ entry ∈ entries, by_ entry = some index) : slice by_ index entries = entries :=
  List.filter_eq_self.mpr (fun entry among => decide_eq_true (own entry among))

theorem slice_foreign (foreign : ∀ entry ∈ entries, by_ entry ≠ some index) :
    slice by_ index entries = [] := by
  apply List.filter_eq_nil_iff.mpr
  intro entry among own
  exact foreign entry among (of_decide_eq_true own)

/-- Every entry of a task is by one that was started, and the entries of each
task are its story. -/
structure Told (by_ : Entry -> Option Nat) (Story : Nat -> Task -> List Entry -> Prop) (tasks : List Task)
    (log : List Entry) : Prop where
  known : ∀ entry ∈ log, forall index, by_ entry = some index -> index < tasks.length
  story : forall (index : Nat) (task : Task), tasks[index]? = some task -> Story index task (slice by_ index log)

theorem told_nil : Told by_ Story [] [] where
  known := fun _ among => absurd among List.not_mem_nil
  story := fun _ _ found => nomatch found

theorem Told.start (told : Told by_ Story tasks log) (fresh : Story tasks.length new []) :
    Told by_ Story (tasks ++ [new]) log := by
  constructor
  · intro entry among index own
    rw [List.length_append]
    exact Nat.lt_add_right _ (told.known entry among index own)
  · intro index task found
    rcases started_cases found with there | ⟨last, rfl⟩
    · exact told.story index task there
    · have nothing : slice by_ index log = [] := by
        apply slice_foreign
        intro entry among own
        exact Nat.lt_irrefl _ (last ▸ told.known entry among index own)
      rw [nothing, last]
      exact fresh

/-- A change of one task, with what it did. -/
theorem Told.change (told : Told by_ Story tasks log) (found : tasks[index]? = some old)
    (own : ∀ entry ∈ entries, by_ entry = none ∨ by_ entry = some index)
    (goesOn : Story index old (slice by_ index log) ->
      Story index new (slice by_ index log ++ slice by_ index entries)) :
    Told by_ Story (tasks.set index new) (log ++ entries) := by
  constructor
  · intro entry among other by_other
    rw [List.length_set]
    rcases List.mem_append.mp among with earlier | now
    · exact told.known entry earlier other by_other
    · rcases own entry now with nobody | mine
      · exact (nomatch nobody.symm.trans by_other)
      · rw [Option.some.inj (by_other.symm.trans mine)]
        exact (List.getElem?_eq_some_iff.mp found).1
  · intro other task there
    rw [slice_append]
    rcases changed_cases found there with ⟨rfl, rfl⟩ | ⟨foreign, before⟩
    · exact goesOn (told.story other old found)
    · have none : slice by_ other entries = [] := by
        apply slice_foreign
        intro entry among by_other
        rcases own entry among with nobody | mine
        · exact (nomatch nobody.symm.trans by_other)
        · exact foreign (Option.some.inj (by_other.symm.trans mine))
      rw [none, List.append_nil]
      exact told.story other task before

end Tasks
end Foundations
