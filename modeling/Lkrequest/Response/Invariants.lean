import Lkrequest.Foundations.Tasks
import Lkrequest.Response.Steps

namespace Lkrequest
namespace Response

open Foundations

/-!
# What holds of a streaming response

The mutex has at most one holder, and a stream that was taken out is in the
hands of the holder.  So there is one stream to be seen, in the slot or there,
and the log is what the operations got of it one after the other.
-/

section Invariants

variable {Error : Type} {toPyErr : Error -> PyErr} {methods : Operation -> Method} {api : Api}
variable {method : Method} {state next : State Error} {event : Event} {index : Nat}
variable {running : Running Error} {before stage : Stage Error} {slot : Option (Source Error)}
variable {locked : Option Nat} {served : Option (Served Error)}

/-! ## The mutex -/

namespace Stage

def holds : Stage Error -> Bool
  | .borrowing => true
  | .reading _ => true
  | _ => false

/-- The stream that the operation has taken out. -/
def taken : Stage Error -> Option (Source Error)
  | .reading stream => some stream
  | _ => none

end Stage

def Locked (state : State Error) : Prop :=
  Held (fun running : Running Error => running.stage.holds) state.operations state.locked

/-- The stream as an operation is to see it that has the mutex next. -/
def State.view (state : State Error) : Option (Source Error) :=
  (do
    let index <- state.locked
    let running <- state.operations[index]?
    running.stage.taken) <|> state.slot

theorem settled_holds (method : Method) (served : Served Error) :
    (settled toPyErr method api served).holds = false := by
  cases api <;> rfl

theorem Change.lock_cases (change : Change toPyErr method api state index event before stage slot locked served) :
    (locked = state.locked ∧ before.holds = false ∧ stage.holds = false) ∨
      (state.locked = none ∧ locked = some index ∧ stage.holds = true) ∨
      (locked = none ∧ before.holds = true ∧ stage.holds = false) := by
  cases change with
  | refuse free empty => exact Or.inl ⟨free.symm, rfl, settled_holds _ _⟩
  | borrow free stream there borrows => exact Or.inr (Or.inl ⟨free, rfl, rfl⟩)
  | take free stream there takes => exact Or.inr (Or.inl ⟨free, rfl, rfl⟩)
  | chunk stream there served left serves => exact Or.inr (Or.inr ⟨rfl, rfl, settled_holds _ _⟩)
  | bytes stream served serves => exact Or.inr (Or.inr ⟨rfl, rfl, settled_holds _ _⟩)
  | convert served => exact Or.inl ⟨rfl, rfl, rfl⟩

theorem locked_step (held : Locked state) (steps : Steps toPyErr methods api state event next) :
    Locked next := by
  cases steps with
  | start operation => exact held.start rfl
  | change index running event stage slot locked served found change =>
      rcases change.lock_cases with ⟨rfl, outside, stays⟩ | ⟨free, rfl, inside⟩ | ⟨rfl, inside, leaves⟩
      · exact held.keep found (stays.trans outside.symm)
      · unfold Locked at held
        rw [free] at held
        exact held.take found inside
      · exact held.leave found inside leaves

theorem view_free (free : state.locked = none) : state.view = state.slot := by
  unfold State.view
  rw [free]
  rfl

theorem view_held (found : state.operations[index]? = some running) (holder : state.locked = some index) :
    state.view = (running.stage.taken <|> state.slot) := by
  unfold State.view
  rw [holder]
  change ((state.operations[index]?).bind _ <|> _) = _
  rw [found]
  rfl

/-! ## The entries of an operation -/

/-- The entry of an operation at every stage. -/
inductive Story (toPyErr : Error -> PyErr) (method : Method) (api : Api) (index : Nat) (operation : Operation) :
    Stage Error -> List (Entry Error) -> Prop
  | waiting : Story toPyErr method api index operation .waiting []
  | borrowing (borrows : method.isTake = false) : Story toPyErr method api index operation .borrowing []
  | reading (stream : Source Error) (takes : method.isTake = true) :
      Story toPyErr method api index operation (.reading stream) []
  | converting (served : Served Error) :
      Story toPyErr method api index operation (.converting served) [⟨index, operation, served⟩]
  | returned (served : Served Error) :
      Story toPyErr method api index operation (.returned (method.result toPyErr served))
        [⟨index, operation, served⟩]

/-- The operation of an entry. -/
def Entry.by_ (entry : Entry Error) : Option Nat := some entry.index

abbrev ToldBy (toPyErr : Error -> PyErr) (methods : Operation -> Method) (api : Api) (state : State Error) :
    Prop :=
  Told Entry.by_ (fun index running entries =>
    Story toPyErr (methods running.operation) api index running.operation running.stage entries)
    state.operations state.log

theorem entryOf_own (index : Nat) (operation : Operation) (served : Option (Served Error)) :
    ∀ entry ∈ entryOf index operation served, entry.by_ = some index := by
  intro entry among
  rcases Option.map_eq_some_iff.mp (Option.mem_toList.mp among) with ⟨_, _, rfl⟩
  rfl

theorem story_settled (operation : Operation) (served : Served Error) :
    Story toPyErr method api index operation (settled toPyErr method api served)
      [⟨index, operation, served⟩] := by
  cases api with
  | async => exact .returned served
  | blocking => exact .converting served

theorem Story.borrows {operation : Operation} {log : List (Entry Error)}
    (story : Story toPyErr method api index operation .borrowing log) : method.isTake = false := by
  cases story with
  | borrowing borrows => exact borrows

theorem Story.takes {operation : Operation} {log : List (Entry Error)} {stream : Source Error}
    (story : Story toPyErr method api index operation (.reading stream) log) : method.isTake = true := by
  cases story with
  | reading _ takes => exact takes

theorem Story.change {operation : Operation} {log : List (Entry Error)}
    (story : Story toPyErr method api index operation before log)
    (change : Change toPyErr method api state index event before stage slot locked served) :
    Story toPyErr method api index operation stage (log ++ entryOf index operation served) := by
  cases change with
  | refuse free empty =>
      cases story
      exact story_settled operation .refused
  | borrow free stream there borrows =>
      cases story
      exact .borrowing borrows
  | take free stream there takes =>
      cases story
      exact .reading stream takes
  | chunk stream there served left serves =>
      cases story
      exact story_settled operation served
  | bytes stream served serves =>
      cases story
      exact story_settled operation served
  | convert served =>
      cases story
      exact .returned served

theorem told_step (told : ToldBy toPyErr methods api state)
    (steps : Steps toPyErr methods api state event next) : ToldBy toPyErr methods api next := by
  cases steps with
  | start operation => exact told.start .waiting
  | change index running event stage slot locked served found change =>
      have own := entryOf_own index running.operation served
      apply told.change found (fun entry among => Or.inr (own entry among))
      intro story
      rw [slice_own own]
      exact story.change change

/-! ## The order of the operations -/

/-- What holds in every state that a run can reach. -/
structure Sound (toPyErr : Error -> PyErr) (methods : Operation -> Method) (api : Api) (body : Source Error)
    (state : State Error) : Prop where
  locked : Locked state
  taken : forall (index : Nat) (running : Running Error), state.operations[index]? = some running ->
    running.stage.taken ≠ none -> state.slot = none
  ordered : Ordered (fun entry => (methods entry.operation).isTake) (some body) state.log state.view
  told : ToldBy toPyErr methods api state

variable {body : Source Error}

theorem sound_initial (body : Source Error) : Sound toPyErr methods api body (State.initial body) where
  locked := held_nil
  taken := fun _ _ found => nomatch found
  ordered := .nil _
  told := told_nil

/-- An operation that has taken the stream has the mutex, and nobody else has it. -/
theorem taken_step (sound : Sound toPyErr methods api body state)
    (steps : Steps toPyErr methods api state event next) :
    forall (index : Nat) (running : Running Error), next.operations[index]? = some running ->
      running.stage.taken ≠ none -> next.slot = none := by
  have holds : forall {stage : Stage Error}, stage.taken ≠ none -> stage.holds = true := by
    intro stage taken
    cases stage with
    | reading stream => rfl
    | _ => exact absurd rfl taken
  intro each other there taken
  cases steps with
  | start operation =>
      rcases started_cases there with before | ⟨_, rfl⟩
      · exact sound.taken each other before taken
      · exact absurd rfl taken
  | change index running event stage slot locked served found change =>
      have alone : forall {task : Running Error}, state.operations[each]? = some task ->
          task.stage.taken ≠ none -> state.locked = some each :=
        fun present takes => (sound.locked each).mpr ⟨_, present, holds takes⟩
      rcases changed_cases found there with ⟨rfl, rfl⟩ | ⟨foreign, before⟩
      · generalize running.stage = earlier at change
        cases change with
        | take free stream present takes => rfl
        | refuse free empty => exact absurd (holds taken) (by rw [settled_holds]; exact nofun)
        | chunk stream present served left serves =>
            exact absurd (holds taken) (by rw [settled_holds]; exact nofun)
        | bytes stream served serves => exact absurd (holds taken) (by rw [settled_holds]; exact nofun)
        | _ => exact absurd rfl taken
      · have holder := alone before taken
        have empty := sound.taken each other before taken
        generalize same : running.stage = earlier at change
        cases change with
        | take free stream present takes => rfl
        | chunk stream present served left serves =>
            exact (nomatch empty.symm.trans present)
        | _ => exact empty

theorem view_same (locks : next.locked = state.locked) (slots : next.slot = state.slot)
    (holder : forall index, state.locked = some index -> next.operations[index]? = state.operations[index]?) :
    next.view = state.view := by
  cases lock : state.locked with
  | none => rw [view_free (locks.trans lock), view_free lock, slots]
  | some index =>
      unfold State.view
      rw [locks, lock, slots]
      change ((next.operations[index]?).bind _ <|> _) = ((state.operations[index]?).bind _ <|> _)
      rw [holder index lock]

theorem ordered_of_view {takes : Entry Error -> Bool} {start after : Option (Source Error)}
    {log : List (Entry Error)} (ordered : Ordered takes start log after) (view : state.view = after) :
    Ordered takes start log state.view := view ▸ ordered

theorem ordered_step (sound : Sound toPyErr methods api body state)
    (steps : Steps toPyErr methods api state event next) :
    Ordered (fun entry => (methods entry.operation).isTake) (some body) next.log next.view := by
  have ordered := sound.ordered
  cases steps with
  | start operation =>
      apply ordered_of_view ordered
      apply view_same
      case locks => rfl
      case slots => rfl
      case holder =>
        intro index holder
        rcases (sound.locked index).mp holder with ⟨task, found, _⟩
        exact List.getElem?_append_left (List.getElem?_eq_some_iff.mp found).1
  | change index running event stage slot locked served found change =>
      have own : forall {stage : Stage Error}, (state.operations.set index { running with stage := stage })[index]? =
          some { running with stage := stage } :=
        List.getElem?_set_self (List.getElem?_eq_some_iff.mp found).1
      have story := sound.told.story index running found
      have holds : running.stage.holds = true -> state.locked = some index :=
        fun inside => (sound.locked index).mpr ⟨running, found, inside⟩
      have holder_is : forall {holder}, state.locked = some holder -> running.stage.holds = false ->
          holder ≠ index := by
        rintro holder lock stays rfl
        rcases (sound.locked holder).mp lock with ⟨task, there, inside⟩
        cases found.symm.trans there
        exact (nomatch stays.symm.trans inside)
      have seen := fun lock => view_held found lock
      have empty := sound.taken index running found
      generalize stands : running.stage = before at change story holds holder_is seen empty
      cases change with
      | refuse free nothing =>
          rw [view_free free] at ordered
          exact ordered_of_view (ordered.snoc _ (by rw [nothing]; rfl)) ((view_free rfl).trans nothing)
      | borrow free stream there borrows =>
          rw [view_free free, ← List.append_nil state.log] at ordered
          apply ordered_of_view ordered
          exact (view_held own rfl).trans rfl
      | take free stream there takes =>
          rw [view_free free, there, ← List.append_nil state.log] at ordered
          apply ordered_of_view ordered
          exact (view_held own rfl).trans rfl
      | chunk stream there served left serves =>
          rw [seen (holds rfl), there] at ordered
          exact ordered_of_view (ordered.snoc _ (by rw [story.borrows]; exact serves)) (view_free rfl)
      | bytes stream served serves =>
          rw [seen (holds rfl)] at ordered
          exact ordered_of_view (ordered.snoc _ (by rw [story.takes]; exact serves))
            ((view_free rfl).trans (empty nofun))
      | convert served =>
          rw [← List.append_nil state.log] at ordered
          apply ordered_of_view ordered
          apply view_same
          case locks => rfl
          case slots => rfl
          case holder =>
            intro holder lock
            exact List.getElem?_set_ne (Ne.symm (holder_is lock rfl))

theorem Sound.step (sound : Sound toPyErr methods api body state)
    (stepped : state.step toPyErr methods api event = some next) : Sound toPyErr methods api body next := by
  have steps := step_steps stepped
  exact ⟨locked_step sound.locked steps, taken_step sound steps, ordered_step sound steps,
    told_step sound.told steps⟩

theorem sound_run {Encoding : Type} {codecs : Codecs Encoding} {headers : HeaderList} {events : List Event}
    (ran : (streaming codecs headers toPyErr api).run (.initial body) events = some state) :
    Sound toPyErr (api.method codecs headers) api body state :=
  (streaming codecs headers toPyErr api).run_invariant (Sound toPyErr (api.method codecs headers) api body)
    (fun _ _ _ sound stepped => sound.step stepped) (sound_initial body) ran

end Invariants

end Response
end Lkrequest
