import Lkrequest.Response.Cancellation
import Mathlib.Data.List.Flatten

namespace Lkrequest
namespace Response

open Foundations

/-!
# A cancelled operation is atomic

An operation that is dropped has had no effect, or it has read what an operation
reads that is not dropped, and nobody has seen it.  So what the other operations
return is what they return of a response on which nothing is cancelled.
-/

section Atomicity

variable {Error : Type}

/-! ## A response without the cancellations -/

/-- An operation that is in the mutex has read nothing yet. -/
def Stage.seen : Stage Error -> Stage Error
  | .borrowing => .waiting
  | .reading _ => .waiting
  | stage => stage

/-- Nobody has dropped the operation of the entry. -/
def Cancellable.kept (state : Cancellable Error) (entry : Entry Error) : Bool :=
  decide (state.fates[entry.index]? ≠ some .dropped)

/-- A response whose operations are not cancelled stands where this one does.
An operation that was dropped has not begun there, or it has returned. -/
structure Explains (state : Cancellable Error) (plain : State Error) : Prop where
  free : plain.locked = none
  slot : plain.slot = state.response.view
  operations : plain.operations.length = state.response.operations.length
  alive : forall (index : Nat) (running : Running Error) (fate : Fate),
    state.futures[index]? = some (running, fate) -> fate ≠ .dropped ->
      plain.operations[index]? = some { running with stage := running.stage.seen }
  dropped : forall (index : Nat) (running : Running Error), state.futures[index]? = some (running, .dropped) ->
    ∃ stage, plain.operations[index]? = some ⟨running.operation, stage⟩ ∧
      (stage = .waiting ∨ ∃ result, stage = .returned result)
  log : state.response.log = plain.log.filter state.kept

variable {toPyErr : Error -> PyErr} {methods : Operation -> Method}

/-- Some step of a response. -/
def Stepped (toPyErr : Error -> PyErr) (methods : Operation -> Method) (before after : State Error) : Prop :=
  ∃ event, before.step toPyErr methods .async event = some after

variable {plain : State Error} {index : Nat} {operation : Operation} {served : Served Error}
variable {left : Option (Source Error)}

theorem step_acquire {running : Running Error} (found : plain.operations[index]? = some running) :
    plain.step toPyErr methods .async (.acquire index) = plain.acquire toPyErr methods .async index running := by
  change (plain.operations[index]?).bind _ = _
  rw [found]
  rfl

theorem step_finish {running : Running Error} (found : plain.operations[index]? = some running) :
    plain.step toPyErr methods .async (.finish index) = plain.finish toPyErr methods .async index running := by
  change (plain.operations[index]?).bind _ = _
  rw [found]
  rfl

/-- The state after an operation that had the mutex. -/
def State.after (plain : State Error) (toPyErr : Error -> PyErr) (methods : Operation -> Method) (index : Nat)
    (operation : Operation) (served : Served Error) (left : Option (Source Error)) : State Error :=
  ⟨left, none, plain.operations.set index ⟨operation, settled toPyErr (methods operation) .async served⟩,
    plain.log ++ [⟨index, operation, served⟩]⟩

/-- Leaving the mutex. -/
theorem settle_after {slot : Option (Source Error)} {stage : Stage Error} (holder : Option Nat) :
    (⟨slot, holder, plain.operations.set index ⟨operation, stage⟩, plain.log⟩ : State Error).settle toPyErr
        methods .async index ⟨operation, stage⟩ served =
      plain.after toPyErr methods index operation served slot := by
  change State.mk slot none ((plain.operations.set index _).set index _) _ = _
  rw [List.set_set]
  rfl

theorem finish_borrowed {stream : Source Error} {holder : Option Nat}
    (serves : serve false (some stream) = (served, left)) :
    (⟨some stream, holder, plain.operations.set index ⟨operation, .borrowing⟩, plain.log⟩ : State Error).finish
        toPyErr methods .async index ⟨operation, .borrowing⟩ =
      some (plain.after toPyErr methods index operation served left) := by
  rcases stream with _ | ⟨error | chunk, rest⟩
  · cases serves
    exact congrArg some (settle_after holder)
  · cases serves
    exact congrArg some (settle_after holder)
  · cases serves
    exact congrArg some (settle_after holder)

theorem finish_taken {stream : Source Error} {holder : Option Nat}
    (serves : serve true (some stream) = (served, left)) :
    (⟨none, holder, plain.operations.set index ⟨operation, .reading stream⟩, plain.log⟩ : State Error).finish
        toPyErr methods .async index ⟨operation, .reading stream⟩ =
      some (plain.after toPyErr methods index operation served left) := by
  unfold State.finish
  dsimp only
  cases read : stream.bytes with
  | ok data =>
      cases (serve_read read).symm.trans serves
      exact congrArg some (settle_after holder)
  | error error =>
      cases (serve_failed read).symm.trans serves
      exact congrArg some (settle_after holder)

/-- A waiting operation that has the mutex to itself gets what `serve` gives. -/
theorem serves_at_once (free : plain.locked = none)
    (found : plain.operations[index]? = some ⟨operation, .waiting⟩)
    (serves : serve (methods operation).isTake plain.slot = (served, left)) :
    Relation.ReflTransGen (Stepped toPyErr methods) plain
      (plain.after toPyErr methods index operation served left) := by
  have inRange := (List.getElem?_eq_some_iff.mp found).1
  have acquires : plain.step toPyErr methods .async (.acquire index) = _ := step_acquire found
  unfold State.acquire at acquires
  dsimp only at acquires
  rw [if_pos free] at acquires
  have inside : forall {slot : Option (Source Error)} {stage : Stage Error} {after : State Error},
      plain.step toPyErr methods .async (.acquire index) =
        some ⟨slot, some index, plain.operations.set index ⟨operation, stage⟩, plain.log⟩ ->
      (⟨slot, some index, plain.operations.set index ⟨operation, stage⟩, plain.log⟩ : State Error).finish
        toPyErr methods .async index ⟨operation, stage⟩ = some after ->
      Relation.ReflTransGen (Stepped toPyErr methods) plain after := by
    intro slot stage after begins ends
    apply Relation.ReflTransGen.tail (.single ⟨.acquire index, begins⟩)
    exact ⟨.finish index, (step_finish (List.getElem?_set_self inRange)).trans ends⟩
  rcases plain with ⟨_ | stream, locked, operations, log⟩
  · cases free
    cases serves
    exact .single ⟨.acquire index, acquires⟩
  · cases kind : methods operation with
    | borrows absent ended =>
        simp only [kind] at acquires
        rw [kind] at serves
        exact inside acquires (finish_borrowed serves)
    | takes absent convert =>
        simp only [kind] at acquires
        rw [kind] at serves
        exact inside acquires (finish_taken serves)

/-! ## One signal -/

section Signals

variable {state next : Cancellable Error} {running : Running Error} {fate : Fate} {body : Source Error}

theorem inMutex_of_holds (alive : fate ≠ .dropped) (inside : running.stage.holds = true) :
    inMutex (running, fate) = true := by
  unfold inMutex
  rw [decide_eq_true alive, inside]
  rfl

theorem Intact.holder (intact : Intact methods state) (there : state.futures[index]? = some (running, fate))
    (alive : fate ≠ .dropped) (inside : running.stage.holds = true) : state.response.locked = some index :=
  (intact.locked index).mpr ⟨_, there, inMutex_of_holds alive inside⟩

/-- A step of a future changes nothing that others can see, or it does all that
its operation does. -/
theorem Change.keeps_or_serves {response : State Error} {signal : Signal} {event : Event} {stage : Stage Error}
    {slot : Option (Source Error)} {locked : Option Nat} {got : Option (Served Error)}
    (found : response.operations[index]? = some running)
    (holder : running.stage.holds = true -> response.locked = some index)
    (placed : Placed methods response.slot running) (does : signal.event? = some event)
    (change : Change toPyErr (methods running.operation) .async response index event running.stage stage slot
      locked got) (log : List (Entry Error)) {after : State Error}
    (is : after = ⟨slot, locked, response.operations.set index { running with stage := stage }, log⟩) :
    (got = none ∧ stage.seen = running.stage.seen ∧ after.view = response.view) ∨
      ∃ served, got = some served ∧ running.stage.seen = .waiting ∧
        stage = settled toPyErr (methods running.operation) .async served ∧
        serve (methods running.operation).isTake response.view = (served, after.view) := by
  have own : after.operations[index]? = some { running with stage := stage } := by
    rw [is]
    exact List.getElem?_set_self (List.getElem?_eq_some_iff.mp found).1
  have seen := fun lock => view_held found lock
  unfold Placed at placed
  generalize running.stage = before at change holder placed seen
  cases change with
  | refuse free empty =>
      right
      refine ⟨.refused, rfl, rfl, rfl, ?_⟩
      rw [view_free free, empty, view_free (by rw [is]), is, empty]
      rfl
  | borrow free stream there borrows =>
      left
      refine ⟨rfl, rfl, ?_⟩
      rw [view_free free, view_held own (by rw [is]), is]
      rfl
  | take free stream there takes =>
      left
      refine ⟨rfl, rfl, ?_⟩
      rw [view_free free, view_held own (by rw [is]), is, there]
      rfl
  | chunk stream there served left serves =>
      right
      refine ⟨served, rfl, rfl, rfl, ?_⟩
      rw [seen (holder rfl), view_free (by rw [is]), is, there, (placed.1 rfl).1]
      exact serves
  | bytes stream served serves =>
      right
      refine ⟨served, rfl, rfl, rfl, ?_⟩
      rw [seen (holder rfl), view_free (by rw [is]), is, (placed.2 stream rfl).1, (placed.2 stream rfl).2]
      exact serves
  | convert served => cases signal <;> cases does

/-- So does the drop of a future. -/
theorem Drops.keeps_or_serves {response : State Error} {pulled : Bool} {slot : Option (Source Error)}
    {locked : Option Nat} (found : response.operations[index]? = some running)
    (holder : running.stage.holds = true -> response.locked = some index)
    (placed : Placed methods response.slot running)
    (drops : Drops response pulled running.stage slot locked) {after : State Error}
    (is : after = { response with slot := slot, locked := locked }) :
    running.stage.seen = .waiting ∧ (after.view = response.view ∨
      ∃ served, serve (methods running.operation).isTake response.view = (served, after.view)) := by
  have seen := fun lock => view_held found lock
  unfold Placed at placed
  generalize running.stage = before at drops holder placed seen
  cases drops with
  | waiting =>
      rw [is]
      exact ⟨rfl, Or.inl rfl⟩
  | borrowing =>
      refine ⟨rfl, ?_⟩
      rcases placed.1 rfl with ⟨borrows, present⟩
      rcases Option.ne_none_iff_exists'.mp present with ⟨stream, there⟩
      rw [seen (holder rfl), view_free (by rw [is]), is, borrows, there]
      cases pulled with
      | false => exact Or.inl rfl
      | true =>
          cases stream with
          | nil => exact Or.inl rfl
          | cons item rest =>
              right
              cases item with
              | ok chunk => exact ⟨.read chunk, rfl⟩
              | error error => exact ⟨.failed error, rfl⟩
  | reading stream =>
      refine ⟨rfl, Or.inr ?_⟩
      rcases placed.2 stream rfl with ⟨takes, empty⟩
      rcases serve_takes stream with ⟨served, serves, _⟩
      rw [seen (holder rfl), view_free (by rw [is]), is, takes, empty]
      exact ⟨served, serves⟩

/-- One future and its operation change. -/
theorem Explains.change {after : State Error} {new : Running Error} {now : Fate} {stage : Stage Error}
    (explains : Explains state plain) (there : state.futures[index]? = some (running, fate))
    (futures : next.futures = state.futures.set index (new, now))
    (length : next.response.operations.length = state.response.operations.length)
    (free : after.locked = none) (slot : after.slot = next.response.view)
    (operations : after.operations = plain.operations.set index ⟨new.operation, stage⟩)
    (alive : now ≠ .dropped -> stage = new.stage.seen)
    (dropped : now = .dropped -> stage = .waiting ∨ ∃ result, stage = .returned result)
    (log : next.response.log = after.log.filter next.kept) : Explains next after := by
  have inRange : index < plain.operations.length := by
    rw [explains.operations]
    exact (List.getElem?_eq_some_iff.mp (futures_found.mp there).1).1
  have own : after.operations[index]? = some ⟨new.operation, stage⟩ := by
    rw [operations]
    exact List.getElem?_set_self inRange
  have others : forall {each : Nat}, each ≠ index -> after.operations[each]? = plain.operations[each]? := by
    intro each foreign
    rw [operations]
    exact List.getElem?_set_ne (Ne.symm foreign)
  constructor
  case free => exact free
  case slot => exact slot
  case operations => rw [operations, List.length_set, explains.operations, length]
  case alive =>
    intro each other mark present lives
    rw [futures] at present
    rcases changed_cases there present with ⟨rfl, same⟩ | ⟨foreign, before⟩
    · cases same
      rw [own, alive lives]
    · rw [others foreign]
      exact explains.alive each other mark before lives
  case dropped =>
    intro each other present
    rw [futures] at present
    rcases changed_cases there present with ⟨rfl, same⟩ | ⟨foreign, before⟩
    · cases same
      exact ⟨stage, own, dropped rfl⟩
    · rw [others foreign]
      exact explains.dropped each other before
  case log => exact log

theorem set_found {operations : List (Running Error)} (found : operations[index]? = some running) :
    operations.set index running = operations := by
  rcases List.getElem?_eq_some_iff.mp found with ⟨inRange, rfl⟩
  exact List.set_getElem_self inRange

/-- A future gets another fate, and is not dropped. -/
theorem Explains.mark {new : Fate} (explains : Explains state plain)
    (there : state.futures[index]? = some (running, fate)) (alive : fate ≠ .dropped) (lives : new ≠ .dropped) :
    Explains { state with fates := state.fates.set index new } plain := by
  have found := explains.alive index running fate there alive
  refine explains.change there (futures_mark there new) rfl explains.free explains.slot (set_found found).symm
    (fun _ => rfl) (fun dropped => absurd dropped lives) (explains.log.trans ?_)
  apply List.filter_congr
  intro entry _
  unfold Cancellable.kept
  dsimp only
  rcases futures_found.mp there with ⟨_, mine⟩
  by_cases same : index = entry.index
  · subst same
    rw [List.getElem?_set_self (List.getElem?_eq_some_iff.mp mine).1, mine,
      decide_eq_true (by simpa using alive), decide_eq_true (by simpa using lives)]
  · rw [List.getElem?_set_ne same]

/-- An operation that has not begun has no entry. -/
theorem Sound.no_entry (sound : Sound toPyErr methods .async body plain)
    (found : plain.operations[index]? = some ⟨operation, .waiting⟩) : ∀ entry ∈ plain.log, entry.index ≠ index := by
  have story := sound.told.story index _ found
  dsimp only at story
  generalize mine : slice Entry.by_ index plain.log = entries at story
  cases story with
  | waiting =>
      intro entry among same
      have slice : entry ∈ slice Entry.by_ index plain.log :=
        mem_slice.mpr ⟨among, congrArg some same⟩
      rw [mine] at slice
      exact absurd slice List.not_mem_nil

theorem kept_dropped {fates : List Fate} {entry : Entry Error} (foreign : entry.index ≠ index)
    {response : State Error} :
    Cancellable.kept ⟨response, fates.set index .dropped⟩ entry = Cancellable.kept ⟨response, fates⟩ entry := by
  unfold Cancellable.kept
  dsimp only
  rw [List.getElem?_set_ne (Ne.symm foreign)]

theorem Explains.start (explains : Explains state plain) (intact : Intact methods state)
    (sound : Sound toPyErr methods .async body plain) (operation : Operation) :
    Explains ⟨{ state.response with operations := state.response.operations ++ [⟨operation, .waiting⟩] },
        state.fates ++ [.pending]⟩
      { plain with operations := plain.operations ++ [⟨operation, .waiting⟩] } := by
  have lengths : plain.operations.length = state.futures.length := by
    unfold Cancellable.futures
    rw [List.length_zip, intact.fates, explains.operations, Nat.min_self]
  have before : forall {each : Nat} {future : Running Error × Fate}, state.futures[each]? = some future ->
      (plain.operations ++ [⟨operation, .waiting⟩])[each]? = plain.operations[each]? := by
    intro each future there
    apply List.getElem?_append_left
    rw [lengths]
    exact (List.getElem?_eq_some_iff.mp there).1
  constructor
  case free => exact explains.free
  case slot =>
    refine explains.slot.trans (Eq.symm (view_same rfl rfl ?_))
    intro index holder
    rcases (intact.locked index).mp holder with ⟨⟨task, fate⟩, there, _⟩
    exact List.getElem?_append_left (List.getElem?_eq_some_iff.mp (futures_found.mp there).1).1
  case operations =>
    dsimp only
    rw [List.length_append, List.length_append, explains.operations]
  case alive =>
    intro each other mark present lives
    unfold Cancellable.futures at present
    rw [futures_start intact.fates] at present
    rcases started_cases present with earlier | ⟨last, same⟩
    · rw [before earlier]
      exact explains.alive each other mark earlier lives
    · cases same
      rw [last, ← lengths]
      exact List.getElem?_concat_length
  case dropped =>
    intro each other present
    unfold Cancellable.futures at present
    rw [futures_start intact.fates] at present
    rcases started_cases present with earlier | ⟨_, same⟩
    · rw [before earlier]
      exact explains.dropped each other earlier
    · cases same
  case log =>
    refine explains.log.trans (List.filter_congr ?_)
    intro entry among
    have known := sound.told.known entry among entry.index rfl
    unfold Cancellable.kept
    dsimp only
    rw [List.getElem?_append_left (by rw [intact.fates, ← explains.operations]; exact known)]

theorem entryOf_kept {fates : List Fate} {response : State Error} {mark : Fate} {got : Option (Served Error)}
    (mine : fates[index]? = some mark) :
    (entryOf index operation got).filter (Cancellable.kept ⟨response, fates⟩) =
      if mark = .dropped then [] else entryOf index operation got := by
  cases got with
  | none => exact (ite_self _).symm
  | some served =>
      have kept : Cancellable.kept ⟨response, fates⟩ ⟨index, operation, served⟩ = decide (mark ≠ .dropped) := by
        unfold Cancellable.kept
        dsimp only
        rw [mine]
        exact decide_eq_decide.mpr (not_congr (Option.some_inj))
      change List.filter _ [_] = _
      by_cases dropped : mark = .dropped
      · rw [if_pos dropped]
        exact List.filter_cons_of_neg (by rw [kept, decide_eq_false (not_not_intro dropped)]; exact nofun)
      · rw [if_neg dropped]
        exact List.filter_cons_of_pos (kept.trans (decide_eq_true dropped))

/-- What an operation does as a whole, or what it does not do yet. -/
theorem Explains.serve {new : Running Error} {now : Fate} {served : Served Error}
    (explains : Explains state plain) (there : state.futures[index]? = some (running, fate))
    (alive : fate ≠ .dropped) (waits : running.stage.seen = .waiting)
    (serves : serve (methods running.operation).isTake state.response.view = (served, next.response.view))
    (futures : next.futures = state.futures.set index (new, now)) (same : new.operation = running.operation)
    (length : next.response.operations.length = state.response.operations.length)
    (lives : now ≠ .dropped ->
      new.stage.seen = settled toPyErr (methods running.operation) .async served)
    (log : next.response.log = (plain.log ++ entryOf index running.operation (some served)).filter next.kept) :
    ∃ after, Relation.ReflTransGen (Stepped toPyErr methods) plain after ∧ Explains next after := by
  have found := explains.alive index running fate there alive
  rw [waits] at found
  rw [← explains.slot] at serves
  refine ⟨_, serves_at_once explains.free found serves, ?_⟩
  refine explains.change there futures length rfl rfl (by rw [same]; rfl) (fun kept => (lives kept).symm) ?_ log
  exact fun _ => Or.inr ⟨_, rfl⟩

theorem Explains.move {signal : Signal} (explains : Explains state plain) (intact : Intact methods state)
    (sound : Sound toPyErr methods .async body plain) (moves : Moves toPyErr methods state signal next) :
    ∃ after, Relation.ReflTransGen (Stepped toPyErr methods) plain after ∧ Explains next after := by
  cases moves with
  | start operation =>
      exact ⟨_, .single ⟨.start operation, rfl⟩, explains.start intact sound operation⟩
  | poll index running fate signal event stage slot locked got there alive does change =>
      rcases futures_found.mp there with ⟨found, mine⟩
      have done := change.keeps_or_serves found (intact.holder there alive)
        (intact.placed _ _ _ there alive) does
        (state.response.log ++ entryOf index running.operation got) rfl
      rcases done with ⟨rfl, same, view⟩ | ⟨served, rfl, waits, rfl, serves⟩
      · refine ⟨plain, .refl, ?_⟩
        have here := explains.alive index running fate there alive
        refine explains.change there (futures_poll there _) (List.length_set ..) explains.free
          (explains.slot.trans view.symm) (set_found here).symm (fun _ => same.symm)
          (fun dropped => absurd dropped alive) ?_
        exact (List.append_nil _).trans explains.log
      · refine explains.serve there alive waits serves (futures_poll there _) rfl (List.length_set ..)
          (fun _ => rfl) ?_
        rw [List.filter_append, entryOf_kept mine, if_neg alive]
        exact congrArg (· ++ _) explains.log
  | deliver index operation result there =>
      exact ⟨plain, .refl, explains.mark there nofun nofun⟩
  | cancel index running there =>
      exact ⟨plain, .refl, explains.mark there nofun nofun⟩
  | drop index running pulled slot locked there drops =>
      rcases futures_found.mp there with ⟨found, mine⟩
      have inRange := (List.getElem?_eq_some_iff.mp mine).1
      rcases drops.keeps_or_serves found (intact.holder there nofun) (intact.placed _ _ _ there nofun) rfl with
        ⟨waits, view | ⟨served, serves⟩⟩
      · refine ⟨plain, .refl, ?_⟩
        have here := explains.alive index running _ there nofun
        rw [waits] at here
        refine explains.change there (futures_mark there _) rfl explains.free
          (explains.slot.trans view.symm) (set_found here).symm (fun kept => absurd rfl kept)
          (fun _ => Or.inl rfl) ?_
        refine explains.log.trans (List.filter_congr fun entry among => ?_)
        exact (kept_dropped (sound.no_entry here entry among)).symm
      · have here := explains.alive index running _ there nofun
        rw [waits] at here
        refine explains.serve there nofun waits serves (futures_mark there _) rfl rfl
          (fun kept => absurd rfl kept) ?_
        rw [List.filter_append, entryOf_kept (List.getElem?_set_self inRange), if_pos rfl, List.append_nil]
        refine explains.log.trans (List.filter_congr fun entry among => ?_)
        exact (kept_dropped (sound.no_entry here entry among)).symm

theorem Sound.stepped (sound : Sound toPyErr methods .async body plain) {after : State Error}
    (moved : Relation.ReflTransGen (Stepped toPyErr methods) plain after) :
    Sound toPyErr methods .async body after := by
  induction moved with
  | refl => exact sound
  | tail _ stepped ih =>
      rcases stepped with ⟨event, stepped⟩
      exact ih.step stepped

end Signals

/-! ## Every run -/

variable {Encoding : Type}

theorem explains_initial (body : Source Error) : Explains (Cancellable.initial body) (State.initial body) where
  free := rfl
  slot := rfl
  operations := rfl
  alive := by
    intro index running fate there
    cases there
  dropped := by
    intro index running there
    cases there
  log := rfl

/-- What operations return of the body is in its order, and no byte is returned twice. -/
theorem Explains.returned {codecs : Codecs Encoding} {headers : HeaderList} {state : Cancellable Error}
    {body : Source Error} (explains : Explains state plain)
    (consumed : Consumed codecs headers toPyErr .async body plain) :
    List.Sublist (state.response.log.flatMap (Entry.delivered toPyErr (Api.async.method codecs headers)))
      body.content := by
  have whole := consumed.in_order.sublist
  rw [explains.log]
  exact List.Sublist.trans (List.Sublist.flatMap List.filter_sublist _) whole

/-- Whatever is cancelled, and whenever the runtime drops it: there is a run in
which nothing is cancelled that returns the same to every operation that is not
dropped, in the same order, and leaves the same to be read. -/
theorem cancelled_operations_are_atomic (codecs : Codecs Encoding) (headers : HeaderList)
    (toPyErr : Error -> PyErr) (body : Source Error) (signals : List Signal) (state : Cancellable Error)
    (ran : (cancellable codecs headers toPyErr).run (.initial body) signals = some state) :
    (∃ events plain, (streaming codecs headers toPyErr .async).run (.initial body) events = some plain ∧
      Explains state plain) ∧
    List.Sublist (state.response.log.flatMap (Entry.delivered toPyErr (Api.async.method codecs headers)))
      body.content := by
  have simulated := (cancellable codecs headers toPyErr).run_refines
    (fun state plain => Intact (Api.async.method codecs headers) state ∧
      Sound toPyErr (Api.async.method codecs headers) .async body plain ∧ Explains state plain)
    (Stepped toPyErr (Api.async.method codecs headers)) ?_
    ⟨intact_initial body, sound_initial body, explains_initial body⟩ ran
  · rcases simulated with ⟨plain, moved, _, sound, explains⟩
    rcases (streaming codecs headers toPyErr .async).run_of_steps moved with ⟨events, ran⟩
    exact ⟨⟨events, plain, ran, explains⟩, explains.returned sound.consumed⟩
  · rintro state signal next plain ⟨intact, sound, explains⟩ stepped
    have moves := step_moves intact.fates stepped
    rcases explains.move intact sound moves with ⟨after, moved, explains⟩
    exact ⟨after, moved, moves.intact intact, sound.stepped moved, explains⟩

end Atomicity

/-- A `chunk()` is given up in the mutex and has its piece already, a `bytes()`
is given up before it has the mutex, and an iteration reads on. -/
def givenUp : List Signal :=
  [.start .chunk, .start .bytes, .start .next, .acquire 0, .cancel 0, .cancel 1, .drop 0 true, .acquire 2,
    .drop 1 false, .finish 2, .deliver 2]

theorem iteration_reads_on :
    ∃ state events plain, (cancellable exampleCodecs [] PyErr.runtimeError).run
        (.initial [.ok [72], .ok [105, 32], .ok [33]]) givenUp = some state ∧
      state.response.log.map Entry.served = [.read [105, 32]] ∧
      (streaming exampleCodecs [] PyErr.runtimeError .async).run
        (.initial [.ok [72], .ok [105, 32], .ok [33]]) events = some plain ∧ Explains state plain := by
  have ran : ((cancellable exampleCodecs [] PyErr.runtimeError).run
      (.initial [.ok [72], .ok [105, 32], .ok [33]]) givenUp).map (fun state =>
        state.response.log.map Entry.served) = some [.read [105, 32]] := by
    decide +kernel
  rcases Option.map_eq_some_iff.mp ran with ⟨state, ran, served⟩
  rcases (cancelled_operations_are_atomic exampleCodecs [] PyErr.runtimeError _ givenUp state ran).1 with
    ⟨events, plain, ranPlain, explains⟩
  exact ⟨state, events, plain, ran, served, ranPlain, explains⟩

end Response
end Lkrequest
