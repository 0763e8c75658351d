import Lkrequest.Foundations.PullStream
import Lkrequest.Python

namespace Lkrequest
namespace Upload

open Foundations

/-!
# Streaming request bodies

`BlockingSource` pulls a file or an iterator on a blocking worker,
`AsyncSource` awaits `__anext__()` on the caller's loop.  Each is polled
whenever the transport has room.  What the Python source does in a pull is
arbitrary, and so is the time at which a pull finishes; a pull may even have
finished when the poll that started it looks at it.

Both are pull streams: what a pull produced is decoded into a chunk, the end or
an error, and then they do what `PullStream` does.
-/

abbrev Bytes := List UInt8

/-- `io::Error::other`. -/
structure IoError where
  message : String
deriving DecidableEq

/-- What a source produces, as far as `extract_chunk` distinguishes it; a
`sequence` is anything else that `Vec<u8>` can be extracted from. -/
inductive PyChunk
  | none
  | bytes (value : Bytes)
  | str
  | sequence (value : Bytes)
  | other (typeName : String)

/-- What calling `read`, `__next__`, or awaiting `__anext__()` comes to. -/
abbrev Call := Except PyErr PyChunk

/-! ## Chunks -/

def notBytesLike (typeName : String) : PyErr :=
  .typeError ("body_stream must produce bytes-like chunks, got " ++ typeName)

def extractChunk : PyChunk -> Except PyErr Bytes
  | .bytes value => .ok value
  | .str => .error (.typeError
      "body_stream produced str, expected bytes — open the file in binary mode ('rb')")
  | .sequence value => .ok value
  | .none => .error (notBytesLike "NoneType")
  | .other typeName => .error (notBytesLike typeName)

/-- `pull_reader`: an empty result is the end of the file. -/
def pullReader (call : Call) : Except PyErr (Option Bytes) := do
  let chunk <- call
  match chunk with
  | .none => return none
  | chunk =>
      let bytes <- extractChunk chunk
      return if bytes.isEmpty then none else some bytes

/-- `pull_sync_iter`: only `StopIteration` is the end. -/
def pullSyncIter : Call -> Except PyErr (Option Bytes)
  | .ok item => (extractChunk item).map some
  | .error error => if error.kind = .stopIteration then .ok none else .error error

inductive BlockingKind
  | reader
  | syncIter
deriving DecidableEq

variable (display : PyErr -> String)

def producerError (error : PyErr) : IoError := ⟨"body_stream source failed: " ++ display error⟩

/-- `end_or_error`. -/
def endOrError (error : PyErr) : Option (Except IoError Bytes) :=
  if error.kind = .stopAsyncIteration then none else some (.error (producerError display error))

/-! ## Synchronous sources -/

/-- How a blocking task ended: with what the call came to, or it panicked or
was cancelled and `join` says so. -/
inductive Outcome
  | returned (call : Call)
  | failed (join : String)

/-- What the `JoinHandle` resolves to. -/
def joined (kind : BlockingKind) : Outcome -> Except String (Except PyErr (Option Bytes))
  | .returned call =>
      .ok (match kind with
        | .reader => pullReader call
        | .syncIter => pullSyncIter call)
  | .failed join => .error join

structure BlockingSource where
  kind : BlockingKind
  pending : Option Nat
  done : Bool

/-- A source with the blocking tasks it has spawned. -/
structure BlockingUpload where
  source : BlockingSource
  tasks : List (Option Outcome)
  trace : List (StreamEntry Bytes IoError)

namespace BlockingUpload

/-- `BlockingSource::new`. -/
def new (kind : BlockingKind) : BlockingUpload := ⟨⟨kind, none, false⟩, [], []⟩

def returns (upload : BlockingUpload) (result : Poll (Except IoError Bytes)) : BlockingUpload :=
  { upload with trace := upload.trace ++ [.polled result] }

def withDone (upload : BlockingUpload) (done : Bool) : BlockingUpload :=
  { upload with source := { upload.source with done := done } }

def withPending (upload : BlockingUpload) (pending : Option Nat) : BlockingUpload :=
  { upload with source := { upload.source with pending := pending } }

/-- `poll_next` once the handle is ready. -/
def onReady (upload : BlockingUpload) (outcome : Outcome) : BlockingUpload :=
  let upload := upload.withDone true
  match joined upload.source.kind outcome with
  | .ok (.ok (some chunk)) => (upload.withDone false).returns (.ready (some (.ok chunk)))
  | .ok (.ok none) => upload.returns (.ready none)
  | .ok (.error error) => upload.returns (.ready (some (.error (producerError display error))))
  | .error join =>
      upload.returns (.ready (some (.error ⟨"body_stream source task failed: " ++ join⟩)))

/-- `poll_next` from the poll of the handle on. -/
def pollHandle (upload : BlockingUpload) (pending : Nat) : BlockingUpload :=
  match (upload.tasks[pending]?).join with
  | none => (upload.withPending (some pending)).returns .pending
  | some outcome => upload.onReady display outcome

/-- `poll_next`; a task it spawns may have ended at once. -/
def pollNext (upload : BlockingUpload) (atOnce : Option Outcome) : BlockingUpload :=
  if upload.source.done then upload.returns (.ready none)
  else
    match upload.source.pending with
    | some pending => (upload.withPending none).pollHandle display pending
    | none =>
        pollHandle display { upload with
          tasks := upload.tasks ++ [atOnce]
          trace := upload.trace ++ [.pull] } upload.tasks.length

end BlockingUpload

/-- A poll, or a task ends. -/
inductive BlockingEvent
  | poll (atOnce : Option Outcome)
  | finish (task : Nat) (outcome : Outcome)

namespace BlockingUpload

def step (upload : BlockingUpload) : BlockingEvent -> Option BlockingUpload
  | .poll atOnce => some (upload.pollNext display atOnce)
  | .finish task outcome =>
      match upload.tasks[task]? with
      | some none => some { upload with tasks := upload.tasks.set task (some outcome) }
      | _ => none

def machine : Machine BlockingUpload BlockingEvent := ⟨step display⟩

end BlockingUpload

/-! ## Asynchronous sources -/

structure AsyncSource where
  pending : Option Nat
  done : Bool

/-- A source with what the awaitables it was given came to. -/
structure AsyncUpload where
  source : AsyncSource
  futures : List (Option Call)
  trace : List (StreamEntry Bytes IoError)

namespace AsyncUpload

/-- `AsyncSource::new`. -/
def new : AsyncUpload := ⟨⟨none, false⟩, [], []⟩

def returns (upload : AsyncUpload) (result : Poll (Except IoError Bytes)) : AsyncUpload :=
  { upload with trace := upload.trace ++ [.polled result] }

def withDone (upload : AsyncUpload) : AsyncUpload :=
  { upload with source := { upload.source with done := true } }

def withPending (upload : AsyncUpload) (pending : Option Nat) : AsyncUpload :=
  { upload with source := { upload.source with pending := pending } }

/-- A call of `__anext__()`, with what it has come to. -/
def started (upload : AsyncUpload) (call : Option Call) : AsyncUpload :=
  { upload with
    futures := upload.futures ++ [call]
    trace := upload.trace ++ [.pull] }

/-- `poll_next` once the future is ready. -/
def onReady (upload : AsyncUpload) : Call -> AsyncUpload
  | .error error => upload.withDone.returns (.ready (endOrError display error))
  | .ok item =>
      match extractChunk item with
      | .ok chunk => upload.returns (.ready (some (.ok chunk)))
      | .error error =>
          upload.withDone.returns (.ready (some (.error (producerError display error))))

/-- `poll_next` from the poll of the future on. -/
def pollFuture (upload : AsyncUpload) (pending : Nat) : AsyncUpload :=
  match (upload.futures[pending]?).join with
  | none => (upload.withPending (some pending)).returns .pending
  | some call => upload.onReady display call

/-- `poll_next`.  The call of `__anext__()` may raise, and what it returns may
be done at once. -/
def pollNext (upload : AsyncUpload) (anext : Except PyErr (Option Call)) : AsyncUpload :=
  if upload.source.done then upload.returns (.ready none)
  else
    match upload.source.pending with
    | some pending => (upload.withPending none).pollFuture display pending
    | none =>
        match anext with
        | .ok atOnce => (upload.started atOnce).pollFuture display upload.futures.length
        | .error error =>
            (upload.started (some (.error error))).withDone.returns
              (.ready (endOrError display error))

end AsyncUpload

/-- A poll, or an awaitable is done. -/
inductive AsyncEvent
  | poll (anext : Except PyErr (Option Call))
  | finish (future : Nat) (call : Call)

namespace AsyncUpload

def step (upload : AsyncUpload) : AsyncEvent -> Option AsyncUpload
  | .poll anext => some (upload.pollNext display anext)
  | .finish future call =>
      match upload.futures[future]? with
      | some none => some { upload with futures := upload.futures.set future (some call) }
      | _ => none

def machine : Machine AsyncUpload AsyncEvent := ⟨step display⟩

end AsyncUpload

/-! ## Both are pull streams -/

/-- What the result of a blocking pull means for the stream. -/
def blockingDelivery (kind : BlockingKind) (outcome : Outcome) : Delivery Bytes IoError :=
  match joined kind outcome with
  | .ok (.ok (some chunk)) => .chunk chunk
  | .ok (.ok none) => .ended
  | .ok (.error error) => .failed (producerError display error)
  | .error join => .failed ⟨"body_stream source task failed: " ++ join⟩

/-- What an awaited call means for the stream. -/
def asyncDelivery : Call -> Delivery Bytes IoError
  | .error error =>
      if error.kind = .stopAsyncIteration then .ended else .failed (producerError display error)
  | .ok item =>
      match extractChunk item with
      | .ok chunk => .chunk chunk
      | .error error => .failed (producerError display error)

namespace BlockingUpload

/-- The tasks, as the stream reads them. -/
def deliveries (upload : BlockingUpload) : List (Option (Delivery Bytes IoError)) :=
  upload.tasks.map (Option.map (blockingDelivery display upload.source.kind))

def view (upload : BlockingUpload) : PullStream Bytes IoError :=
  ⟨upload.source.pending, upload.source.done, upload.deliveries display, upload.trace⟩

theorem deliveries_get (upload : BlockingUpload) (handle : Nat) :
    ((upload.deliveries display)[handle]?).join =
      (upload.tasks[handle]?).join.map (blockingDelivery display upload.source.kind) := by
  unfold deliveries
  rw [List.getElem?_map]
  cases upload.tasks[handle]? with
  | none => rfl
  | some task => cases task <;> rfl

theorem view_onReady {upload : BlockingUpload} (free : upload.source.pending = none)
    (isOpen : upload.source.done = false) (outcome : Outcome) :
    (upload.onReady display outcome).view display =
      (upload.view display).settle (blockingDelivery display upload.source.kind outcome) := by
  unfold onReady blockingDelivery
  change view display (match joined upload.source.kind outcome with
    | .ok (.ok (some chunk)) => _
    | .ok (.ok none) => _
    | .ok (.error error) => _
    | .error join => _) = _
  cases joined upload.source.kind outcome with
  | error join => simp only [PullStream.settle, view, deliveries, withDone, returns, free]
  | ok result =>
      cases result with
      | error error => simp only [PullStream.settle, view, deliveries, withDone, returns, free]
      | ok chunk =>
          cases chunk with
          | none => simp only [PullStream.settle, view, deliveries, withDone, returns, free]
          | some chunk =>
              simp only [PullStream.settle, view, deliveries, withDone, returns, free, isOpen]

/-- A poll of a handle that was taken out does what a look at the pull does. -/
theorem view_pollHandle {upload : BlockingUpload} (free : upload.source.pending = none)
    (isOpen : upload.source.done = false) (handle : Nat) :
    (upload.pollHandle display handle).view display = (upload.view display).look handle := by
  have found := deliveries_get display upload handle
  cases result : (upload.tasks[handle]?).join with
  | none =>
      rw [result] at found
      rw [PullStream.look_unfinished found, pollHandle, result]
      rfl
  | some outcome =>
      rw [result] at found
      rw [PullStream.look_finished found, pollHandle, result]
      exact view_onReady display free isOpen outcome

theorem view_pollNext (upload : BlockingUpload) (atOnce : Option Outcome) :
    (upload.pollNext display atOnce).view display =
      (upload.view display).poll (atOnce.map (blockingDelivery display upload.source.kind)) := by
  unfold pollNext PullStream.poll
  cases isOpen : upload.source.done with
  | true =>
      rw [if_pos rfl, if_pos (show (upload.view display).done = true from isOpen)]
      rfl
  | false =>
      rw [if_neg Bool.false_ne_true,
        if_neg (show ¬ (upload.view display).done = true by rw [view, isOpen]; exact Bool.false_ne_true)]
      cases held : upload.source.pending with
      | none =>
          have spawned := @view_pollHandle display
            { upload with tasks := upload.tasks ++ [atOnce], trace := upload.trace ++ [.pull] }
            held isOpen upload.tasks.length
          have many : (upload.view display).pulls.length = upload.tasks.length := List.length_map ..
          have free : (upload.view display).pending = none := held
          rw [free]
          change _ = PullStream.look _ (upload.view display).pulls.length
          rw [many]
          refine spawned.trans ?_
          simp only [view, deliveries, List.map_append, List.map_cons, List.map_nil, held]
      | some pending =>
          have awaited : (upload.view display).pending = some pending := held
          rw [awaited]
          change view display (pollHandle display (upload.withPending none) pending) =
            (upload.view display).look pending
          rw [view_pollHandle display (Eq.refl _) (by exact isOpen) pending]
          exact PullStream.look_taken (upload.view display) none pending

theorem kind_onReady (upload : BlockingUpload) (outcome : Outcome) :
    (upload.onReady display outcome).source.kind = upload.source.kind := by
  unfold onReady
  dsimp only
  split <;> rfl

theorem kind_pollHandle (upload : BlockingUpload) (handle : Nat) :
    (upload.pollHandle display handle).source.kind = upload.source.kind := by
  unfold pollHandle
  split
  · rfl
  · exact kind_onReady display upload _

theorem kind_pollNext (upload : BlockingUpload) (atOnce : Option Outcome) :
    (upload.pollNext display atOnce).source.kind = upload.source.kind := by
  unfold pollNext
  split
  · rfl
  · split
    · exact kind_pollHandle display _ _
    · exact kind_pollHandle display _ _

/-- A task that ends is a pull that finishes. -/
theorem view_finish {upload next : BlockingUpload} {task : Nat} {outcome : Outcome}
    (finished : (machine display).step upload (.finish task outcome) = some next) :
    next.source = upload.source ∧
      (upload.view display).finish task (blockingDelivery display upload.source.kind outcome) =
        some (next.view display) := by
  change (match upload.tasks[task]? with
    | some none => some { upload with tasks := upload.tasks.set task (some outcome) }
    | _ => none) = some next at finished
  split at finished
  · rename_i unfinished
    cases finished
    refine ⟨rfl, ?_⟩
    have found : (upload.deliveries display)[task]? = some none := by
      unfold deliveries
      rw [List.getElem?_map, unfinished]
      rfl
    rw [PullStream.finish_unfinished found]
    simp only [view, deliveries, List.map_set, Option.map_some]
  · exact (nomatch finished)

/-- A step keeps the kind and is one of the pull stream. -/
theorem view_step {upload next : BlockingUpload} {event : BlockingEvent}
    (stepped : (machine display).step upload event = some next) :
    next.source.kind = upload.source.kind ∧
      ∃ pulled, PullStream.machine.step (upload.view display) pulled = some (next.view display) := by
  cases event with
  | poll atOnce =>
      rw [← Option.some.inj stepped]
      exact ⟨kind_pollNext display upload atOnce, .poll _,
        congrArg some (view_pollNext display upload atOnce).symm⟩
  | finish task outcome =>
      rcases view_finish display stepped with ⟨kept, finished⟩
      exact ⟨congrArg BlockingSource.kind kept, .finish task _, finished⟩

theorem kind_run {kind : BlockingKind} {events : List BlockingEvent} {upload : BlockingUpload}
    (ran : (machine display).run (new kind) events = some upload) : upload.source.kind = kind :=
  (machine display).run_invariant (fun upload => upload.source.kind = kind)
    (fun _ _ _ same stepped => (view_step display stepped).1.trans same) rfl ran

end BlockingUpload

namespace AsyncUpload

/-- The awaited calls, as the stream reads them. -/
def deliveries (upload : AsyncUpload) : List (Option (Delivery Bytes IoError)) :=
  upload.futures.map (Option.map (asyncDelivery display))

def view (upload : AsyncUpload) : PullStream Bytes IoError :=
  ⟨upload.source.pending, upload.source.done, upload.deliveries display, upload.trace⟩

theorem deliveries_get (upload : AsyncUpload) (future : Nat) :
    ((upload.deliveries display)[future]?).join =
      (upload.futures[future]?).join.map (asyncDelivery display) := by
  unfold deliveries
  rw [List.getElem?_map]
  cases upload.futures[future]? with
  | none => rfl
  | some call => cases call <;> rfl

/-- An exception ends the stream, with an item unless it is `StopAsyncIteration`. -/
theorem view_raised {upload : AsyncUpload} (free : upload.source.pending = none) (error : PyErr) :
    (upload.withDone.returns (.ready (endOrError display error))).view display =
      (upload.view display).settle (asyncDelivery display (.error error)) := by
  unfold endOrError asyncDelivery
  by_cases stop : error.kind = .stopAsyncIteration
  · simp only [if_pos stop, PullStream.settle, view, deliveries, withDone, returns, free]
  · simp only [if_neg stop, PullStream.settle, view, deliveries, withDone, returns, free]

theorem view_onReady {upload : AsyncUpload} (free : upload.source.pending = none) (call : Call) :
    (upload.onReady display call).view display =
      (upload.view display).settle (asyncDelivery display call) := by
  cases call with
  | error error => exact view_raised display free error
  | ok item =>
      unfold onReady asyncDelivery
      dsimp only
      cases extractChunk item with
      | ok chunk => simp only [PullStream.settle, view, deliveries, returns, free]
      | error error => simp only [PullStream.settle, view, deliveries, withDone, returns, free]

/-- A poll of a future that was taken out does what a look at the pull does. -/
theorem view_pollFuture {upload : AsyncUpload} (free : upload.source.pending = none)
    (future : Nat) :
    (upload.pollFuture display future).view display = (upload.view display).look future := by
  have found := deliveries_get display upload future
  cases result : (upload.futures[future]?).join with
  | none =>
      rw [result] at found
      rw [PullStream.look_unfinished found, pollFuture, result]
      rfl
  | some call =>
      rw [result] at found
      rw [PullStream.look_finished found, pollFuture, result]
      exact view_onReady display free call

/-- What is known of a pull when the poll that starts it looks at it. -/
def atOnce : Except PyErr (Option Call) -> Option Call
  | .ok call => call
  | .error error => some (.error error)

theorem view_started (upload : AsyncUpload) (call : Option Call) :
    (upload.started call).view display =
      { upload.view display with
        pulls := (upload.view display).pulls ++ [call.map (asyncDelivery display)]
        trace := (upload.view display).trace ++ [.pull] } := by
  simp only [started, view, deliveries, List.map_append, List.map_cons, List.map_nil]

theorem view_pollNext (upload : AsyncUpload) (anext : Except PyErr (Option Call)) :
    (upload.pollNext display anext).view display =
      (upload.view display).poll ((atOnce anext).map (asyncDelivery display)) := by
  unfold pollNext PullStream.poll
  cases isOpen : upload.source.done with
  | true =>
      rw [if_pos rfl, if_pos (show (upload.view display).done = true from isOpen)]
      rfl
  | false =>
      rw [if_neg Bool.false_ne_true,
        if_neg (show ¬ (upload.view display).done = true by rw [view, isOpen]; exact Bool.false_ne_true)]
      cases held : upload.source.pending with
      | some pending =>
          have awaited : (upload.view display).pending = some pending := held
          rw [awaited]
          change view display (pollFuture display (upload.withPending none) pending) =
            (upload.view display).look pending
          rw [view_pollFuture display (Eq.refl _) pending]
          exact PullStream.look_taken (upload.view display) none pending
      | none =>
          have many : (upload.view display).pulls.length = upload.futures.length :=
            List.length_map ..
          have free : (upload.view display).pending = none := held
          rw [free]
          change _ = PullStream.look _ (upload.view display).pulls.length
          rw [many]
          cases anext with
          | ok call =>
              have looked := @view_pollFuture display (upload.started call) held upload.futures.length
              rw [view_started] at looked
              exact looked
          | error error =>
              have raised := @view_raised display (upload.started (some (.error error))) held error
              refine raised.trans ?_
              rw [view_started]
              refine (PullStream.look_finished ?_).symm
              rw [← many]
              simp

/-- A step is one of the pull stream. -/
theorem view_step {upload next : AsyncUpload} {event : AsyncEvent}
    (stepped : (machine display).step upload event = some next) :
    ∃ pulled, PullStream.machine.step (upload.view display) pulled = some (next.view display) := by
  cases event with
  | poll anext =>
      rw [← Option.some.inj stepped]
      exact ⟨.poll _, congrArg some (view_pollNext display upload anext).symm⟩
  | finish future call =>
      change (match upload.futures[future]? with
        | some none => some { upload with futures := upload.futures.set future (some call) }
        | _ => none) = some next at stepped
      split at stepped
      · rename_i unfinished
        cases stepped
        have found : (upload.deliveries display)[future]? = some none := by
          unfold deliveries
          rw [List.getElem?_map, unfinished]
          rfl
        refine ⟨.finish future (asyncDelivery display call), ?_⟩
        refine (PullStream.finish_unfinished found _).trans ?_
        simp only [view, deliveries, List.map_set, Option.map_some]
      · exact (nomatch stepped)

end AsyncUpload

/-! ## Exactly once -/

/-- Where a source ends, and which chunks it passes on: a reader ends at `None`
and at an empty chunk, an iterator at its stop exception only. -/
structure Reads : Prop where
  reader : forall outcome, blockingDelivery display .reader outcome = .ended <->
    outcome = .returned (.ok .none) ∨
      ∃ chunk, outcome = .returned (.ok chunk) ∧ extractChunk chunk = .ok []
  syncIter : forall outcome, blockingDelivery display .syncIter outcome = .ended <->
    ∃ error : PyErr, outcome = .returned (.error error) ∧ error.kind = .stopIteration
  asyncIter : forall call, asyncDelivery display call = .ended <->
    ∃ error : PyErr, call = .error error ∧ error.kind = .stopAsyncIteration
  readerChunk : forall outcome bytes, blockingDelivery display .reader outcome = .chunk bytes <->
    bytes ≠ [] ∧ ∃ chunk, outcome = .returned (.ok chunk) ∧ extractChunk chunk = .ok bytes
  syncChunk : forall outcome bytes, blockingDelivery display .syncIter outcome = .chunk bytes <->
    ∃ chunk, outcome = .returned (.ok chunk) ∧ extractChunk chunk = .ok bytes
  asyncChunk : forall call bytes, asyncDelivery display call = .chunk bytes <->
    ∃ chunk, call = .ok chunk ∧ extractChunk chunk = .ok bytes

theorem reader_none : blockingDelivery display .reader (.returned (.ok .none)) = .ended := rfl

theorem reader_raised (error : PyErr) :
    blockingDelivery display .reader (.returned (.error error)) =
      .failed (producerError display error) := rfl

/-- What a reader returned, once `None` is set apart. -/
theorem reader_returned {chunk : PyChunk} (present : chunk ≠ .none) :
    blockingDelivery display .reader (.returned (.ok chunk)) =
      match extractChunk chunk with
      | .ok bytes => if bytes.isEmpty then .ended else .chunk bytes
      | .error error => .failed (producerError display error) := by
  cases chunk with
  | none => exact absurd rfl present
  | bytes value => cases value <;> rfl
  | str => rfl
  | sequence value => cases value <;> rfl
  | other typeName => rfl

theorem syncIter_returned (chunk : PyChunk) :
    blockingDelivery display .syncIter (.returned (.ok chunk)) =
      match extractChunk chunk with
      | .ok bytes => .chunk bytes
      | .error error => .failed (producerError display error) := by
  cases chunk <;> rfl

theorem syncIter_raised (error : PyErr) :
    blockingDelivery display .syncIter (.returned (.error error)) =
      if error.kind = .stopIteration then .ended else .failed (producerError display error) := by
  unfold blockingDelivery joined pullSyncIter
  by_cases stop : error.kind = .stopIteration
  · simp only [if_pos stop]
  · simp only [if_neg stop]

theorem reads : Reads display where
  reader := by
    intro outcome
    cases outcome with
    | failed join => simp [blockingDelivery, joined]
    | returned call =>
        cases call with
        | error error => simp [reader_raised]
        | ok chunk =>
            by_cases absent : chunk = .none
            · subst chunk
              simp [reader_none]
            · rw [reader_returned display absent]
              cases extracted : extractChunk chunk with
              | error error => simp [absent, extracted]
              | ok bytes => cases bytes <;> simp [absent, extracted]
  syncIter := by
    intro outcome
    cases outcome with
    | failed join => simp [blockingDelivery, joined]
    | returned call =>
        cases call with
        | error error =>
            rw [syncIter_raised]
            by_cases stop : error.kind = .stopIteration <;> simp [stop]
        | ok chunk =>
            rw [syncIter_returned]
            cases extractChunk chunk <;> simp
  asyncIter := by
    intro call
    cases call with
    | error error =>
        by_cases stop : error.kind = .stopAsyncIteration <;> simp [asyncDelivery, stop]
    | ok chunk => cases extracted : extractChunk chunk <;> simp [asyncDelivery, extracted]
  readerChunk := by
    intro outcome bytes
    cases outcome with
    | failed join => simp [blockingDelivery, joined]
    | returned call =>
        cases call with
        | error error => simp [reader_raised]
        | ok chunk =>
            by_cases absent : chunk = .none
            · subst chunk
              simp [reader_none, extractChunk]
            · rw [reader_returned display absent]
              cases extracted : extractChunk chunk with
              | error error => simp [extracted]
              | ok found =>
                  cases found with
                  | nil => simp [extracted, eq_comm]
                  | cons byte rest =>
                      constructor
                      · intro same
                        cases same
                        exact ⟨List.cons_ne_nil _ _, chunk, rfl, extracted⟩
                      · rintro ⟨-, other, same, found⟩
                        cases same
                        rw [extracted] at found
                        cases found
                        rfl
  syncChunk := by
    intro outcome bytes
    cases outcome with
    | failed join => simp [blockingDelivery, joined]
    | returned call =>
        cases call with
        | error error =>
            rw [syncIter_raised]
            by_cases stop : error.kind = .stopIteration <;> simp [stop]
        | ok chunk =>
            rw [syncIter_returned]
            cases extracted : extractChunk chunk <;> simp [extracted]
  asyncChunk := by
    intro call bytes
    cases call with
    | error error =>
        by_cases stop : error.kind = .stopAsyncIteration <;> simp [asyncDelivery, stop]
    | ok chunk => cases extracted : extractChunk chunk <;> simp [asyncDelivery, extracted]

/-- An iterator that yields a chunk and an empty chunk and stops, polled too early and too often. -/
def twoChunks : List BlockingEvent :=
  [.poll none, .poll none, .finish 0 (.returned (.ok (.bytes [1]))), .poll none,
    .poll (some (.returned (.ok (.bytes [])))), .poll none,
    .finish 2 (.returned (.error ⟨.stopIteration, ""⟩)), .poll none, .poll none]

end Upload
end Lkrequest
