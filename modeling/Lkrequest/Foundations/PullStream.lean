import Lkrequest.Foundations.Precedence
import Lkrequest.Foundations.Runs

namespace Foundations

/-!
# A stream that pulls its source

A stream is polled at arbitrary times.  A poll that finds no pull in flight
starts one; a poll that finds the result of its pull hands it on, and a poll
that does not waits.  The end of the source and a failure end the stream.

Everything a client can rely on is kept in one log: the pulls, and what each
poll returned.
-/

/-- What a pull produced. -/
inductive Delivery (Chunk Error : Type)
  | chunk (chunk : Chunk)
  | ended
  | failed (error : Error)

/-- `Poll<Option<Item>>`. -/
inductive Poll (Item : Type)
  | pending
  | ready (item : Option Item)
deriving DecidableEq

/-- A pull was started, or a poll returned. -/
inductive StreamEntry (Chunk Error : Type)
  | pull
  | polled (result : Poll (Except Error Chunk))

variable {Chunk Error : Type}

namespace StreamEntry

def isPull : StreamEntry Chunk Error -> Bool
  | .pull => true
  | .polled _ => false

/-- The item a poll handed on. -/
def item : StreamEntry Chunk Error -> Option (Except Error Chunk)
  | .polled (.ready (some item)) => some item
  | _ => none

/-- The end of the stream, or an error. -/
def Ends : StreamEntry Chunk Error -> Prop
  | .polled (.ready none) => True
  | .polled (.ready (some (.error _))) => True
  | _ => False

end StreamEntry

/-- The items handed on so far. -/
def itemsOf (trace : List (StreamEntry Chunk Error)) : List (Except Error Chunk) :=
  trace.filterMap StreamEntry.item

def pullsIn (trace : List (StreamEntry Chunk Error)) : Nat := trace.countP StreamEntry.isPull

/-- The chunks among the items. -/
def chunksOf (trace : List (StreamEntry Chunk Error)) : List Chunk :=
  (itemsOf trace).filterMap Except.toOption

/-- The chunk a finished pull produced. -/
def produced : Option (Delivery Chunk Error) -> Option Chunk
  | some (.chunk chunk) => some chunk
  | _ => none

section Trace

variable (trace : List (StreamEntry Chunk Error))

theorem itemsOf_pull : itemsOf (trace ++ [.pull]) = itemsOf trace := by
  simp [itemsOf, StreamEntry.item]

theorem itemsOf_polled (result : Poll (Except Error Chunk)) :
    itemsOf (trace ++ [.polled result]) =
      itemsOf trace ++ (StreamEntry.polled result).item.toList := by
  unfold itemsOf
  rw [List.filterMap_append]
  cases item : (StreamEntry.polled result).item <;> simp [item]

theorem pullsIn_pull : pullsIn (trace ++ [.pull]) = pullsIn trace + 1 := by
  simp [pullsIn, StreamEntry.isPull]

theorem pullsIn_polled (result : Poll (Except Error Chunk)) :
    pullsIn (trace ++ [.polled result]) = pullsIn trace := by
  simp [pullsIn, StreamEntry.isPull]

/-- After the end or an error nothing is pulled and every poll returns the end. -/
def Quiet : Prop :=
  Each (fun before entry => (∃ last ∈ before, last.Ends) -> entry = .polled (.ready none)) trace

/-- A pull starts when the results of all pulls before it have been handed on. -/
def AfterItem : Prop :=
  Each (fun before entry => entry = .pull -> pullsIn before = (itemsOf before).length) trace

variable {trace}

theorem Quiet.snoc_live (quiet : Quiet trace) (live : ∀ entry ∈ trace, ¬ entry.Ends)
    (next : StreamEntry Chunk Error) : Quiet (trace ++ [next]) := by
  apply Each.snoc quiet
  rintro ⟨last, among, ends⟩
  exact absurd ends (live last among)

theorem AfterItem.snoc_polled (afterItem : AfterItem trace) (result : Poll (Except Error Chunk)) :
    AfterItem (trace ++ [.polled result]) := by
  apply Each.snoc afterItem
  intro isPull
  exact (nomatch isPull)

theorem live_snoc (live : ∀ entry ∈ trace, ¬ entry.Ends) {next : StreamEntry Chunk Error}
    (goesOn : ¬ next.Ends) : ∀ entry ∈ trace ++ [next], ¬ entry.Ends := by
  intro entry among
  rcases List.mem_append.mp among with early | late
  · exact live entry early
  · rw [List.mem_singleton.mp late]
    exact goesOn

end Trace

/-- What is delivered of the pulls of a stream, in every moment of its life. -/
structure Delivered (pulls : List (Option (Delivery Chunk Error)))
    (trace : List (StreamEntry Chunk Error)) : Prop where
  /-- Except for one pull whose result no poll has seen, the chunks handed on
  are those of the pulls, in order. -/
  exact : ∃ seen unseen, pulls = seen ++ unseen ∧ unseen.length ≤ 1 ∧
    (unseen ≠ [] -> ∀ entry ∈ trace, ¬ entry.Ends) ∧
    (∀ pull ∈ seen, pull.isSome) ∧ chunksOf trace = seen.filterMap produced
  /-- There is at most one error item, and it is the last item. -/
  oneError : ∃ (chunks : List Chunk) (conclusion : List (Except Error Chunk)),
    itemsOf trace = chunks.map .ok ++ conclusion ∧
    (conclusion = [] ∨ ∃ error, conclusion = [.error error])
  quiet : Quiet trace
  /-- Unfinished pulls. -/
  oneInFlight : (pulls.filter Option.isNone).length ≤ 1
  afterItem : AfterItem trace
  counted : pullsIn trace = pulls.length
  notAhead : pulls.length ≤ (itemsOf trace).length + 1

/-! ## The stream -/

structure PullStream (Chunk Error : Type) where
  /-- The pull whose result is awaited. -/
  pending : Option Nat
  done : Bool
  pulls : List (Option (Delivery Chunk Error))
  trace : List (StreamEntry Chunk Error)

/-- A poll, with what a pull it starts has produced by the time it is looked at,
or a pull finishes. -/
inductive PullEvent (Chunk Error : Type)
  | poll (atOnce : Option (Delivery Chunk Error))
  | finish (pull : Nat) (delivery : Delivery Chunk Error)

namespace PullStream

def initial : PullStream Chunk Error := ⟨none, false, [], []⟩

/-- A poll hands on what its pull produced. -/
def settle (stream : PullStream Chunk Error) : Delivery Chunk Error -> PullStream Chunk Error
  | .chunk chunk => { stream with
      pending := none
      trace := stream.trace ++ [.polled (.ready (some (.ok chunk)))] }
  | .ended => { stream with
      pending := none
      done := true
      trace := stream.trace ++ [.polled (.ready none)] }
  | .failed error => { stream with
      pending := none
      done := true
      trace := stream.trace ++ [.polled (.ready (some (.error error)))] }

/-- A poll looks at the result of a pull. -/
def look (stream : PullStream Chunk Error) (handle : Nat) : PullStream Chunk Error :=
  match (stream.pulls[handle]?).join with
  | none => { stream with
      pending := some handle
      trace := stream.trace ++ [.polled .pending] }
  | some delivery => stream.settle delivery

theorem look_unfinished {stream : PullStream Chunk Error} {handle : Nat}
    (unfinished : (stream.pulls[handle]?).join = none) :
    stream.look handle = { stream with
      pending := some handle
      trace := stream.trace ++ [.polled .pending] } := by
  unfold look
  rw [unfinished]

theorem look_finished {stream : PullStream Chunk Error} {handle : Nat}
    {delivery : Delivery Chunk Error} (finished : (stream.pulls[handle]?).join = some delivery) :
    stream.look handle = stream.settle delivery := by
  unfold look
  rw [finished]

/-- The handle may be taken out of its slot before it is looked at. -/
theorem look_taken (stream : PullStream Chunk Error) (pending : Option Nat) (handle : Nat) :
    look { stream with pending := pending } handle = stream.look handle := by
  cases found : (stream.pulls[handle]?).join with
  | none =>
      have taken : (({ stream with pending := pending } : PullStream Chunk Error).pulls[handle]?).join =
        none := found
      rw [look_unfinished found, look_unfinished taken]
  | some delivery =>
      have taken : (({ stream with pending := pending } : PullStream Chunk Error).pulls[handle]?).join =
        some delivery := found
      rw [look_finished found, look_finished taken]
      cases delivery <;> rfl

def poll (stream : PullStream Chunk Error) (atOnce : Option (Delivery Chunk Error)) :
    PullStream Chunk Error :=
  if stream.done then { stream with trace := stream.trace ++ [.polled (.ready none)] }
  else
    match stream.pending with
    | some handle => stream.look handle
    | none =>
        look { stream with
          pulls := stream.pulls ++ [atOnce]
          trace := stream.trace ++ [.pull] } stream.pulls.length

/-- An unfinished pull finishes. -/
def finish (stream : PullStream Chunk Error) (pull : Nat) (delivery : Delivery Chunk Error) :
    Option (PullStream Chunk Error) :=
  match stream.pulls[pull]? with
  | some none => some { stream with pulls := stream.pulls.set pull (some delivery) }
  | _ => none

theorem finish_unfinished {stream : PullStream Chunk Error} {pull : Nat}
    (unfinished : stream.pulls[pull]? = some none) (delivery : Delivery Chunk Error) :
    stream.finish pull delivery = some { stream with pulls := stream.pulls.set pull (some delivery) } := by
  unfold finish
  rw [unfinished]

def step (stream : PullStream Chunk Error) : PullEvent Chunk Error -> Option (PullStream Chunk Error)
  | .poll atOnce => some (stream.poll atOnce)
  | .finish pull delivery => stream.finish pull delivery

def machine : Machine (PullStream Chunk Error) (PullEvent Chunk Error) := ⟨step⟩

/-! ## The accounting invariant -/

/-- A stream that goes on: these chunks were handed on, and these pulls have not been seen. -/
structure Live (stream : PullStream Chunk Error) (chunks : List Chunk)
    (unseen : List (Option (Delivery Chunk Error))) : Prop where
  open_ : stream.done = false
  pulls : stream.pulls = chunks.map (fun chunk => some (.chunk chunk)) ++ unseen
  items : itemsOf stream.trace = chunks.map .ok
  live : ∀ entry ∈ stream.trace, ¬ entry.Ends

/-- How the last pull of a stream ended it, and the item that said so. -/
inductive Conclusion : Delivery Chunk Error -> List (Except Error Chunk) -> Prop
  | ended : Conclusion .ended []
  | failed (error : Error) : Conclusion (.failed error) [.error error]

/-- A stream that is over. -/
structure Over (stream : PullStream Chunk Error) (chunks : List Chunk)
    (last : Delivery Chunk Error) (conclusion : List (Except Error Chunk)) : Prop where
  done : stream.done = true
  pulls : stream.pulls = chunks.map (fun chunk => some (.chunk chunk)) ++ [some last]
  items : itemsOf stream.trace = chunks.map .ok ++ conclusion
  concluded : Conclusion last conclusion
  ends : ∃ entry ∈ stream.trace, entry.Ends

/-- Every pull is handed on, in flight, or the end. -/
inductive Stage (stream : PullStream Chunk Error) : Prop
  | idle (chunks : List Chunk) (free : stream.pending = none) (live : Live stream chunks [])
  | waiting (chunks : List Chunk) (pull : Option (Delivery Chunk Error))
      (held : stream.pending = some chunks.length) (live : Live stream chunks [pull])
  | done (chunks : List Chunk) (last : Delivery Chunk Error)
      (conclusion : List (Except Error Chunk)) (ended : Over stream chunks last conclusion)

structure Accounted (stream : PullStream Chunk Error) : Prop where
  quiet : Quiet stream.trace
  afterItem : AfterItem stream.trace
  counted : pullsIn stream.trace = stream.pulls.length
  stage : Stage stream

theorem accounted_initial : Accounted (initial : PullStream Chunk Error) where
  quiet := each_nil
  afterItem := each_nil
  counted := rfl
  stage := .idle [] rfl ⟨rfl, rfl, rfl, by intro entry among; exact (nomatch among)⟩

/-- The pull a live stream waits for is the one after its chunks. -/
theorem Live.awaited {stream : PullStream Chunk Error} {chunks : List Chunk}
    {pull : Option (Delivery Chunk Error)} (live : Live stream chunks [pull]) :
    (stream.pulls[chunks.length]?).join = pull := by
  rw [live.pulls, List.getElem?_append_right (by simp)]
  simp

theorem accounted_look {stream : PullStream Chunk Error} (quiet : Quiet stream.trace)
    (afterItem : AfterItem stream.trace) (counted : pullsIn stream.trace = stream.pulls.length)
    {chunks : List Chunk} {pull : Option (Delivery Chunk Error)} (live : Live stream chunks [pull]) :
    Accounted (stream.look chunks.length) := by
  have awaited := live.awaited
  rcases live with ⟨isOpen, pulls, items, goesOn⟩
  cases pull with
  | none =>
      rw [look_unfinished awaited]
      refine ⟨quiet.snoc_live goesOn _, afterItem.snoc_polled _, ?_, ?_⟩
      · rw [pullsIn_polled, counted]
      · refine .waiting chunks none rfl ⟨isOpen, pulls, ?_, live_snoc goesOn id⟩
        rw [itemsOf_polled, items]
        exact List.append_nil _
  | some delivery =>
      rw [look_finished awaited]
      cases delivery with
      | chunk chunk =>
          rw [settle]
          refine ⟨quiet.snoc_live goesOn _, afterItem.snoc_polled _, ?_, ?_⟩
          · rw [pullsIn_polled, counted]
          · refine .idle (chunks ++ [chunk]) rfl ⟨isOpen, ?_, ?_, live_snoc goesOn id⟩
            · simpa using pulls
            · rw [itemsOf_polled, items, List.map_append]
              rfl
      | ended =>
          rw [settle]
          refine ⟨quiet.snoc_live goesOn _, afterItem.snoc_polled _, ?_, ?_⟩
          · rw [pullsIn_polled, counted]
          · refine .done chunks .ended [] ⟨rfl, pulls, ?_, .ended, ?_⟩
            · rw [itemsOf_polled, items]
              rfl
            · exact ⟨_, List.mem_append_right _ List.mem_cons_self, trivial⟩
      | failed error =>
          rw [settle]
          refine ⟨quiet.snoc_live goesOn _, afterItem.snoc_polled _, ?_, ?_⟩
          · rw [pullsIn_polled, counted]
          · refine .done chunks (.failed error) _ ⟨rfl, pulls, ?_, .failed error, ?_⟩
            · rw [itemsOf_polled, items]
              rfl
            · exact ⟨_, List.mem_append_right _ List.mem_cons_self, trivial⟩

theorem accounted_poll {stream : PullStream Chunk Error} (accounted : Accounted stream)
    (atOnce : Option (Delivery Chunk Error)) : Accounted (stream.poll atOnce) := by
  rcases accounted with ⟨quiet, afterItem, counted, stage⟩
  unfold poll
  cases stage with
  | idle chunks free live =>
      rcases live with ⟨isOpen, pulls, items, goesOn⟩
      rw [if_neg (by rw [isOpen]; exact Bool.false_ne_true), free]
      have many : stream.pulls.length = chunks.length := by rw [pulls]; simp
      have settled : pullsIn stream.trace = (itemsOf stream.trace).length := by
        rw [counted, many, items, List.length_map]
      have started := @accounted_look _ _
        { stream with pulls := stream.pulls ++ [atOnce], trace := stream.trace ++ [.pull] }
        (quiet.snoc_live goesOn _) (afterItem.snoc (fun _ => settled))
        (by rw [pullsIn_pull, counted, List.length_append]; rfl) chunks atOnce
        ⟨isOpen, by simpa using pulls, by rw [itemsOf_pull, items], live_snoc goesOn id⟩
      rw [← many] at started
      exact started
  | waiting chunks pull held live =>
      rw [if_neg (by rw [live.open_]; exact Bool.false_ne_true), held]
      exact accounted_look quiet afterItem counted live
  | done chunks last conclusion ended =>
      rw [if_pos ended.done]
      refine ⟨quiet.snoc (fun _ => rfl), afterItem.snoc_polled _, ?_, ?_⟩
      · rw [pullsIn_polled, counted]
      · refine .done chunks last conclusion ⟨ended.done, ended.pulls, ?_, ended.concluded, ?_⟩
        · rw [itemsOf_polled, ended.items]
          exact List.append_nil _
        · rcases ended.ends with ⟨entry, among, ends⟩
          exact ⟨entry, List.mem_append_left _ among, ends⟩

/-- Only the pull that is awaited can finish. -/
theorem accounted_finish {stream next : PullStream Chunk Error} (accounted : Accounted stream)
    {pull : Nat} {delivery : Delivery Chunk Error}
    (finished : stream.finish pull delivery = some next) : Accounted next := by
  have unfinished : stream.pulls[pull]? = some none := by
    unfold finish at finished
    split at finished
    · assumption
    · exact (nomatch finished)
  unfold finish at finished
  rw [unfinished] at finished
  cases finished
  rcases accounted with ⟨quiet, afterItem, counted, stage⟩
  have seen (chunks : List Chunk) (rest : List (Option (Delivery Chunk Error)))
      (pulls : stream.pulls = chunks.map (fun chunk => some (.chunk chunk)) ++ rest) :
      chunks.length ≤ pull ∧ rest[pull - chunks.length]? = some none := by
    rw [pulls] at unfinished
    by_cases early : pull < chunks.length
    · rw [List.getElem?_append_left (by simpa using early), List.getElem?_map] at unfinished
      rcases Option.map_eq_some_iff.mp unfinished with ⟨chunk, -, absurd⟩
      exact (nomatch absurd)
    · rw [List.getElem?_append_right (by simpa using Nat.le_of_not_lt early), List.length_map]
        at unfinished
      exact ⟨Nat.le_of_not_lt early, unfinished⟩
  refine ⟨quiet, afterItem, by rw [List.length_set]; exact counted, ?_⟩
  cases stage with
  | idle chunks free live =>
      exact (nomatch (seen chunks [] live.pulls).2)
  | waiting chunks waited held live =>
      rcases seen chunks [waited] live.pulls with ⟨late, found⟩
      have last : pull = chunks.length := by
        have inside : pull - chunks.length < [waited].length := by
          exact (List.getElem?_eq_some_iff.mp found).1
        rw [List.length_singleton] at inside
        omega
      subst last
      refine .waiting chunks (some delivery) held ⟨live.open_, ?_, live.items, live.live⟩
      rw [live.pulls, List.set_append_right _ _ (by simp)]
      simp
  | done chunks last conclusion ended =>
      rcases seen chunks [some last] ended.pulls with ⟨late, found⟩
      have member := List.mem_of_getElem? found
      exact (nomatch (List.mem_singleton.mp member))

theorem accounted_run {stream : PullStream Chunk Error} {events : List (PullEvent Chunk Error)}
    (ran : machine.run initial events = some stream) : Accounted stream := by
  apply machine.run_invariant Accounted ?_ accounted_initial ran
  intro before event after accounted stepped
  cases event with
  | poll atOnce =>
      rw [← Option.some.inj stepped]
      exact accounted_poll accounted atOnce
  | finish pull delivery => exact accounted_finish accounted stepped

/-! ## What a client sees -/

theorem toOption_items (chunks : List Chunk) :
    (chunks.map (Except.ok : Chunk -> Except Error Chunk)).filterMap Except.toOption = chunks := by
  rw [List.filterMap_map]
  exact List.filterMap_some

theorem produced_chunks (chunks : List Chunk) :
    (chunks.map (fun chunk => some (Delivery.chunk chunk : Delivery Chunk Error))).filterMap produced =
      chunks := by
  rw [List.filterMap_map]
  exact List.filterMap_some

theorem finished_chunks (chunks : List Chunk) :
    (chunks.map (fun chunk => some (Delivery.chunk chunk : Delivery Chunk Error))).filter
      Option.isNone = [] := by
  rw [List.filter_eq_nil_iff]
  intro pull among
  rcases List.mem_map.mp among with ⟨chunk, -, rfl⟩
  exact Bool.false_ne_true

theorem Accounted.delivered {stream : PullStream Chunk Error} (accounted : Accounted stream) :
    Delivered stream.pulls stream.trace := by
  rcases accounted with ⟨quiet, afterItem, counted, stage⟩
  have finished (chunks : List Chunk) :
      ∀ pull ∈ chunks.map (fun chunk => some (Delivery.chunk chunk : Delivery Chunk Error)),
        pull.isSome := by
    intro pull among
    rcases List.mem_map.mp among with ⟨chunk, -, rfl⟩
    rfl
  cases stage with
  | idle chunks free live =>
      refine ⟨⟨_, [], live.pulls, Nat.zero_le _, fun _ => live.live, finished chunks, ?_⟩,
        ⟨chunks, [], by rw [live.items, List.append_nil], Or.inl rfl⟩, quiet, ?_, afterItem,
        counted, ?_⟩
      · rw [chunksOf, live.items, toOption_items, produced_chunks]
      · rw [live.pulls, List.append_nil, finished_chunks]
        exact Nat.zero_le _
      · rw [live.pulls, live.items]
        simp
  | waiting chunks pull held live =>
      refine ⟨⟨_, [pull], live.pulls, Nat.le_refl _, fun _ => live.live, finished chunks, ?_⟩,
        ⟨chunks, [], by rw [live.items, List.append_nil], Or.inl rfl⟩, quiet, ?_, afterItem,
        counted, ?_⟩
      · rw [chunksOf, live.items, toOption_items, produced_chunks]
      · rw [live.pulls, List.filter_append, finished_chunks, List.nil_append]
        exact List.length_filter_le ..
      · rw [live.pulls, live.items]
        simp
  | done chunks last conclusion ended =>
      rcases ended with ⟨done, pulls, items, concluded, ends⟩
      refine ⟨⟨stream.pulls, [], (List.append_nil _).symm, Nat.zero_le _,
          fun unseen => absurd rfl unseen, ?_, ?_⟩, ⟨chunks, conclusion, items, ?_⟩, quiet, ?_,
        afterItem, counted, ?_⟩
      · intro pull among
        rw [pulls] at among
        rcases List.mem_append.mp among with early | late
        · exact finished chunks pull early
        · rw [List.mem_singleton.mp late]
          rfl
      · rw [chunksOf, items, pulls, List.filterMap_append, List.filterMap_append, toOption_items,
          produced_chunks]
        cases concluded <;> rfl
      · cases concluded with
        | ended => exact Or.inl rfl
        | failed error => exact Or.inr ⟨error, rfl⟩
      · rw [pulls, List.filter_append, finished_chunks, List.nil_append]
        exact List.length_filter_le ..
      · rw [pulls, items]
        simp

theorem delivered_run {stream : PullStream Chunk Error} {events : List (PullEvent Chunk Error)}
    (ran : machine.run initial events = some stream) : Delivered stream.pulls stream.trace :=
  (accounted_run ran).delivered

end PullStream
end Foundations
