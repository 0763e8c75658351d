import Lkrequest.Foundations.SharedSource
import Lkrequest.Request.Arguments
import Lkrequest.Upload.Streams

namespace Lkrequest
namespace Upload

open Foundations
open Request (StreamObject)
open Session (UploadSource)

/-!
# Requests that are given one object

A `body_stream=` is classified at the call and read only as the transport takes
chunks.  Nothing keeps a program from giving one file, or one generator, to
several requests that are in flight at once, or to a second request after the
first.  The workers then call the same object, in whatever order they get the
GIL: the requests divide between them what it has.

What the object does is its own: a producer is any state, with what a call on it
can come to.  The laws of a binary file and of an iterator are hypotheses.
-/

/-- `READ_CHUNK_SIZE`. -/
def readChunkSize : Nat := 16 * 1024

/-- A Python object: what the probes find, and what `read(READ_CHUNK_SIZE)` and
`__next__()` come to, with the object afterwards.  An answer stands for whatever
the object does not decide alone, such as how much a short read returns. -/
structure Producer (Source Answer : Type) where
  probes : StreamObject
  call : BlockingKind -> Answer -> Source -> Option (Outcome × Source)

/-- `UploadSource::into_stream`, of what a worker pulls. -/
def intoStream : UploadSource -> Option BlockingUpload
  | .reader _ => some (.new .reader)
  | .syncIter _ => some (.new .syncIter)
  | .asyncIter _ => none

/-- A poll would spawn a task. -/
def BlockingUpload.starts (upload : BlockingUpload) : Bool :=
  !upload.source.done && upload.source.pending.isNone

/-- The object, the uploads that were made of it, and the calls on it. -/
structure Shared (Source : Type) where
  source : Source
  uploads : List BlockingUpload
  /-- Which upload called, and what it came to, in order. -/
  served : List (Nat × Outcome)

/-- A request takes the object, an upload is polled, or a worker calls. -/
inductive SharedEvent (Answer : Type)
  | request (running : Bool)
  | poll (upload : Nat) (atOnce : Option Answer)
  | work (upload task : Nat) (answer : Answer)

namespace Shared

variable {Source Answer : Type} (display : PyErr -> String) (producer : Producer Source Answer)

def initial (source : Source) : Shared Source := ⟨source, [], []⟩

def step (shared : Shared Source) : SharedEvent Answer -> Option (Shared Source)
  | .request running =>
      match producer.probes.extract running with
      | .ok source => do
          let upload <- intoStream source
          some ⟨shared.source, shared.uploads ++ [upload], shared.served⟩
      | .error _ => some shared
  | .poll index none => do
      let upload <- shared.uploads[index]?
      some ⟨shared.source, shared.uploads.set index (upload.pollNext display none), shared.served⟩
  | .poll index (some answer) => do
      let upload <- shared.uploads[index]?
      if upload.starts then do
        let (outcome, after) <- producer.call upload.source.kind answer shared.source
        some ⟨after, shared.uploads.set index (upload.pollNext display (some outcome)),
          shared.served ++ [(index, outcome)]⟩
      else none
  | .work index task answer => do
      let upload <- shared.uploads[index]?
      let (outcome, after) <- producer.call upload.source.kind answer shared.source
      let next <- (BlockingUpload.machine display).step upload (.finish task outcome)
      some ⟨after, shared.uploads.set index next, shared.served ++ [(index, outcome)]⟩

def machine : Machine (Shared Source) (SharedEvent Answer) := ⟨step display producer⟩

/-- What the calls of one upload came to. -/
def outcomes (shared : Shared Source) (index : Nat) : List Outcome :=
  (shared.served.filter (fun entry => entry.1 = index)).map Prod.snd

/-- What a step is. -/
inductive Steps (shared : Shared Source) : Shared Source -> Prop
  | rejected : Steps shared shared
  | request {running : Bool} {source : UploadSource} {upload : BlockingUpload}
      (classified : producer.probes.extract running = .ok source) (made : intoStream source = some upload) :
      Steps shared ⟨shared.source, shared.uploads ++ [upload], shared.served⟩
  | poll {index : Nat} {upload : BlockingUpload} (found : shared.uploads[index]? = some upload) :
      Steps shared ⟨shared.source, shared.uploads.set index (upload.pollNext display none), shared.served⟩
  | pollServed {index : Nat} {upload : BlockingUpload} {answer : Answer} {outcome : Outcome} {after : Source}
      (found : shared.uploads[index]? = some upload) (starts : upload.starts = true)
      (called : producer.call upload.source.kind answer shared.source = some (outcome, after)) :
      Steps shared ⟨after, shared.uploads.set index (upload.pollNext display (some outcome)),
        shared.served ++ [(index, outcome)]⟩
  | work {index task : Nat} {upload next : BlockingUpload} {answer : Answer} {outcome : Outcome} {after : Source}
      (found : shared.uploads[index]? = some upload)
      (called : producer.call upload.source.kind answer shared.source = some (outcome, after))
      (finished : (BlockingUpload.machine display).step upload (.finish task outcome) = some next) :
      Steps shared ⟨after, shared.uploads.set index next, shared.served ++ [(index, outcome)]⟩

variable {display producer}

theorem steps_of_step {shared next : Shared Source} {event : SharedEvent Answer}
    (stepped : (machine display producer).step shared event = some next) :
    Steps display producer shared next := by
  change step display producer shared event = some next at stepped
  cases event with
  | request running =>
      dsimp only [step] at stepped
      cases classified : producer.probes.extract running with
      | error error =>
          rw [classified] at stepped
          cases stepped
          exact .rejected
      | ok source =>
          rw [classified] at stepped
          rcases Option.bind_eq_some_iff.mp stepped with ⟨upload, made, rest⟩
          cases rest
          exact .request classified made
  | poll index atOnce =>
      cases atOnce with
      | none =>
          rcases Option.bind_eq_some_iff.mp stepped with ⟨upload, found, rest⟩
          cases rest
          exact .poll found
      | some answer =>
          rcases Option.bind_eq_some_iff.mp stepped with ⟨upload, found, rest⟩
          by_cases starts : upload.starts = true
          · rw [if_pos starts] at rest
            rcases Option.bind_eq_some_iff.mp rest with ⟨⟨outcome, after⟩, called, rest'⟩
            cases rest'
            exact .pollServed found starts called
          · rw [if_neg starts] at rest
            cases rest
  | work index task answer =>
      rcases Option.bind_eq_some_iff.mp stepped with ⟨upload, found, rest⟩
      rcases Option.bind_eq_some_iff.mp rest with ⟨⟨outcome, after⟩, called, rest'⟩
      rcases Option.bind_eq_some_iff.mp rest' with ⟨next, finished, last⟩
      cases last
      exact .work found called finished

end Shared

/-! ## What the requests share is a shared source -/

/-- Whenever the object is accepted it is pulled in this way. -/
def Producer.PulledBy {Source Answer : Type} (producer : Producer Source Answer) (kind : BlockingKind) : Prop :=
  forall running source upload, producer.probes.extract running = .ok source ->
    intoStream source = some upload -> upload = .new kind

theorem pulledBy_reader {Source Answer : Type} {producer : Producer Source Answer}
    (hasRead : producer.probes.hasRead = .ok true) : producer.PulledBy .reader := by
  intro running source upload classified made
  unfold StreamObject.extract at classified
  rw [hasRead] at classified
  cases classified
  cases made
  rfl

theorem pulledBy_syncIter {Source Answer : Type} {producer : Producer Source Answer}
    (hasRead : producer.probes.hasRead = .ok false) (hasAiter : producer.probes.hasAiter = .ok false) :
    producer.PulledBy .syncIter := by
  intro running source upload classified made
  unfold StreamObject.extract at classified
  rw [hasRead, hasAiter] at classified
  cases iterates : producer.probes.iter with
  | none =>
      rw [iterates] at classified
      cases classified
  | some iterator =>
      rw [iterates] at classified
      cases classified
      cases made
      rfl

namespace Shared

variable {Source Answer : Type} (display : PyErr -> String) {producer : Producer Source Answer}
  {kind : BlockingKind}

def view (kind : BlockingKind) (shared : Shared Source) : Sharing Source Bytes IoError :=
  ⟨shared.source, shared.uploads.map (BlockingUpload.view display),
    shared.served.map (fun entry => (entry.1, blockingDelivery display kind entry.2))⟩

/-- What a call on the object gives a stream. -/
def Gives (producer : Producer Source Answer) (kind : BlockingKind) (source : Source)
    (delivery : Delivery Bytes IoError) (after : Source) : Prop :=
  ∃ answer outcome, producer.call kind answer source = some (outcome, after) ∧
    delivery = blockingDelivery display kind outcome

/-- All uploads of the object pull it in the same way. -/
def OneKind (kind : BlockingKind) (shared : Shared Source) : Prop :=
  ∀ upload ∈ shared.uploads, upload.source.kind = kind

theorem view_found (kind : BlockingKind) {shared : Shared Source} {index : Nat} {upload : BlockingUpload}
    (found : shared.uploads[index]? = some upload) :
    (shared.view display kind).streams[index]? = some (upload.view display) := by
  change (shared.uploads.map (BlockingUpload.view display))[index]? = _
  rw [List.getElem?_map, found]
  rfl

variable {display}

theorem OneKind.set {shared : Shared Source} (oneKind : shared.OneKind kind) {changed : BlockingUpload}
    (same : changed.source.kind = kind) (after : Source) (index : Nat) (served : List (Nat × Outcome)) :
    OneKind kind ⟨after, shared.uploads.set index changed, served⟩ := by
  intro upload among
  rcases List.mem_or_eq_of_mem_set among with old | rfl
  · exact oneKind upload old
  · exact same

variable {shared next : Shared Source}

/-- A step of the requests is a move of the streams they read. -/
theorem view_step (pulled : producer.PulledBy kind)
    (oneKind : shared.OneKind kind) (steps : Steps display producer shared next) :
    next.OneKind kind ∧ (next.view display kind = shared.view display kind ∨
      Sharing.Move (Gives display producer kind) (shared.view display kind) (next.view display kind)) := by
  cases steps with
  | rejected => exact ⟨oneKind, Or.inl rfl⟩
  | request classified made =>
      cases pulled _ _ _ classified made
      refine ⟨?_, Or.inr ?_⟩
      · intro upload among
        rcases List.mem_append.mp among with old | new
        · exact oneKind upload old
        · rw [List.mem_singleton.mp new]
          rfl
      · have moved : Sharing.Move (Gives display producer kind) _ _ := .join (shared.view display kind)
        unfold view at moved ⊢
        rw [List.map_append]
        exact moved
  | @poll index upload found =>
      have same := oneKind upload (List.mem_of_getElem? found)
      refine ⟨oneKind.set ((BlockingUpload.kind_pollNext display upload none).trans same) _ _ _, Or.inr ?_⟩
      have moved : Sharing.Move (Gives display producer kind) _ _ := .poll (view_found display kind found)
      have polled := BlockingUpload.view_pollNext display upload none
      unfold view at moved ⊢
      rw [List.map_set, polled]
      exact moved
  | @pollServed index upload answer outcome after found starts called =>
      have same := oneKind upload (List.mem_of_getElem? found)
      rw [same] at called
      refine ⟨oneKind.set ((BlockingUpload.kind_pollNext display upload _).trans same) _ _ _, Or.inr ?_⟩
      have moved : Sharing.Move (Gives display producer kind) _ _ :=
        .pollServed (view_found display kind found) starts ⟨answer, outcome, called, rfl⟩
      have polled := BlockingUpload.view_pollNext display upload (some outcome)
      rw [same] at polled
      unfold view at moved ⊢
      rw [List.map_set, polled, List.map_append]
      exact moved
  | @work index task upload changed answer outcome after found called finished =>
      have same := oneKind upload (List.mem_of_getElem? found)
      rw [same] at called
      rcases BlockingUpload.view_finish display finished with ⟨kept, finished'⟩
      rw [same] at finished'
      refine ⟨oneKind.set (by rw [kept]; exact same) _ _ _, Or.inr ?_⟩
      have moved : Sharing.Move (Gives display producer kind) _ _ :=
        .serve (view_found display kind found) finished' ⟨answer, outcome, called, rfl⟩
      unfold view at moved ⊢
      rw [List.map_set, List.map_append]
      exact moved

theorem given_view (display : PyErr -> String) (kind : BlockingKind) (shared : Shared Source) (index : Nat) :
    (shared.view display kind).given index = (shared.outcomes index).map (blockingDelivery display kind) := by
  unfold Sharing.given outcomes view
  rw [List.filter_map, List.map_map, List.map_map]
  rfl

/-- A step calls the object once, or not at all. -/
theorem served_step (oneKind : OneKind kind shared) (steps : Steps display producer shared next) :
    (next.source = shared.source ∧ next.served = shared.served) ∨
      ∃ answer index outcome, producer.call kind answer shared.source = some (outcome, next.source) ∧
        next.served = shared.served ++ [(index, outcome)] := by
  cases steps with
  | rejected => exact Or.inl ⟨rfl, rfl⟩
  | request classified made => exact Or.inl ⟨rfl, rfl⟩
  | poll found => exact Or.inl ⟨rfl, rfl⟩
  | @pollServed index upload answer outcome after found starts called =>
      rw [oneKind upload (List.mem_of_getElem? found)] at called
      exact Or.inr ⟨answer, index, outcome, called, rfl⟩
  | @work index task upload changed answer outcome after found called finished =>
      rw [oneKind upload (List.mem_of_getElem? found)] at called
      exact Or.inr ⟨answer, index, outcome, called, rfl⟩

end Shared

/-! ## What an object has is given out once -/

/-- A call takes what it comes to from what the object has left.  A call that
marks the end finds nothing left. -/
structure Gradual {Source Answer Item : Type} (producer : Producer Source Answer) (kind : BlockingKind)
    (part : Outcome -> List Item) (left : Source -> List Item) (marksEnd : Outcome -> Prop) : Prop where
  pulledBy : producer.PulledBy kind
  takes : forall answer source outcome after, producer.call kind answer source = some (outcome, after) ->
    left source = part outcome ++ left after
  ends : forall answer source outcome after, producer.call kind answer source = some (outcome, after) ->
    marksEnd outcome -> left source = []

/-- What holds of an object that was shared from the beginning. -/
structure Conserved {Source Answer Item : Type} (display : PyErr -> String) (producer : Producer Source Answer)
    (kind : BlockingKind) (part : Outcome -> List Item) (left : Source -> List Item)
    (marksEnd : Outcome -> Prop) (start : Source) (shared : Shared Source) : Prop where
  oneKind : shared.OneKind kind
  divided : (shared.view display kind).Divided
  conserved : left start = shared.served.flatMap (fun entry => part entry.2) ++ left shared.source
  spent : ∀ entry ∈ shared.served, marksEnd entry.2 -> left shared.source = []
  called : ∀ entry ∈ shared.served, ∃ answer source after,
    producer.call kind answer source = some (entry.2, after)

section Laws

variable {Source Answer Item : Type} {display : PyErr -> String} {producer : Producer Source Answer}
  {kind : BlockingKind} {part : Outcome -> List Item} {left : Source -> List Item}
  {marksEnd : Outcome -> Prop} {start : Source} {shared next : Shared Source}

theorem Conserved.step (gradual : Gradual producer kind part left marksEnd)
    (before : Conserved display producer kind part left marksEnd start shared)
    (steps : Shared.Steps display producer shared next) :
    Conserved display producer kind part left marksEnd start next := by
  rcases Shared.view_step gradual.pulledBy before.oneKind steps with ⟨oneKind, moved⟩
  have divided : (next.view display kind).Divided := by
    rcases moved with same | moved
    · rw [same]
      exact before.divided
    · exact before.divided.move _ moved
  rcases Shared.served_step before.oneKind steps with ⟨source, served⟩ | ⟨answer, index, outcome, called, served⟩
  · refine ⟨oneKind, divided, ?_, ?_, ?_⟩
    · rw [served, source]
      exact before.conserved
    · rw [served, source]
      exact before.spent
    · rw [served]
      exact before.called
  · have takes := gradual.takes _ _ _ _ called
    refine ⟨oneKind, divided, ?_, ?_, ?_⟩
    · rw [before.conserved, served, takes, List.flatMap_append, List.append_assoc, List.flatMap_singleton]
    · intro entry among ends
      rw [served] at among
      have spent : left shared.source = [] := by
        rcases List.mem_append.mp among with early | late
        · exact before.spent entry early ends
        · rw [List.mem_singleton.mp late] at ends
          exact gradual.ends _ _ _ _ called ends
      rw [takes] at spent
      exact (List.append_eq_nil_iff.mp spent).2
    · intro entry among
      rw [served] at among
      rcases List.mem_append.mp among with early | late
      · exact before.called entry early
      · rw [List.mem_singleton.mp late]
        exact ⟨answer, shared.source, next.source, called⟩

theorem conserved_run (gradual : Gradual producer kind part left marksEnd)
    {events : List (SharedEvent Answer)}
    (ran : (Shared.machine display producer).run (.initial start) events = some shared) :
    Conserved display producer kind part left marksEnd start shared := by
  refine (Shared.machine display producer).run_invariant
    (Conserved display producer kind part left marksEnd start) ?_ ?_ ran
  · intro before event after conserved stepped
    exact conserved.step gradual (Shared.steps_of_step stepped)
  · refine ⟨?_, Sharing.divided_initial start, rfl, ?_, ?_⟩
    · intro upload among
      cases among
    · intro entry among
      cases among
    · intro entry among
      cases among

/-- The stream has come to its end or to an error. -/
def BlockingUpload.Ended (upload : BlockingUpload) : Prop := ∃ entry ∈ upload.trace, entry.Ends

/-- The stream has come to its end, and there was no error. -/
def BlockingUpload.EndedCleanly (upload : BlockingUpload) : Prop :=
  upload.Ended ∧ ∀ item ∈ itemsOf upload.trace, ∃ chunk, item = .ok chunk

namespace Conserved

variable (conserved : Conserved display producer kind part left marksEnd start shared) {index : Nat}
  {upload : BlockingUpload}

include conserved

/-- Each upload has handed on what its calls came to, but for the call in flight. -/
theorem handed_on (found : shared.uploads[index]? = some upload) :
    ∃ unseen : List Bytes, unseen.length <= 1 ∧ (upload.Ended -> unseen = []) ∧
      (shared.outcomes index).filterMap (fun outcome => produced (some (blockingDelivery display kind outcome))) =
        chunksOf upload.trace ++ unseen := by
  rcases conserved.divided.handed_on (Shared.view_found display kind found) with ⟨unseen, few, goesOn, handed⟩
  rw [Shared.given_view, List.filterMap_map] at handed
  refine ⟨unseen, few, ?_, handed⟩
  rintro ⟨entry, among, ends⟩
  by_contra some
  exact goesOn some entry among ends

theorem clean (found : shared.uploads[index]? = some upload) (cleanly : upload.EndedCleanly) :
    (shared.outcomes index).map (blockingDelivery display kind) =
      (chunksOf upload.trace).map .chunk ++ [.ended] := by
  have there := Shared.view_found display kind found
  have deliveries := conserved.divided.own index _ there
  rw [Shared.given_view] at deliveries
  rw [← deliveries]
  exact (conserved.divided.accounted index _ there).deliveries_clean cleanly.1 cleanly.2

/-- A lone upload was given everything. -/
theorem outcomes_lone (lone : shared.uploads.length = 1) (found : shared.uploads[index]? = some upload) :
    shared.outcomes index = shared.served.map Prod.snd := by
  have first : index = 0 := by
    have inside := (List.getElem?_eq_some_iff.mp found).1
    omega
  unfold Shared.outcomes
  rw [List.filter_eq_self.mpr]
  intro entry among
  have known := conserved.divided.known (entry.1, blockingDelivery display kind entry.2)
    (List.mem_map.mpr ⟨entry, among, rfl⟩)
  change entry.1 < (shared.uploads.map (BlockingUpload.view display)).length at known
  rw [List.length_map] at known
  rw [decide_eq_true_eq]
  omega

theorem outcomes_called {outcome : Outcome} (among : outcome ∈ shared.outcomes index) :
    ∃ answer source after, producer.call kind answer source = some (outcome, after) := by
  rcases List.mem_map.mp among with ⟨entry, kept, rfl⟩
  exact conserved.called entry (List.mem_of_mem_filter kept)

theorem outcomes_spent {outcome : Outcome} (among : outcome ∈ shared.outcomes index)
    (ends : marksEnd outcome) : left shared.source = [] := by
  rcases List.mem_map.mp among with ⟨entry, kept, rfl⟩
  exact conserved.spent entry (List.mem_of_mem_filter kept) ends

end Conserved

end Laws

/-! ## Files -/

/-- The bytes that a call has read. -/
def Outcome.bytes : Outcome -> Bytes
  | .returned (.ok chunk) => (extractChunk chunk).toOption.getD []
  | _ => []

/-- An empty chunk. -/
def Outcome.isEmptyRead (outcome : Outcome) : Prop :=
  ∃ chunk, outcome = .returned (.ok chunk) ∧ extractChunk chunk = .ok []

/-- A file opened in binary mode: `read(n)` returns at most the next `n` bytes,
and no bytes at the end only.  It may return fewer, or `None`, or raise. -/
structure BinaryFile {Source Answer : Type} (producer : Producer Source Answer) (rest : Source -> Bytes) :
    Prop where
  hasRead : producer.probes.hasRead = .ok true
  reads : forall answer source outcome after, producer.call .reader answer source = some (outcome, after) ->
    rest source = outcome.bytes ++ rest after
  atMost : forall answer source outcome after, producer.call .reader answer source = some (outcome, after) ->
    outcome.bytes.length <= readChunkSize
  atEnd : forall answer source outcome after, producer.call .reader answer source = some (outcome, after) ->
    outcome.isEmptyRead -> rest source = []

theorem bytes_returned (chunk : PyChunk) :
    Outcome.bytes (.returned (.ok chunk)) = (extractChunk chunk).toOption.getD [] := rfl

/-- What is read is what is handed on. -/
theorem produced_reader (display : PyErr -> String) (outcome : Outcome) :
    (produced (some (blockingDelivery display .reader outcome))).toList.flatten = outcome.bytes ∧
      forall bytes, produced (some (blockingDelivery display .reader outcome)) = some bytes ->
        bytes ≠ [] ∧ bytes = outcome.bytes := by
  cases outcome with
  | failed join => exact ⟨rfl, by intro bytes wrong; cases wrong⟩
  | returned call =>
      cases call with
      | error error => exact ⟨rfl, by intro bytes wrong; cases wrong⟩
      | ok chunk =>
          by_cases absent : chunk = .none
          · subst absent
            exact ⟨rfl, by intro bytes wrong; cases wrong⟩
          · rw [reader_returned display absent]
            rw [bytes_returned]
            cases extractChunk chunk with
            | error error => exact ⟨rfl, by intro bytes wrong; cases wrong⟩
            | ok value =>
                cases value with
                | nil => exact ⟨rfl, by intro bytes wrong; cases wrong⟩
                | cons byte more =>
                    refine ⟨List.append_nil _, ?_⟩
                    intro bytes same
                    cases same
                    exact ⟨List.cons_ne_nil _ _, rfl⟩

theorem flatten_filterMap {Value Item : Type} (f : Value -> Option (List Item)) (values : List Value) :
    (values.filterMap f).flatten = values.flatMap (fun value => (f value).toList.flatten) := by
  induction values with
  | nil => rfl
  | cons value rest ih =>
      rw [List.filterMap_cons, List.flatMap_cons, ← ih]
      cases f value with
      | none => rfl
      | some list => exact congrArg (· ++ _) (List.append_nil list).symm

section Files

variable {Source Answer : Type} (display : PyErr -> String) {producer : Producer Source Answer}
  {rest : Source -> Bytes}

theorem BinaryFile.gradual (file : BinaryFile producer rest) :
    Gradual producer .reader Outcome.bytes rest Outcome.isEmptyRead :=
  ⟨pulledBy_reader file.hasRead, file.reads, file.atEnd⟩

/-- However many requests read one file at once, no byte is sent twice and none
is passed over: the reads divide it among them in order, each request sends what
its own reads returned and has read at most one chunk ahead, and a request whose
body comes to an end has seen the end of the file. -/
theorem files_are_divided (file : BinaryFile producer rest) {start : Source}
    {events : List (SharedEvent Answer)} {shared : Shared Source}
    (ran : (Shared.machine display producer).run (.initial start) events = some shared) :
    rest start = shared.served.flatMap (fun entry => entry.2.bytes) ++ rest shared.source ∧
    forall (index : Nat) (upload : BlockingUpload), shared.uploads[index]? = some upload ->
      (∀ chunk ∈ chunksOf upload.trace, chunk ≠ [] ∧ chunk.length <= readChunkSize) ∧
      (∃ unseen : Bytes, unseen.length <= readChunkSize ∧ (upload.Ended -> unseen = []) ∧
        (shared.outcomes index).flatMap Outcome.bytes = (chunksOf upload.trace).flatten ++ unseen) ∧
      (upload.EndedCleanly -> .returned (.ok .none) ∉ shared.outcomes index ->
        rest shared.source = [] ∧
        (shared.uploads.length = 1 -> (chunksOf upload.trace).flatten = rest start)) := by
  have conserved : Conserved display producer .reader Outcome.bytes rest Outcome.isEmptyRead start shared :=
    conserved_run file.gradual ran
  refine ⟨conserved.conserved, ?_⟩
  intro index upload found
  rcases conserved.handed_on found with ⟨unseen, few, seen, handed⟩
  have sized : ∀ chunk ∈ chunksOf upload.trace ++ unseen, chunk ≠ [] ∧ chunk.length <= readChunkSize := by
    intro chunk among
    rw [← handed] at among
    rcases List.mem_filterMap.mp among with ⟨outcome, there, same⟩
    rcases (produced_reader display outcome).2 chunk same with ⟨nonempty, rfl⟩
    rcases conserved.outcomes_called there with ⟨answer, source, after, called⟩
    exact ⟨nonempty, file.atMost _ _ _ _ called⟩
  have sent : (shared.outcomes index).flatMap Outcome.bytes = (chunksOf upload.trace).flatten ++ unseen.flatten := by
    rw [← List.flatten_append, ← handed, flatten_filterMap]
    exact congrArg (List.flatMap · _) (funext (fun outcome => (produced_reader display outcome).1.symm))
  refine ⟨fun chunk among => sized chunk (List.mem_append_left _ among), ⟨unseen.flatten, ?_, ?_, sent⟩, ?_⟩
  · cases unseen with
    | nil => exact Nat.zero_le _
    | cons chunk more =>
        rw [List.length_cons] at few
        have single : more = [] := List.eq_nil_of_length_eq_zero (by omega)
        subst single
        rw [List.flatten_singleton]
        exact (sized chunk (List.mem_append_right _ List.mem_cons_self)).2
  · intro ended
    rw [seen ended]
    rfl
  · intro cleanly noNone
    have last : Delivery.ended ∈ (shared.outcomes index).map (blockingDelivery display .reader) := by
      rw [conserved.clean found cleanly]
      exact List.mem_append_right _ List.mem_cons_self
    rcases List.mem_map.mp last with ⟨outcome, there, ends⟩
    have spent : rest shared.source = [] := by
      rcases ((reads display).reader outcome).mp ends with rfl | marked
      · exact absurd there noNone
      · exact conserved.outcomes_spent there marked
    refine ⟨spent, ?_⟩
    intro lone
    rw [seen cleanly.1, List.flatten_nil, List.append_nil, conserved.outcomes_lone lone found,
      List.flatMap_map] at sent
    rw [conserved.conserved, spent, List.append_nil, ← sent]

end Files

/-- A file whose reads may be short: the answer says how short. -/
def plainFile : Producer Bytes Nat where
  probes := ⟨1, "BufferedReader", .ok true, .ok false, .ok 1, some 1⟩
  call := fun kind most rest =>
    match kind with
    | .reader =>
        let count := min (most + 1) readChunkSize
        some (.returned (.ok (.bytes (rest.take count))), rest.drop count)
    | .syncIter => none

theorem plainFile_binary : BinaryFile plainFile id where
  hasRead := rfl
  reads := by
    intro most rest outcome after called
    cases called
    exact (List.take_append_drop _ rest).symm
  atMost := by
    intro most rest outcome after called
    cases called
    exact Nat.le_trans (List.length_take_le _ rest) (Nat.min_le_right _ _)
  atEnd := by
    intro most rest outcome after called empty
    cases called
    rcases empty with ⟨chunk, same, extracted⟩
    cases same
    have nothing : rest.take (min (most + 1) readChunkSize) = [] := Except.ok.inj extracted
    rcases List.take_eq_nil_iff.mp nothing with zero | done
    · unfold readChunkSize at zero
      omega
    · exact done

/-- Two requests read one file; the second one's worker is first, and reads one byte. -/
def twoReaders : List (SharedEvent Nat) :=
  [.request true, .request false, .poll 0 none, .poll 1 none, .work 1 0 0, .work 0 0 4, .poll 0 none,
    .poll 0 (some 4), .poll 1 none, .poll 1 (some 0)]

theorem files_are_divided_by_two :
    ∃ shared, (Shared.machine (fun _ => "") plainFile).run (.initial [1, 2, 3]) twoReaders = some shared ∧
      shared.uploads.map (fun upload => chunksOf upload.trace) = [[[2, 3]], [[1]]] ∧
      [1, 2, 3] = shared.served.flatMap (fun entry => entry.2.bytes) ++ id shared.source := by
  have observed : ∃ shared,
      (Shared.machine (fun _ => "") plainFile).run (.initial [1, 2, 3]) twoReaders = some shared ∧
        shared.uploads.map (fun upload => chunksOf upload.trace) = [[[2, 3]], [[1]]] := ⟨_, rfl, rfl⟩
  rcases observed with ⟨shared, ran, sent⟩
  exact ⟨shared, ran, sent, (files_are_divided (fun _ => "") plainFile_binary ran).1⟩

/-! ## Iterators -/

/-- The item that a call has yielded. -/
def Outcome.items : Outcome -> List PyChunk
  | .returned (.ok item) => [item]
  | _ => []

def Outcome.isStop (outcome : Outcome) : Prop :=
  ∃ error : PyErr, outcome = .returned (.error error) ∧ error.kind = .stopIteration

/-- An iterator that is its own `iter()`: it yields its items one after the other
and stops after the last one.  It may raise in between. -/
structure ItemIterator {Source Answer : Type} (producer : Producer Source Answer)
    (items : Source -> List PyChunk) : Prop where
  hasRead : producer.probes.hasRead = .ok false
  hasAiter : producer.probes.hasAiter = .ok false
  iter : producer.probes.iter = some producer.probes.object
  yields : forall answer source outcome after, producer.call .syncIter answer source = some (outcome, after) ->
    items source = outcome.items ++ items after
  atEnd : forall answer source outcome after, producer.call .syncIter answer source = some (outcome, after) ->
    outcome.isStop -> items source = []

/-- What is yielded is what is handed on. -/
theorem produced_syncIter (display : PyErr -> String) (outcome : Outcome) :
    (produced (some (blockingDelivery display .syncIter outcome))).toList =
      outcome.items.filterMap (fun item => (extractChunk item).toOption) := by
  cases outcome with
  | failed join => rfl
  | returned call =>
      cases call with
      | error error =>
          rw [syncIter_raised]
          split <;> rfl
      | ok item =>
          rw [syncIter_returned]
          unfold Outcome.items
          dsimp only
          cases extracted : extractChunk item with
          | error error => simp [produced, extracted, Except.toOption]
          | ok chunk => simp [produced, extracted, Except.toOption]

theorem filterMap_toList {Value Item : Type} (f : Value -> Option Item) (values : List Value) :
    values.filterMap f = values.flatMap (fun value => (f value).toList) := by
  induction values with
  | nil => rfl
  | cons value rest ih =>
      rw [List.filterMap_cons, List.flatMap_cons, ← ih]
      cases f value <;> rfl

section Iterators

variable {Source Answer : Type} (display : PyErr -> String) {producer : Producer Source Answer}
  {items : Source -> List PyChunk}

theorem ItemIterator.gradual (iterator : ItemIterator producer items) :
    Gradual producer .syncIter Outcome.items items Outcome.isStop :=
  ⟨pulledBy_syncIter iterator.hasRead iterator.hasAiter, iterator.yields, iterator.atEnd⟩

/-- Of a body that has ended without an error every item was a chunk. -/
theorem items_clean {outcomes : List Outcome} {chunks : List Bytes}
    (clean : outcomes.map (blockingDelivery display .syncIter) = chunks.map .chunk ++ [.ended]) :
    (outcomes.flatMap Outcome.items).map extractChunk = chunks.map .ok := by
  induction outcomes generalizing chunks with
  | nil => cases chunks <;> cases clean
  | cons outcome rest ih =>
      rw [List.map_cons] at clean
      rw [List.flatMap_cons, List.map_append]
      cases chunks with
      | nil =>
          rcases List.cons.inj clean with ⟨ended, none⟩
          rw [List.map_eq_nil_iff.mp none]
          rcases ((reads display).syncIter outcome).mp ended with ⟨error, rfl, -⟩
          rfl
      | cons chunk more =>
          rcases List.cons.inj clean with ⟨first, later⟩
          rcases ((reads display).syncChunk outcome chunk).mp first with ⟨item, rfl, extracted⟩
          rw [ih later, List.map_cons, ← extracted]
          rfl

/-- However many requests iterate over one iterator at once, each item is sent by
at most one of them and the boundaries between the items are kept: the calls
divide the items among the requests in order, each request sends the items it
was given, as they are, and has called ahead at most once. -/
theorem iterators_are_divided (iterator : ItemIterator producer items) {start : Source}
    {events : List (SharedEvent Answer)} {shared : Shared Source}
    (ran : (Shared.machine display producer).run (.initial start) events = some shared) :
    items start = shared.served.flatMap (fun entry => entry.2.items) ++ items shared.source ∧
    forall (index : Nat) (upload : BlockingUpload), shared.uploads[index]? = some upload ->
      (∃ unseen : List Bytes, unseen.length <= 1 ∧ (upload.Ended -> unseen = []) ∧
        ((shared.outcomes index).flatMap Outcome.items).filterMap (fun item => (extractChunk item).toOption) =
          chunksOf upload.trace ++ unseen) ∧
      (upload.EndedCleanly ->
        items shared.source = [] ∧
        ((shared.outcomes index).flatMap Outcome.items).map extractChunk = (chunksOf upload.trace).map .ok ∧
        (shared.uploads.length = 1 -> (items start).map extractChunk = (chunksOf upload.trace).map .ok)) := by
  have conserved : Conserved display producer .syncIter Outcome.items items Outcome.isStop start shared :=
    conserved_run iterator.gradual ran
  refine ⟨conserved.conserved, ?_⟩
  intro index upload found
  rcases conserved.handed_on found with ⟨unseen, few, seen, handed⟩
  refine ⟨⟨unseen, few, seen, ?_⟩, ?_⟩
  · rw [← handed, List.filterMap_flatMap, filterMap_toList]
    exact congrArg (List.flatMap · _) (funext (fun outcome => (produced_syncIter display outcome).symm))
  · intro cleanly
    have clean := conserved.clean found cleanly
    have extracted := items_clean display clean
    have last : Delivery.ended ∈ (shared.outcomes index).map (blockingDelivery display .syncIter) := by
      rw [clean]
      exact List.mem_append_right _ List.mem_cons_self
    rcases List.mem_map.mp last with ⟨outcome, there, ends⟩
    have spent : items shared.source = [] :=
      conserved.outcomes_spent there (((reads display).syncIter outcome).mp ends)
    refine ⟨spent, extracted, ?_⟩
    intro lone
    rw [conserved.outcomes_lone lone found, List.flatMap_map] at extracted
    rw [conserved.conserved, spent, List.append_nil]
    exact extracted

end Iterators

def plainIterator : Producer (List PyChunk) Unit where
  probes := ⟨1, "generator", .ok false, .ok false, .ok 1, some 1⟩
  call := fun kind _ items =>
    match kind, items with
    | .reader, _ => none
    | .syncIter, [] => some (.returned (.error ⟨.stopIteration, ""⟩), [])
    | .syncIter, item :: rest => some (.returned (.ok item), rest)

theorem plainIterator_items : ItemIterator plainIterator id where
  hasRead := rfl
  hasAiter := rfl
  iter := rfl
  yields := by
    intro answer items outcome after called
    cases items <;> cases called <;> rfl
  atEnd := by
    intro answer items outcome after called stops
    cases items with
    | nil => rfl
    | cons item rest =>
        cases called
        rcases stops with ⟨error, wrong, -⟩
        cases wrong

/-- Two requests take turns at a generator that yields an empty chunk too. -/
def twoIterators : List (SharedEvent Unit) :=
  [.request true, .request true, .poll 0 none, .poll 1 none, .work 0 0 (), .work 1 0 (), .poll 1 none,
    .poll 1 (some ()), .poll 0 none, .poll 0 (some ()), .poll 1 (some ())]

theorem iterators_are_divided_by_two :
    ∃ shared, (Shared.machine (fun _ => "") plainIterator).run
        (.initial [.bytes [1, 2], .bytes [], .bytes [3]]) twoIterators = some shared ∧
      shared.uploads.map (fun upload => chunksOf upload.trace) = [[[1, 2]], [[], [3]]] ∧
      [.bytes [1, 2], .bytes [], .bytes [3]] =
        shared.served.flatMap (fun entry => entry.2.items) ++ id shared.source := by
  have observed : ∃ shared, (Shared.machine (fun _ => "") plainIterator).run
      (.initial [.bytes [1, 2], .bytes [], .bytes [3]]) twoIterators = some shared ∧
        shared.uploads.map (fun upload => chunksOf upload.trace) = [[[1, 2]], [[], [3]]] := ⟨_, rfl, rfl⟩
  rcases observed with ⟨shared, ran, sent⟩
  exact ⟨shared, ran, sent, (iterators_are_divided (fun _ => "") plainIterator_items ran).1⟩

end Upload
end Lkrequest
