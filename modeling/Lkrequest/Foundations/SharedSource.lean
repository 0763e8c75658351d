import Lkrequest.Foundations.PullStream
import Lkrequest.Foundations.Tasks

namespace Foundations

/-!
# Streams that share a source

Nothing keeps two streams from being given one source.  Whoever pulls gets what
the source has next, so that the streams divide the source among them: what it
has given is, in order, what their pulls have produced, and each of the streams
has handed on all it got but for the pull in flight.
-/

namespace PullStream

variable {Chunk Error : Type} {stream next : PullStream Chunk Error}

/-- A poll would start a pull. -/
def starts (stream : PullStream Chunk Error) : Bool := !stream.done && stream.pending.isNone

/-- What the finished pulls have produced. -/
def deliveries (stream : PullStream Chunk Error) : List (Delivery Chunk Error) :=
  stream.pulls.filterMap id

theorem pulls_look (stream : PullStream Chunk Error) (handle : Nat) :
    (stream.look handle).pulls = stream.pulls := by
  unfold look
  split
  · rfl
  · rename_i delivery _
    cases delivery <;> rfl

theorem pulls_poll (stream : PullStream Chunk Error) (atOnce : Option (Delivery Chunk Error)) :
    (stream.poll atOnce).pulls = if stream.starts then stream.pulls ++ [atOnce] else stream.pulls := by
  unfold poll starts
  cases stream.done with
  | true => rfl
  | false =>
      cases stream.pending with
      | none => exact pulls_look _ _
      | some handle => exact pulls_look _ _

/-- A poll that finds no result adds nothing to the deliveries. -/
theorem deliveries_poll (stream : PullStream Chunk Error) :
    (stream.poll none).deliveries = stream.deliveries := by
  unfold deliveries
  rw [pulls_poll]
  split
  · rw [List.filterMap_append]
    exact List.append_nil _
  · rfl

theorem deliveries_poll_served (starts : stream.starts = true) (delivery : Delivery Chunk Error) :
    (stream.poll (some delivery)).deliveries = stream.deliveries ++ [delivery] := by
  unfold deliveries
  rw [pulls_poll, if_pos starts, List.filterMap_append]
  rfl

/-- The pull that finishes is the last one. -/
theorem deliveries_finish (accounted : Accounted stream) {pull : Nat} {delivery : Delivery Chunk Error}
    (finished : stream.finish pull delivery = some next) :
    next.deliveries = stream.deliveries ++ [delivery] := by
  have unfinished : stream.pulls[pull]? = some none := by
    unfold finish at finished
    split at finished
    · assumption
    · cases finished
  rw [finish_unfinished unfinished] at finished
  cases finished
  rcases accounted.delivered.exact with ⟨seen, unseen, pulls, few, -, finished, -⟩
  unfold deliveries
  rw [pulls] at unfinished ⊢
  by_cases early : pull < seen.length
  · rw [List.getElem?_append_left early] at unfinished
    cases finished none (List.mem_of_getElem? unfinished)
  · have late : seen.length <= pull := Nat.le_of_not_lt early
    rw [List.getElem?_append_right late] at unfinished
    cases unseen with
    | nil => cases unfinished
    | cons last more =>
        rw [List.length_cons] at few
        have single : more = [] := List.eq_nil_of_length_eq_zero (by omega)
        subst single
        have inside := (List.getElem?_eq_some_iff.mp unfinished).1
        rw [List.length_singleton] at inside
        have here : pull - seen.length = 0 := by omega
        rw [here] at unfinished
        cases unfinished
        rw [List.set_append_right _ _ late, here, List.filterMap_append, List.filterMap_append]
        change _ = seen.filterMap id ++ [] ++ [delivery]
        rw [List.append_nil]
        rfl

/-- A stream that has ended without an error got its chunks, and then the end. -/
theorem Accounted.deliveries_clean (accounted : Accounted stream) (ended : ∃ entry ∈ stream.trace, entry.Ends)
    (clean : ∀ item ∈ itemsOf stream.trace, ∃ chunk, item = .ok chunk) :
    stream.deliveries = (chunksOf stream.trace).map .chunk ++ [.ended] := by
  rcases ended with ⟨entry, among, ends⟩
  cases accounted.stage with
  | idle chunks free live => exact absurd ends (live.live entry among)
  | waiting chunks pull held live => exact absurd ends (live.live entry among)
  | done chunks last conclusion whole =>
      rcases whole with ⟨-, pulls, items, concluded, -⟩
      cases concluded with
      | ended =>
          rw [List.append_nil] at items
          unfold deliveries chunksOf
          rw [pulls, items, toOption_items, List.filterMap_append, List.filterMap_map]
          change chunks.filterMap (fun chunk => some (Delivery.chunk chunk)) ++ [Delivery.ended] = _
          rw [List.filterMap_eq_map']
      | failed error =>
          have failed : Except.error error ∈ itemsOf stream.trace := by
            rw [items]
            exact List.mem_append_right _ List.mem_cons_self
          rcases clean _ failed with ⟨chunk, wrong⟩
          cases wrong

end PullStream

/-! ## Sharing -/

structure Sharing (Source Chunk Error : Type) where
  source : Source
  streams : List (PullStream Chunk Error)
  /-- Which stream was given what, in order. -/
  served : List (Nat × Delivery Chunk Error)

namespace Sharing

variable {Source Chunk Error : Type}

def initial (source : Source) : Sharing Source Chunk Error := ⟨source, [], []⟩

/-- What one of the streams was given. -/
def given (sharing : Sharing Source Chunk Error) (index : Nat) : List (Delivery Chunk Error) :=
  (sharing.served.filter (fun entry => entry.1 = index)).map Prod.snd

variable (gives : Source -> Delivery Chunk Error -> Source -> Prop)

/-- A stream joins, is polled, or has its pull served; a pull may be served
before the poll that starts it looks at it. -/
inductive Move : Sharing Source Chunk Error -> Sharing Source Chunk Error -> Prop
  | join (sharing : Sharing Source Chunk Error) :
      Move sharing ⟨sharing.source, sharing.streams ++ [PullStream.initial], sharing.served⟩
  | poll {sharing : Sharing Source Chunk Error} {index : Nat} {stream : PullStream Chunk Error}
      (found : sharing.streams[index]? = some stream) :
      Move sharing ⟨sharing.source, sharing.streams.set index (stream.poll none), sharing.served⟩
  | pollServed {sharing : Sharing Source Chunk Error} {index : Nat} {stream : PullStream Chunk Error}
      {delivery : Delivery Chunk Error} {after : Source}
      (found : sharing.streams[index]? = some stream) (starts : stream.starts = true)
      (gave : gives sharing.source delivery after) :
      Move sharing ⟨after, sharing.streams.set index (stream.poll (some delivery)),
        sharing.served ++ [(index, delivery)]⟩
  | serve {sharing : Sharing Source Chunk Error} {index pull : Nat}
      {stream next : PullStream Chunk Error} {delivery : Delivery Chunk Error} {after : Source}
      (found : sharing.streams[index]? = some stream)
      (finished : stream.finish pull delivery = some next)
      (gave : gives sharing.source delivery after) :
      Move sharing ⟨after, sharing.streams.set index next, sharing.served ++ [(index, delivery)]⟩

/-- The streams have what the source gave, each of them its own. -/
structure Divided (sharing : Sharing Source Chunk Error) : Prop where
  accounted : forall (index : Nat) (stream : PullStream Chunk Error),
    sharing.streams[index]? = some stream -> stream.Accounted
  own : forall (index : Nat) (stream : PullStream Chunk Error),
    sharing.streams[index]? = some stream -> stream.deliveries = sharing.given index
  known : ∀ entry ∈ sharing.served, entry.1 < sharing.streams.length

theorem divided_initial (source : Source) : Divided (initial source : Sharing Source Chunk Error) where
  accounted := by
    intro index stream found
    cases found
  own := by
    intro index stream found
    cases found
  known := by
    intro entry among
    cases among

theorem given_snoc (sharing : Sharing Source Chunk Error) (after : Source)
    (streams : List (PullStream Chunk Error)) (index other : Nat) (delivery : Delivery Chunk Error) :
    given ⟨after, streams, sharing.served ++ [(index, delivery)]⟩ other =
      sharing.given other ++ if index = other then [delivery] else [] := by
  unfold given
  rw [List.filter_append, List.map_append]
  by_cases same : index = other
  · rw [if_pos same, List.filter_cons_of_pos (by simpa using same)]
    rfl
  · rw [if_neg same, List.filter_cons_of_neg (by simpa using same)]
    rfl

variable {sharing next : Sharing Source Chunk Error}

/-- One stream changes, in what it was given too, and the others are as they were. -/
theorem Divided.change (divided : Divided sharing) {index : Nat} {stream changed : PullStream Chunk Error}
    (found : sharing.streams[index]? = some stream) (accounted : changed.Accounted)
    {after : Source} {served : List (Nat × Delivery Chunk Error)}
    (known : ∀ entry ∈ served, entry.1 < sharing.streams.length)
    (own : changed.deliveries = given ⟨after, sharing.streams.set index changed, served⟩ index)
    (others : forall other, other ≠ index ->
      given ⟨after, sharing.streams.set index changed, served⟩ other = sharing.given other) :
    Divided ⟨after, sharing.streams.set index changed, served⟩ := by
  refine ⟨?_, ?_, ?_⟩
  · intro other there found'
    rcases changed_cases found found' with ⟨rfl, rfl⟩ | ⟨-, same⟩
    · exact accounted
    · exact divided.accounted other there same
  · intro other there found'
    rcases changed_cases found found' with ⟨rfl, rfl⟩ | ⟨differ, same⟩
    · exact own
    · rw [others other differ]
      exact divided.own other there same
  · intro entry among
    rw [List.length_set]
    exact known entry among

theorem Divided.serve (divided : Divided sharing) {index : Nat} {stream changed : PullStream Chunk Error}
    (found : sharing.streams[index]? = some stream) (accounted : changed.Accounted)
    {delivery : Delivery Chunk Error} (more : changed.deliveries = stream.deliveries ++ [delivery])
    (after : Source) :
    Divided ⟨after, sharing.streams.set index changed, sharing.served ++ [(index, delivery)]⟩ := by
  refine divided.change found accounted ?_ ?_ ?_
  · intro entry among
    rcases List.mem_append.mp among with early | late
    · exact divided.known entry early
    · rw [List.mem_singleton.mp late]
      exact (List.getElem?_eq_some_iff.mp found).1
  · rw [given_snoc, if_pos rfl, more, divided.own index stream found]
  · intro other differ
    rw [given_snoc, if_neg (Ne.symm differ), List.append_nil]

theorem Divided.join (divided : Divided sharing) :
    Divided ⟨sharing.source, sharing.streams ++ [PullStream.initial], sharing.served⟩ := by
  refine ⟨?_, ?_, ?_⟩
  · intro other there found
    rcases started_cases found with early | ⟨-, rfl⟩
    · exact divided.accounted other there early
    · exact PullStream.accounted_initial
  · intro other there found
    rcases started_cases found with early | ⟨rfl, rfl⟩
    · exact divided.own other there early
    · -- nothing was given to a stream that was not there
      have nothing : sharing.served.filter (fun entry => entry.1 = sharing.streams.length) = [] := by
        rw [List.filter_eq_nil_iff]
        intro entry among
        have early := divided.known entry among
        simp only [decide_eq_true_eq]
        omega
      unfold given
      rw [nothing]
      rfl
  · intro entry among
    have early := divided.known entry among
    rw [List.length_append]
    omega

theorem Divided.move (divided : Divided sharing) (moved : Move gives sharing next) : Divided next := by
  cases moved with
  | join => exact divided.join
  | @poll index stream found =>
      have accounted := PullStream.accounted_poll (divided.accounted index stream found) none
      refine divided.change found accounted divided.known ?_ (fun other differ => rfl)
      rw [PullStream.deliveries_poll]
      exact divided.own index stream found
  | @pollServed index stream delivery after found starts gave =>
      have accounted := PullStream.accounted_poll (divided.accounted index stream found) (some delivery)
      exact divided.serve found accounted (PullStream.deliveries_poll_served starts delivery) after
  | @serve index pull stream changed delivery after found finished gave =>
      have accounted := divided.accounted index stream found
      exact divided.serve found (PullStream.accounted_finish accounted finished)
        (PullStream.deliveries_finish accounted finished) after

/-- What a stream was given is what it has handed on, but for the pull in flight. -/
theorem Divided.handed_on (divided : Divided sharing) {index : Nat} {stream : PullStream Chunk Error}
    (found : sharing.streams[index]? = some stream) :
    ∃ unseen : List Chunk, unseen.length <= 1 ∧
      (unseen ≠ [] -> ∀ entry ∈ stream.trace, ¬ entry.Ends) ∧
      (sharing.given index).filterMap (fun delivery => produced (some delivery)) =
        chunksOf stream.trace ++ unseen := by
  rcases (divided.accounted index stream found).delivered.exact with
    ⟨seen, unseen, pulls, few, goesOn, -, chunks⟩
  refine ⟨unseen.filterMap produced, Nat.le_trans (List.length_filterMap_le ..) few, ?_, ?_⟩
  · intro some
    refine goesOn ?_
    rintro rfl
    exact some rfl
  · rw [← divided.own index stream found, PullStream.deliveries, chunks, List.filterMap_filterMap,
      ← List.filterMap_append, ← pulls]
    refine List.filterMap_congr ?_
    intro pull _
    cases pull <;> rfl

end Sharing
end Foundations
