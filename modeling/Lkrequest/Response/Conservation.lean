import Lkrequest.Response.Consumption

namespace Lkrequest
namespace Response

open Foundations

/-!
# What is lost of a streamed body

As long as upstream does not fail, what was returned and what can still be read
is the body, but for a `text(encoding)` whose codec raises: it has taken the
stream and read it to the end before the codec is looked at.
-/

section Conservation

variable {Error Encoding : Type} {takes : Entry Error -> Bool} {body : Source Error}
variable {log : List (Entry Error)} {after : Option (Source Error)}

/-! ## What the operations leave -/

/-- Nothing is lost when no operation has lost the stream that it took. -/
theorem Ordered.conserved (ordered : Ordered takes (some body) log after)
    (delivers : ∀ entry ∈ log, takes entry = true -> forall error, entry.served ≠ .failed error) :
    body.content = log.flatMap (fun entry => entry.served.data) ++ readable after := by
  generalize begins : some body = slot at ordered
  induction ordered generalizing body with
  | nil slot =>
      subst begins
      rfl
  | @cons slot next after entry log served later ih =>
      subst begins
      rw [List.forall_mem_cons] at delivers
      rw [List.flatMap_cons, List.append_assoc]
      cases next with
      | some stream => rw [← ih delivers.2 rfl, (content_of_serve served).2]
      | none =>
          have nothing : log.flatMap (fun entry => entry.served.data) = [] := by
            rw [List.flatMap_eq_nil_iff]
            intro other among
            rw [later.refused.2 other among]
            rfl
          rw [nothing, ← later.refused.1]
          change body.content = entry.served.data ++ []
          rw [List.append_nil]
          cases kind : takes entry with
          | true =>
              rw [kind] at served
              rcases serve_takes body with ⟨got, takesIt, whole⟩
              have own : entry.served = got := congrArg Prod.fst (served.symm.trans takesIt)
              rcases whole with rfl | ⟨error, _, rfl⟩
              · rw [own]
                rfl
              · exact absurd own (delivers.1 kind error)
          | false =>
              rw [kind] at served
              rcases serve_borrows body with ⟨rfl, finds⟩ | ⟨got, rest, reads, _, _⟩
              · have own : entry.served = .ended := congrArg Prod.fst (served.symm.trans finds)
                rw [own]
                rfl
              · exact (nomatch congrArg Prod.snd (served.symm.trans reads))

/-- The stream is there until an operation sees its end or takes it. -/
theorem Ordered.gone (ordered : Ordered takes (some body) log none) :
    ∃ entry ∈ log, entry.served = .ended ∨ takes entry = true ∧ entry.served ≠ .refused := by
  generalize begins : some body = slot at ordered
  generalize ends : none = after at ordered
  induction ordered generalizing body with
  | nil slot => exact (nomatch begins.trans ends.symm)
  | @cons slot next after entry log served later ih =>
      subst begins
      cases next with
      | some stream =>
          rcases ih rfl ends with ⟨other, among, closes⟩
          exact ⟨other, List.mem_cons_of_mem _ among, closes⟩
      | none =>
          refine ⟨entry, List.mem_cons_self, ?_⟩
          cases kind : takes entry with
          | true =>
              rw [kind] at served
              rcases serve_takes body with ⟨got, takesIt, whole⟩
              have own : entry.served = got := congrArg Prod.fst (served.symm.trans takesIt)
              refine Or.inr ⟨rfl, ?_⟩
              rw [own]
              rcases whole with rfl | ⟨error, _, rfl⟩
              · exact nofun
              · exact nofun
          | false =>
              rw [kind] at served
              rcases serve_borrows body with ⟨_, finds⟩ | ⟨got, rest, reads, _, _⟩
              · exact Or.inl (congrArg Prod.fst (served.symm.trans finds))
              · exact (nomatch congrArg Prod.snd (served.symm.trans reads))

theorem Ordered.not_ended {rest : Source Error} (ordered : Ordered takes (some body) log (some rest))
    {entry : Entry Error} (among : entry ∈ log) : entry.served ≠ .ended := by
  intro ended
  rcases List.append_of_mem among with ⟨early, late, rfl⟩
  rcases ordered.around with ⟨before, next, _, served, later⟩
  rw [serve_closes served (Or.inl ended)] at later
  exact (nomatch later.refused.1)

/-! ## The contract -/

section Contract

variable (codecs : Codecs Encoding) (headers : HeaderList) (toPyErr : Error -> PyErr) (api : Api)

/-- Bytes are returned or can be read, and the stream is gone only after its
end, after a `bytes()` or `text()` that returned, or after a failure of upstream. -/
structure Conserves (body : Source Error) (state : State Error) : Prop where
  whole : (∀ entry ∈ state.log, entry.operation.takes = true -> forall error, entry.served ≠ .failed error) ->
    state.log.flatMap (Entry.delivered toPyErr (api.method codecs headers)) ++ readable state.view =
      body.content
  left : state.view = none -> ∃ entry ∈ state.log, entry.served = .ended ∨
    entry.operation.takes = true ∧
      ((∃ value, entry.result toPyErr (api.method codecs headers) = .ok value) ∨
        ∃ error, entry.served = .failed error)

/-- A `text(encoding)` has read all that is left, and its codec raises. -/
def Running.codecRaises : Running Error -> Bool
  | ⟨.text (some codec), .reading stream⟩ =>
      match stream.bytes with
      | .error _ => false
      | .ok data =>
          match codecs.pyDecode data codec with
          | .error _ => true
          | .ok _ => false
  | _ => false

/-- With this event the `text(encoding)` goes on to its codec. -/
def State.codecRaises (state : State Error) : Event -> Bool
  | .finish index => (state.operations[index]?).any (Running.codecRaises codecs)
  | _ => false

/-- No operation has lost what it read. -/
def Kept (state : State Error) : Prop :=
  ∀ entry ∈ state.log, entry.operation.takes = true -> forall data, entry.served = .read data ->
    ∃ value, entry.result toPyErr (api.method codecs headers) = .ok value

end Contract

variable {codecs : Codecs Encoding} {headers : HeaderList} {toPyErr : Error -> PyErr} {api : Api}
variable {state next : State Error} {event : Event}

theorem Kept.conserves (kept : Kept codecs headers toPyErr api state)
    (sound : Sound toPyErr (api.method codecs headers) api body state) :
    Conserves codecs headers toPyErr api body state where
  whole := by
    intro delivers
    have all := sound.ordered.conserved (fun entry among isTake =>
      delivers entry among ((isTake_method entry.operation).symm.trans isTake))
    have same : state.log.flatMap (Entry.delivered toPyErr (api.method codecs headers)) =
        state.log.flatMap (fun entry => entry.served.data) := by
      apply List.flatMap_congr
      intro entry among
      rcases entry.delivered_cases codecs headers toPyErr api with same | ⟨isTake, _⟩
      · exact same
      · have takes := (isTake_method entry.operation).symm.trans isTake
        cases got : entry.served with
        | read data =>
            rcases kept entry among takes data got with ⟨value, returned⟩
            rw [Entry.delivered_of_ok returned, got]
        | _ =>
            have unread : forall data, entry.served ≠ .read data := by
              rw [got]
              exact nofun
            exact got ▸ entry.delivered_of_unread codecs headers toPyErr api unread
    rw [same, all]
  left := by
    intro gone
    have ordered := sound.ordered
    rw [gone] at ordered
    rcases ordered.gone with ⟨entry, among, ended | ⟨isTake, got⟩⟩
    · exact ⟨entry, among, Or.inl ended⟩
    · have takes := (isTake_method entry.operation).symm.trans isTake
      cases served : entry.served with
      | refused => exact absurd served got
      | ended => exact ⟨entry, among, Or.inl served⟩
      | read data => exact ⟨entry, among, Or.inr ⟨takes, Or.inl (kept entry among takes data served)⟩⟩
      | failed error => exact ⟨entry, among, Or.inr ⟨takes, Or.inr ⟨error, served⟩⟩⟩

/-! ## The steps that lose something -/

theorem Running.codecRaises_inversion {running : Running Error}
    (raises : running.codecRaises codecs = true) :
    ∃ codec stream data, running = ⟨.text (some codec), .reading stream⟩ ∧ stream.bytes = .ok data := by
  unfold Running.codecRaises at raises
  split at raises
  case h_2 => exact Bool.noConfusion raises
  case h_1 codec stream =>
    split at raises
    case h_1 => exact Bool.noConfusion raises
    case h_2 data read => exact ⟨codec, stream, data, rfl, read⟩

theorem codecRaises_iff {index : Nat} {running : Running Error} {stream : Source Error} {data : Bytes}
    (found : state.operations[index]? = some running) (stands : running.stage = .reading stream)
    (read : stream.bytes = .ok data) (takes : running.operation.takes = true) :
    state.codecRaises codecs (.finish index) = true <->
      ∃ error, (api.method codecs headers running.operation).result toPyErr (.read data) = .error error := by
  change (state.operations[index]?).any _ = true <-> _
  rw [found, Option.any_some]
  rcases running with ⟨operation, stage⟩
  cases stands
  cases operation with
  | chunk => exact (nomatch takes)
  | next => exact (nomatch takes)
  | bytes =>
      have returns : (api.method codecs headers .bytes).result toPyErr (.read data) = .ok (.bytes data) := by
        cases api <;> rfl
      rw [returns]
      simp [Running.codecRaises]
  | text encoding =>
      have converts : (api.method codecs headers (.text encoding)).result toPyErr (.read data) =
          convertText codecs headers encoding data := by cases api <;> rfl
      rw [converts]
      unfold convertText Running.codecRaises
      cases encoding with
      | none => simp [decodeText, Except.map]
      | some codec =>
          dsimp only [decodeText, decodeWithCodec]
          rw [read]
          dsimp only
          cases codecs.pyDecode data codec <;> simp [Except.map]

/-- What `Conserves` is kept by. -/
structure Keeps (codecs : Codecs Encoding) (headers : HeaderList) (toPyErr : Error -> PyErr) (api : Api)
    (body : Source Error) (state : State Error) : Prop where
  sound : Sound toPyErr (api.method codecs headers) api body state
  kept : Kept codecs headers toPyErr api state

theorem keeps_initial (body : Source Error) :
    Keeps codecs headers toPyErr api body (State.initial body) where
  sound := sound_initial body
  kept := fun _ among => absurd among List.not_mem_nil

theorem Keeps.step (keeps : Keeps codecs headers toPyErr api body state)
    (decodes : state.codecRaises codecs event = false)
    (stepped : state.step toPyErr (api.method codecs headers) api event = some next) :
    Keeps codecs headers toPyErr api body next := by
  refine ⟨keeps.sound.step stepped, ?_⟩
  have grows : forall {index : Nat} {operation : Operation} {served : Served Error},
      (operation.takes = true -> forall data, served = .read data ->
        ∃ value, (api.method codecs headers operation).result toPyErr served = .ok value) ->
      ∀ entry ∈ state.log ++ [⟨index, operation, served⟩], entry.operation.takes = true ->
        forall data, entry.served = .read data ->
          ∃ value, entry.result toPyErr (api.method codecs headers) = .ok value := by
    intro index operation served returns entry among
    rcases List.mem_append.mp among with earlier | last
    · exact keeps.kept entry earlier
    · rw [List.mem_singleton.mp last]
      exact returns
  cases step_steps stepped with
  | start operation => exact keeps.kept
  | change index running event stage slot locked served found change =>
      have takes_iff : (api.method codecs headers running.operation).isTake = running.operation.takes :=
        isTake_method running.operation
      have story := keeps.sound.told.story index running found
      generalize stands : running.stage = before at change story
      cases change with
      | refuse free empty => exact grows (fun _ _ read => nomatch read)
      | chunk stream there served left serves =>
          refine grows (fun takes _ _ => ?_)
          exact (nomatch (story.borrows.symm.trans takes_iff).trans takes)
      | bytes stream served serves =>
          refine grows (fun takes data read => ?_)
          rw [read] at serves
          have raises : state.codecRaises codecs (.finish index) = true <->
              ∃ error, (api.method codecs headers running.operation).result toPyErr (.read data) =
                .error error := codecRaises_iff found stands (bytes_of_serve serves) takes
          rw [read]
          cases returned : (api.method codecs headers running.operation).result toPyErr (.read data) with
          | ok value => exact ⟨value, rfl⟩
          | error error => exact (nomatch decodes.symm.trans (raises.mpr ⟨error, returned⟩))
      | _ =>
          change ∀ entry ∈ state.log ++ [], _
          rw [List.append_nil]
          exact keeps.kept

/-- After a codec has raised, the stream is gone and nobody has its bytes. -/
theorem Keeps.breaks (keeps : Keeps codecs headers toPyErr api body state)
    (raises : state.codecRaises codecs event = true)
    (stepped : state.step toPyErr (api.method codecs headers) api event = some next) :
    ¬ Conserves codecs headers toPyErr api body next := by
  cases event with
  | finish index =>
      rcases (Option.any_eq_true _ _).mp raises with ⟨running, found, isRaise⟩
      rcases Running.codecRaises_inversion isRaise with ⟨codec, stream, data, rfl, read⟩
      have lost : ∃ error, (api.method codecs headers (.text (some codec))).result toPyErr (.read data) =
          .error error := (codecRaises_iff found rfl read rfl).mp raises
      have finished : next = state.settle toPyErr (api.method codecs headers) api index
          ⟨.text (some codec), .reading stream⟩ (.read data) := by
        change (state.operations[index]?).bind _ = _ at stepped
        rw [found] at stepped
        change state.finish toPyErr (api.method codecs headers) api index
          ⟨.text (some codec), .reading stream⟩ = _ at stepped
        unfold State.finish at stepped
        dsimp only at stepped
        rw [read] at stepped
        exact (Option.some.inj stepped).symm
      have holder : state.locked = some index := (keeps.sound.locked index).mpr ⟨_, found, rfl⟩
      have ordered := keeps.sound.ordered
      rw [view_held found holder] at ordered
      have empty : state.slot = none := keeps.sound.taken index _ found (fun same => by cases same)
      have gone : next.view = none := by
        rw [finished, settle_eq state.slot (.read data), view_free rfl]
        exact empty
      have logged : next.log = state.log ++ [⟨index, .text (some codec), .read data⟩] := by
        rw [finished]
        rfl
      intro conserves
      rcases conserves.left gone with ⟨entry, among, closes⟩
      rw [logged] at among
      rcases List.mem_append.mp among with earlier | last
      · rcases closes with ended | ⟨takes, _⟩
        · exact ordered.not_ended earlier ended
        · have borrows := ordered.borrowed entry earlier
          exact Bool.noConfusion ((borrows.symm.trans (isTake_method entry.operation)).trans takes)
      · rw [List.mem_singleton.mp last] at closes
        rcases closes with ended | ⟨_, ⟨value, returned⟩ | ⟨error, failed⟩⟩
        · cases ended
        · rcases lost with ⟨error, raised⟩
          cases raised.symm.trans returned
        · cases failed
  | _ => cases raises

/-- In a run nothing is lost of the body but by upstream, in every state that is
reached, if and only if no `text(encoding)` that has got the stream has a codec
that raises. -/
theorem streamed_body_is_conserved_iff {events : List Event}
    (ran : (streaming codecs headers toPyErr api).run (.initial body) events = some state) :
    (streaming codecs headers toPyErr api).Along (fun state event => state.codecRaises codecs event = false)
        (.initial body) events <->
      forall early late middle, events = early ++ late ->
        (streaming codecs headers toPyErr api).run (.initial body) early = some middle ->
          Conserves codecs headers toPyErr api body middle :=
  (streaming codecs headers toPyErr api).along_iff_holds
    (fun state event => state.codecRaises codecs event = false) (Keeps codecs headers toPyErr api body)
    (Conserves codecs headers toPyErr api body)
    (fun _ keeps => keeps.kept.conserves keeps.sound)
    (fun _ _ _ keeps decodes stepped => keeps.step decodes stepped)
    (fun _ _ _ keeps raises stepped => keeps.breaks (eq_true_of_ne_false raises) stepped)
    (keeps_initial body) ran

end Conservation

/-- A codec that Python does not know, and `bytes()` after it. -/
def bytesAfterUnknownCodec : List Event :=
  [.start (.text (some "latin1x")), .acquire 0, .finish 0, .start .bytes, .acquire 1]

/-- The `text()` fails, and the body is lost. -/
theorem unknown_codec_loses_body :
    ∃ state, (streaming exampleCodecs [] PyErr.runtimeError .async).run
        (.initial [.ok [72, 105]]) bytesAfterUnknownCodec = some state ∧
      state.operations =
        [⟨.text (some "latin1x"), .returned (.error (.lookupError "unknown encoding: latin1x"))⟩,
          ⟨.bytes, .returned (.error consumed)⟩] ∧
      ¬ Conserves exampleCodecs [] PyErr.runtimeError .async [.ok [72, 105]] state := by
  have ran : ((streaming exampleCodecs [] PyErr.runtimeError .async).run
      (.initial [.ok [72, 105]]) bytesAfterUnknownCodec).map (fun state =>
        (state.operations, state.log, state.view.isNone)) =
      some ([⟨.text (some "latin1x"), .returned (.error (.lookupError "unknown encoding: latin1x"))⟩,
          ⟨.bytes, .returned (.error consumed)⟩],
        [⟨0, .text (some "latin1x"), .read [72, 105]⟩, ⟨1, .bytes, .refused⟩], true) := by
    decide +kernel
  rcases Option.map_eq_some_iff.mp ran with ⟨state, ran, facts⟩
  simp only [Prod.mk.injEq] at facts
  rcases facts with ⟨operations, log, view⟩
  refine ⟨state, ran, operations, fun conserves => ?_⟩
  have whole := conserves.whole (by simp [log])
  rw [log, Option.isNone_iff_eq_none.mp view] at whole
  exact absurd whole (by decide)

/-- The first chunk, and then `text("latin-1")`. -/
def chunkThenText : List Event :=
  [.start .chunk, .start (.text (some "latin-1")), .acquire 0, .finish 0, .acquire 1, .finish 1, .convert 0,
    .convert 1]

theorem known_codec_conserves :
    ∃ state, (streaming exampleCodecs [] PyErr.runtimeError .blocking).run
        (.initial [.ok [72], .ok [105]]) chunkThenText = some state ∧
      state.operations = [⟨.chunk, .returned (.ok (.bytes [72]))⟩,
        ⟨.text (some "latin-1"), .returned (.ok (.str ⟨[105]⟩))⟩] ∧
      forall early late middle, chunkThenText = early ++ late ->
        (streaming exampleCodecs [] PyErr.runtimeError .blocking).run
            (.initial [.ok [72], .ok [105]]) early = some middle ->
          Conserves exampleCodecs [] PyErr.runtimeError .blocking [.ok [72], .ok [105]] middle := by
  have ran : ((streaming exampleCodecs [] PyErr.runtimeError .blocking).run
      (.initial [.ok [72], .ok [105]]) chunkThenText).map State.operations =
        some [⟨.chunk, .returned (.ok (.bytes [72]))⟩,
          ⟨.text (some "latin-1"), .returned (.ok (.str ⟨[105]⟩))⟩] := by
    decide +kernel
  rcases Option.map_eq_some_iff.mp ran with ⟨state, ran, operations⟩
  refine ⟨state, ran, operations, (streamed_body_is_conserved_iff ran).mp ?_⟩
  decide +kernel

end Response
end Lkrequest
