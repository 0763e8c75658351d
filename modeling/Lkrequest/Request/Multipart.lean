import Lkrequest.Request.Methods

namespace Lkrequest
namespace Request

open Foundations
open Session (UploadSource sessionClosed)

/-!
# What a rejected call leaves of a multipart form

The parts are moved out of the caller's `Multipart` before the body arguments
are counted, before a buffered method looks at the closed flag, and before the
future is submitted.  A call that one of these checks rejects has emptied the
form; a call rejected earlier has not.
-/

/-- A call of a method that takes `multipart=`. -/
inductive Call
  | post (args : RequestArgs)
  | put (args : RequestArgs)
  | patch (args : RequestArgs)
  | request (method : String) (args : RequestArgs)
  | sendStreaming (method : String) (args : StreamingArgs)

namespace Call

/-- The `Multipart` passed in. -/
def multipart : Call -> Option PyObject
  | .post args | .put args | .patch args | .request _ args => args.multipart
  | .sendStreaming _ args => args.multipart

/-- The other body arguments. -/
def body : Call -> PlainBody
  | .post args | .put args | .patch args | .request _ args => args.toPlainBody
  | .sendStreaming _ args => args.toPlainBody

/-- The call, up to the submission of the request. -/
def submit (library : Library) (session : Handle) (running : Bool) (flavour : Flavour)
    (url : String) : Call -> Op PreparedRequest
  | .post args => Request.post (flavour.make library session running) running url args
  | .put args => Request.put (flavour.make library session running) running url args
  | .patch args => Request.patch (flavour.make library session running) running url args
  | .request method args =>
      Request.request (flavour.make library session running) running library method url args
  | .sendStreaming method args =>
      Request.sendStreaming library session running (flavour.submit running) method url args

end Call

/-- `json.dumps` refuses `json=`, or `body_stream=` is unusable. -/
def PlainBody.Refused (running : Bool) (body : PlainBody) : Prop :=
  (∃ error, body.json = some (.error error)) ∨
    ∃ source error, body.bodyStream = some source ∧ source.extract running = .error error

/-- What is stored when the parts have been moved out. -/
def moved (multipart : Option PyObject) (store : Store) : Store :=
  match multipart with
  | some object => Function.update store object []
  | none => store

/-! ## What the parts of the pipeline do to the store -/

section Frames

variable {Value : Type}

theorem within_pure (value : Value) : Within Eq (pure value : Op Value) := fun _ => rfl

theorem within_throw (error : PyErr) : Within Eq (throw error : Op Value) := fun _ => rfl

theorem within_orRaise (result : Except PyErr Value) : Within Eq (orRaise result) := by
  cases result with
  | ok value => exact within_pure value
  | error error => exact within_throw error

theorem within_ensureOpen (session : Handle) : Within Eq (ensureOpen session) := by
  unfold ensureOpen
  split
  · exact within_throw sessionClosed
  · exact within_pure ()

theorem within_submit (flavour : Flavour) (running : Bool) (prepared : PreparedRequest) :
    Within Eq (flavour.submit running prepared) := by
  cases flavour with
  | session =>
      unfold Flavour.submit futureIntoPy
      split
      · exact within_pure prepared
      · exact within_throw noRunningLoop
  | blockingSession => exact within_pure prepared

/-- What a program leaves is what its second half leaves, if it gets there. -/
theorem after_bind_ok {First Second : Type} {first : Op First} {second : First -> Op Second}
    {store middle : Store} {value : First} (ran : first.run store = .ok value middle) :
    after (first >>= second) store = after (second value) middle := by
  unfold after
  rw [run_bind ran]

theorem after_bind_error {First Second : Type} {first : Op First} {second : First -> Op Second}
    {store middle : Store} {error : PyErr} (ran : first.run store = .error error middle) :
    after (first >>= second) store = middle := by
  unfold after
  rw [EStateM.run_bind, ran]

theorem run_orRaise_ok (value : Value) (store : Store) :
    (orRaise (.ok value)).run store = .ok value store := rfl

theorem run_orRaise_error (error : PyErr) (store : Store) :
    (orRaise (.error error : Except PyErr Value)).run store = .error error store := rfl

theorem run_extractMultipart (multipart : Option PyObject) (store : Store) :
    (extractMultipart multipart).run store = .ok (multipart.map store) (moved multipart store) := by
  cases multipart <;> rfl

end Frames

/-- Nothing after the move touches the store. -/
theorem within_make (library : Library) (session : Handle) (running : Bool) (flavour : Flavour)
    (method url headers params jsonBody formData rawBody cookies cookieOverrides timeout bearerAuth
      basicAuth multipart proxy noAutoDecompress acceptEncoding opts) :
    Within Eq (flavour.make library session running method url headers params jsonBody formData
      rawBody cookies cookieOverrides timeout bearerAuth basicAuth multipart proxy noAutoDecompress
      acceptEncoding opts) := by
  have prepares : Within Eq (prepare library session method url headers params jsonBody formData
      rawBody cookies cookieOverrides timeout bearerAuth basicAuth multipart proxy noAutoDecompress
      acceptEncoding opts) := by
    unfold prepare
    apply within_bind (within_orRaise _) _ Eq.trans
    intro checked
    apply within_bind (within_ensureOpen session) _ Eq.trans
    intro isOpen
    exact within_pure _
  cases flavour with
  | session =>
      unfold Flavour.make makeRequest
      apply within_bind prepares _ Eq.trans
      intro prepared
      exact within_submit .session running prepared
  | blockingSession => exact prepares

/-! ## When the parts are moved -/

/-- The conversions of a method, and what it does with their results. -/
def converting (running : Bool) (body : PlainBody) (multipart : Option PyObject)
    (rest : Option String -> Option UploadSource -> Option (List Part) -> Op PreparedRequest) :
    Op PreparedRequest := do
  let json <- orRaise (body.json.mapM id)
  let upload <- orRaise (body.bodyStream.mapM (StreamObject.extract running))
  let multipart <- extractMultipart multipart
  rest json upload multipart

section Converting

variable {running : Bool} {body : PlainBody} {multipart : Option PyObject}
  {rest : Option String -> Option UploadSource -> Option (List Part) -> Op PreparedRequest}

/-- Both conversions succeed when neither argument is refused. -/
theorem converted_of_accepted (accepted : ¬ body.Refused running) :
    ∃ json upload, body.json.mapM id = Except.ok json ∧
      body.bodyStream.mapM (StreamObject.extract running) = Except.ok upload := by
  have dumped : ∃ json, body.json.mapM id = Except.ok json := by
    cases given : body.json with
    | none => exact ⟨none, rfl⟩
    | some result =>
        cases result with
        | ok text => exact ⟨some text, rfl⟩
        | error error => exact absurd (Or.inl ⟨error, given⟩) accepted
  have classified : ∃ upload,
      body.bodyStream.mapM (StreamObject.extract running) = Except.ok upload := by
    cases given : body.bodyStream with
    | none => exact ⟨none, rfl⟩
    | some source =>
        cases result : source.extract running with
        | ok upload =>
            refine ⟨some upload, ?_⟩
            change (some <$> source.extract running) = _
            rw [result]
            rfl
        | error error => exact absurd (Or.inr ⟨source, error, given, result⟩) accepted
  rcases dumped with ⟨json, dumped⟩
  rcases classified with ⟨upload, classified⟩
  exact ⟨json, upload, dumped, classified⟩

/-- A refused argument ends the call before anything is moved. -/
theorem after_converting_refused (refused : body.Refused running) (store : Store) :
    after (converting running body multipart rest) store = store := by
  unfold converting
  cases dumped : body.json.mapM id with
  | error error => exact after_bind_error (run_orRaise_error error store)
  | ok json =>
      rw [after_bind_ok (run_orRaise_ok json store)]
      rcases refused with ⟨error, given⟩ | ⟨source, error, given, result⟩
      · rw [given] at dumped
        exact (nomatch dumped)
      · have failed : body.bodyStream.mapM (StreamObject.extract running) = Except.error error := by
          rw [given]
          change (some <$> source.extract running) = _
          rw [result]
          rfl
        rw [failed]
        exact after_bind_error (run_orRaise_error error store)

/-- Otherwise the parts have been moved, whatever the rest of the call says. -/
theorem after_converting_accepted (accepted : ¬ body.Refused running)
    (reads : forall json upload parts, Within Eq (rest json upload parts)) (store : Store) :
    after (converting running body multipart rest) store = moved multipart store := by
  rcases converted_of_accepted accepted with ⟨json, upload, dumped, classified⟩
  unfold converting
  rw [dumped, classified, after_bind_ok (run_orRaise_ok json store),
    after_bind_ok (run_orRaise_ok upload store),
    after_bind_ok (run_extractMultipart multipart store)]
  exact (reads _ _ _ _).symm

end Converting

/-- The call is over before the parts are moved: an argument is refused, or
`send_streaming` finds the session closed. -/
def Call.Early (session : Handle) (running : Bool) : Call -> Prop
  | .post args | .put args | .patch args | .request _ args => args.toPlainBody.Refused running
  | .sendStreaming _ args => session.state.closed = true ∨ args.toPlainBody.Refused running

section Submit

variable (library : Library) (session : Handle) (running : Bool) (flavour : Flavour) (url : String)

theorem after_sendBody_early (method : String) {args : RequestArgs}
    (early : args.toPlainBody.Refused running) (store : Store) :
    after (sendBody (flavour.make library session running) running method url args) store = store :=
  after_converting_refused early store

theorem after_sendBody_late (method : String) {args : RequestArgs}
    (late : ¬ args.toPlainBody.Refused running) (store : Store) :
    after (sendBody (flavour.make library session running) running method url args) store =
      moved args.multipart store := by
  apply after_converting_accepted late
  intro json upload parts
  apply within_make

theorem after_submit_early {call : Call} (early : call.Early session running) (store : Store) :
    after (call.submit library session running flavour url) store = store := by
  cases call with
  | post args => exact after_sendBody_early library session running flavour url _ early store
  | put args => exact after_sendBody_early library session running flavour url _ early store
  | patch args => exact after_sendBody_early library session running flavour url _ early store
  | request method args => exact after_sendBody_early library session running flavour url _ early store
  | sendStreaming method args =>
      change after (ensureOpen session >>= fun _ => converting running args.toPlainBody args.multipart _)
        store = store
      by_cases closed : session.state.closed = true
      · have raises : (ensureOpen session).run store = .error sessionClosed store := by
          unfold ensureOpen
          rw [if_pos closed]
          rfl
        exact after_bind_error raises
      · rw [after_bind_ok (run_ensureOpen (Bool.of_not_eq_true closed) store)]
        rcases early with isClosed | refused
        · exact absurd isClosed closed
        · exact after_converting_refused refused store

theorem after_submit_late {call : Call} (late : ¬ call.Early session running) (store : Store) :
    after (call.submit library session running flavour url) store = moved call.multipart store := by
  cases call with
  | post args => exact after_sendBody_late library session running flavour url _ late store
  | put args => exact after_sendBody_late library session running flavour url _ late store
  | patch args => exact after_sendBody_late library session running flavour url _ late store
  | request method args => exact after_sendBody_late library session running flavour url _ late store
  | sendStreaming method args =>
      rcases not_or.mp late with ⟨isOpen, accepted⟩
      change after (ensureOpen session >>= fun _ => converting running args.toPlainBody args.multipart _)
        store = _
      rw [after_bind_ok (run_ensureOpen (Bool.of_not_eq_true isOpen) store)]
      apply after_converting_accepted accepted
      intro json upload parts
      apply within_bind (within_orRaise _) _ Eq.trans
      intro checked
      exact within_submit flavour running _

/-- The call leaves the form it was given as it was exactly if it ends before
the move, or has nothing to move. -/
theorem multipart_kept_iff (call : Call) (store : Store) :
    (forall object, call.multipart = some object ->
        after (call.submit library session running flavour url) store object = store object) <->
      call.Early session running ∨ forall object, call.multipart = some object -> store object = [] := by
  by_cases early : call.Early session running
  · rw [after_submit_early library session running flavour url early]
    exact iff_of_true (fun _ _ => rfl) (Or.inl early)
  · rw [after_submit_late library session running flavour url early]
    constructor
    · intro kept
      right
      intro object given
      have emptied := kept object given
      rw [given] at emptied
      exact emptied.symm.trans (Function.update_self ..)
    · rintro (before | nothing)
      · exact absurd before early
      · intro object given
        rw [given, nothing object given]
        exact Function.update_self ..

/-- A call that raises leaves the caller's `Multipart` as it was exactly if a
refused argument, or for `send_streaming` a closed session, ended it, or the
`Multipart` was empty or not given. -/
theorem rejected_call_keeps_multipart_iff {call : Call} {store left : Store} {error : PyErr}
    (raised : (call.submit library session running flavour url).run store = .error error left) :
    (forall object, call.multipart = some object -> left object = store object) <->
      call.Early session running ∨ forall object, call.multipart = some object -> store object = [] := by
  have leaves : after (call.submit library session running flavour url) store = left := by
    unfold after
    rw [raised]
  rw [← leaves]
  exact multipart_kept_iff library session running flavour url call store

end Submit

/-- One form with one part. -/
def oneForm : Store := fun _ => [.text "name" "value"]

/-- `post(url, multipart=form)`. -/
def formArgs : RequestArgs :=
  { HeadArgs.empty.toGetArgs.toDeleteArgs.toRequestArgs with multipart := some 0 }

def openHandle : Handle := ⟨.default, none⟩

/-- `post(url, json={}, multipart=form)` is rejected, and the form is empty. -/
theorem conflicting_post_empties_multipart :
    ∃ error left,
      ((Call.post { formArgs with json := some (.ok "{}") }).submit .ascii openHandle true .session
        "u").run oneForm = .error error left ∧ left 0 = [] ∧ oneForm 0 ≠ [] :=
  ⟨_, _, rfl, rfl, by decide⟩

/-- A value that `json.dumps` refuses is noticed before the form is touched. -/
theorem refused_json_keeps_multipart :
    ∃ left,
      ((Call.post { formArgs with json := some (.error (.typeError "")) }).submit .ascii openHandle
        true .session "u").run oneForm = .error (.typeError "") left ∧ left 0 = oneForm 0 := by
  refine ⟨oneForm, rfl, ?_⟩
  have kept := rejected_call_keeps_multipart_iff .ascii openHandle true .session "u"
    (show ((Call.post { formArgs with json := some (.error (.typeError "")) }).submit .ascii
      openHandle true .session "u").run oneForm = .error (.typeError "") oneForm from rfl)
  exact kept.mpr (Or.inl (Or.inl ⟨_, rfl⟩)) 0 rfl

end Request
end Lkrequest
