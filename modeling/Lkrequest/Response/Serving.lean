import Lkrequest.Response.Streaming

namespace Lkrequest
namespace Response

/-!
# Reading a stream, one operation after the other

What operations get of a stream that they read one after the other: the stream
as the operations are to see it, without a slot and a mutex.
-/

section Serving

variable {Error : Type}

/-! ## The operations in order -/

/-- What one operation gets of the stream, if there is one, and what it leaves.
An operation that takes the stream leaves none. -/
def serve (takes : Bool) : Option (Source Error) -> Served Error × Option (Source Error)
  | none => (.refused, none)
  | some stream =>
      if takes then
        match stream.bytes with
        | .ok data => (.read data, none)
        | .error error => (.failed error, none)
      else
        match stream.chunk with
        | (.ok (some chunk), rest) => (.read chunk, some rest)
        | (.ok none, _) => (.ended, none)
        | (.error error, rest) => (.failed error, some rest)

theorem serve_read {stream : Source Error} {data : Bytes} (read : stream.bytes = .ok data) :
    serve true (some stream) = (.read data, none) := by
  simp only [serve, read, if_true]

theorem serve_failed {stream : Source Error} {error : Error} (read : stream.bytes = .error error) :
    serve true (some stream) = (.failed error, none) := by
  simp only [serve, read, if_true]

/-- The log is what the operations get of the slot one after the other, and
this is what they leave. -/
inductive Ordered (takes : Entry Error -> Bool) :
    Option (Source Error) -> List (Entry Error) -> Option (Source Error) -> Prop
  | nil (slot : Option (Source Error)) : Ordered takes slot [] slot
  | cons {slot next after : Option (Source Error)} {entry : Entry Error} {log : List (Entry Error)}
      (served : serve (takes entry) slot = (entry.served, next)) (later : Ordered takes next log after) :
      Ordered takes slot (entry :: log) after

variable {takes : Entry Error -> Bool} {slot middle after : Option (Source Error)}
variable {log late : List (Entry Error)}

theorem Ordered.append (ordered : Ordered takes slot log middle) (later : Ordered takes middle late after) :
    Ordered takes slot (log ++ late) after := by
  induction ordered with
  | nil slot => exact later
  | cons served _ ih => exact .cons served (ih later)

theorem Ordered.snoc (ordered : Ordered takes slot log after) (entry : Entry Error)
    {next : Option (Source Error)} (served : serve (takes entry) after = (entry.served, next)) :
    Ordered takes slot (log ++ [entry]) next :=
  ordered.append (.cons served (.nil next))

theorem Ordered.split {early : List (Entry Error)} (ordered : Ordered takes slot (early ++ late) after) :
    ∃ middle, Ordered takes slot early middle ∧ Ordered takes middle late after := by
  induction early generalizing slot with
  | nil => exact ⟨slot, .nil slot, ordered⟩
  | cons entry rest ih =>
      cases ordered with
      | cons served later =>
          rcases ih later with ⟨middle, begins, ends⟩
          exact ⟨middle, .cons served begins, ends⟩

/-- Where there is no stream, operations are refused. -/
theorem Ordered.refused (ordered : Ordered takes none log after) :
    none = after ∧ ∀ entry ∈ log, entry.served = .refused := by
  generalize nothing : none = slot at ordered
  induction ordered with
  | nil slot =>
      subst nothing
      exact ⟨rfl, fun _ among => absurd among List.not_mem_nil⟩
  | cons served _ ih =>
      subst nothing
      rcases Prod.mk.inj served with ⟨refused, nothing⟩
      rcases ih nothing with ⟨left, all⟩
      exact ⟨nothing.trans left, List.forall_mem_cons.mpr ⟨refused.symm, all⟩⟩

/-- What operations get is determined by their order. -/
theorem Ordered.deterministic {others : List (Entry Error)} {takes' : Entry Error -> Bool}
    {after' : Option (Source Error)} (ordered : Ordered takes slot log after)
    (ordered' : Ordered takes' slot others after') (same : log.map takes = others.map takes') :
    log.map Entry.served = others.map Entry.served ∧ after = after' := by
  induction ordered generalizing others with
  | nil slot =>
      cases ordered' with
      | nil => exact ⟨rfl, rfl⟩
      | cons _ _ => exact (nomatch same)
  | cons served _ ih =>
      cases ordered' with
      | nil => exact (nomatch same)
      | cons served' later' =>
          rcases List.cons.inj same with ⟨alike, others⟩
          rw [alike, served'] at served
          rcases Prod.mk.inj served with ⟨now, next⟩
          subst next
          rcases ih later' others with ⟨rest, left⟩
          exact ⟨congrArg₂ List.cons now.symm rest, left⟩

/-! ## What is read -/

/-- The bytes that a stream still delivers. -/
def Source.content : Source Error -> Bytes
  | [] => []
  | .ok chunk :: rest => chunk ++ content rest
  | .error _ :: rest => content rest

/-- The bytes that an operation got. -/
def Served.data : Served Error -> Bytes
  | .read data => data
  | _ => []

/-- The bytes that can still be read. -/
def readable : Option (Source Error) -> Bytes
  | none => []
  | some stream => stream.content

theorem Source.bytes_ok {stream : Source Error} {data : Bytes} (read : stream.bytes = .ok data) :
    data = stream.content := by
  induction stream generalizing data with
  | nil => exact (Except.ok.inj read).symm
  | cons item rest ih =>
      cases item with
      | error error => exact (nomatch read)
      | ok chunk =>
          unfold Source.bytes at read
          cases later : Source.bytes rest with
          | error error =>
              rw [later] at read
              exact (nomatch read)
          | ok back =>
              rw [later] at read
              rw [← Except.ok.inj read, ih later]
              rfl

/-- Taking the stream reads all of it, or loses it. -/
theorem serve_takes (stream : Source Error) :
    ∃ served, serve true (some stream) = (served, none) ∧
      (served = .read stream.content ∨ ∃ error, stream.bytes = .error error ∧ served = .failed error) := by
  have takes : serve true (some stream) = match stream.bytes with
      | .ok data => (.read data, none)
      | .error error => (.failed error, none) := rfl
  rw [takes]
  cases read : stream.bytes with
  | ok data => exact ⟨.read data, rfl, Or.inl (congrArg Served.read (Source.bytes_ok read))⟩
  | error error => exact ⟨.failed error, rfl, Or.inr ⟨error, rfl, rfl⟩⟩

theorem bytes_of_serve {stream : Source Error} {data : Bytes} {next : Option (Source Error)}
    (serves : serve true (some stream) = (.read data, next)) : stream.bytes = .ok data := by
  have takes : serve true (some stream) = match stream.bytes with
      | .ok data => (.read data, none)
      | .error error => (.failed error, none) := rfl
  rw [takes] at serves
  cases read : stream.bytes with
  | ok all =>
      rw [read] at serves
      exact congrArg _ (Served.read.inj (congrArg Prod.fst serves))
  | error error =>
      rw [read] at serves
      exact (nomatch congrArg Prod.fst serves)

/-- Borrowing the stream reads a chunk off it, or finds its end. -/
theorem serve_borrows (stream : Source Error) :
    stream = [] ∧ serve false (some stream) = (.ended, none) ∨
    ∃ served rest, serve false (some stream) = (served, some rest) ∧ served ≠ .ended ∧
      stream.content = served.data ++ rest.content := by
  cases stream with
  | nil => exact Or.inl ⟨rfl, rfl⟩
  | cons item rest =>
      cases item with
      | ok chunk => exact Or.inr ⟨.read chunk, rest, rfl, nofun, rfl⟩
      | error error => exact Or.inr ⟨.failed error, rest, rfl, nofun, rfl⟩

/-- A stream that is left was borrowed, and what was read came off it. -/
theorem content_of_serve {isTake : Bool} {stream rest : Source Error} {served : Served Error}
    (serves : serve isTake (some stream) = (served, some rest)) :
    isTake = false ∧ stream.content = served.data ++ rest.content := by
  cases isTake with
  | true =>
      rcases serve_takes stream with ⟨_, takesIt, _⟩
      exact (nomatch congrArg Prod.snd (serves.symm.trans takesIt))
  | false =>
      rcases serve_borrows stream with ⟨_, finds⟩ | ⟨got, left, reads, _, parts⟩
      · exact (nomatch congrArg Prod.snd (serves.symm.trans finds))
      · rcases Prod.mk.inj (serves.symm.trans reads) with ⟨same, leaves⟩
        rw [same, Option.some.inj leaves]
        exact ⟨rfl, parts⟩

/-- What an operation that leaves no stream got is all there was, or nothing. -/
theorem data_of_serve {isTake : Bool} {stream : Source Error} {served : Served Error}
    (serves : serve isTake (some stream) = (served, none)) :
    served.data = stream.content ∨ served.data = [] := by
  cases isTake with
  | true =>
      rcases serve_takes stream with ⟨got, takesIt, rfl | ⟨error, _, rfl⟩⟩
      · exact Or.inl (congrArg (Served.data ∘ Prod.fst) (serves.symm.trans takesIt))
      · exact Or.inr (congrArg (Served.data ∘ Prod.fst) (serves.symm.trans takesIt))
  | false =>
      rcases serve_borrows stream with ⟨_, finds⟩ | ⟨got, left, reads, _, _⟩
      · exact Or.inr (congrArg (Served.data ∘ Prod.fst) (serves.symm.trans finds))
      · exact (nomatch congrArg Prod.snd (serves.symm.trans reads))

/-- As long as there is a stream, what was read and what can be read is the body. -/
theorem Ordered.content {body rest : Source Error} (ordered : Ordered takes (some body) log (some rest)) :
    body.content = log.flatMap (fun entry => entry.served.data) ++ rest.content := by
  generalize begins : some body = slot at ordered
  generalize ends : some rest = after at ordered
  induction ordered generalizing body with
  | nil slot =>
      cases begins.trans ends.symm
      rfl
  | @cons slot next after entry log served later ih =>
      subst begins
      cases next with
      | none => exact (nomatch later.refused.1.trans ends.symm)
      | some stream =>
          rw [List.flatMap_cons, List.append_assoc, ← ih rfl ends]
          exact (content_of_serve served).2

/-- What is handed on of the data is a prefix of the body, when only what was
read by taking the stream can be lost. -/
theorem Ordered.prefix_content {body : Source Error} (ordered : Ordered takes (some body) log after)
    (delivered : Entry Error -> Bytes)
    (delivers : ∀ entry ∈ log, delivered entry = entry.served.data ∨
      takes entry = true ∧ delivered entry = []) :
    log.flatMap delivered <+: body.content := by
  generalize begins : some body = slot at ordered
  induction ordered generalizing body with
  | nil slot => exact List.nil_prefix
  | @cons slot next after entry log served later ih =>
      subst begins
      rw [List.forall_mem_cons] at delivers
      rw [List.flatMap_cons]
      cases next with
      | some stream =>
          rcases content_of_serve served with ⟨borrows, parts⟩
          have all : delivered entry = entry.served.data := by
            rcases delivers.1 with all | ⟨takesIt, _⟩
            · exact all
            · exact (nomatch takesIt.symm.trans borrows)
          rw [all, parts, List.prefix_append_right_inj]
          exact ih delivers.2 rfl
      | none =>
          have nothing : log.flatMap delivered = [] := by
            rw [List.flatMap_eq_nil_iff]
            intro other among
            have refused := later.refused.2 other among
            rcases delivers.2 other among with all | ⟨_, lost⟩
            · rw [all, refused]
              rfl
            · exact lost
          rw [nothing, List.append_nil]
          rcases delivers.1 with all | ⟨_, lost⟩
          · rcases data_of_serve served with whole | none
            · exact ⟨[], (List.append_nil _).trans (all.trans whole)⟩
            · rw [all, none]
              exact List.nil_prefix
          · rw [lost]
            exact List.nil_prefix

end Serving

end Response
end Lkrequest
