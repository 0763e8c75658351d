import Mathlib.Logic.Function.Basic

namespace Lkrequest

/-!
# The Python side

Python objects are known by identity only.  An exception is its type, as far as
the code distinguishes types, and its message.
-/

/-- A Python object, by identity. -/
abbrev PyObject := Nat

/-- A Python `str`: its code points, among which there can be surrogates. -/
structure PyStr where
  points : List Nat
deriving DecidableEq

namespace PyStr

/-- `PyString::new`. -/
def ofString (text : String) : PyStr := ⟨text.toList.map Char.toNat⟩

/-- `extract::<String>`: a surrogate has no UTF-8 form. -/
def extract (text : PyStr) : Option String :=
  (text.points.mapM (fun (point : Nat) => if point.isValidChar then some (Char.ofNat point) else none)).map
    String.ofList

end PyStr

inductive PyErrKind
  | runtimeError
  | valueError
  | typeError
  | lookupError
  | keyError
  | stopIteration
  | stopAsyncIteration
  | osError
  | other
deriving DecidableEq

structure PyErr where
  kind : PyErrKind
  message : String
deriving DecidableEq

namespace PyErr

/-- `PyRuntimeError::new_err`. -/
def runtimeError (message : String) : PyErr := ⟨.runtimeError, message⟩

/-- `PyValueError::new_err`. -/
def valueError (message : String) : PyErr := ⟨.valueError, message⟩

/-- `PyTypeError::new_err`. -/
def typeError (message : String) : PyErr := ⟨.typeError, message⟩

/-- A `LookupError` that Python itself raises. -/
def lookupError (message : String) : PyErr := ⟨.lookupError, message⟩

/-- `PyKeyError::new_err`. -/
def keyError (message : String) : PyErr := ⟨.keyError, message⟩

/-- `PyIOError::new_err`. -/
def ioError (message : String) : PyErr := ⟨.osError, message⟩

/-- The exception under one name for the end of an iteration. -/
def comparable (error : PyErr) : PyErr :=
  if error.kind = .stopIteration then ⟨.stopAsyncIteration, error.message⟩ else error

end PyErr

/-- A result, with one name for the end of an iteration. -/
def comparable {Value : Type} : Except PyErr Value -> Except PyErr Value
  | .ok value => .ok value
  | .error error => .error error.comparable

end Lkrequest
