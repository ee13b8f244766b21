import Mathlib.Data.List.Basic

/-! Python's exception classes as koil and the asyncio glue under it tell them apart. -/

namespace Koil

/-- The library classes that koil's handlers and the asyncio glue name, with the
classes of `koil.errors`. `asyncio.TimeoutError` and
`concurrent.futures.TimeoutError` are the builtin `TimeoutError`. -/
inductive Builtin
  | baseException
  | exception
  | generatorExit
  | keyboardInterrupt
  | systemExit
  | asyncioCancelledError
  | stopIteration
  | stopAsyncIteration
  | runtimeError
  | typeError
  | valueError
  | timeoutError
  | futuresCancelledError
  | futuresInvalidStateError
  | asyncioInvalidStateError
  | koilError
  | koilStopIteration
  | contextError
  | threadCancelledError
  | koilCancelledError
  | koilTimeoutError
  deriving DecidableEq, Repr

/-- The class's `__mro__`, without `object` and `OSError`. -/
def Builtin.mro : Builtin → List Builtin
  | .baseException => [.baseException]
  | .generatorExit => [.generatorExit, .baseException]
  | .keyboardInterrupt => [.keyboardInterrupt, .baseException]
  | .systemExit => [.systemExit, .baseException]
  | .asyncioCancelledError => [.asyncioCancelledError, .baseException]
  | .contextError => [.contextError, .koilError, .exception, .baseException]
  | .threadCancelledError => [.threadCancelledError, .koilError, .exception, .baseException]
  | .koilCancelledError => [.koilCancelledError, .koilError, .exception, .baseException]
  | .koilTimeoutError =>
      [.koilTimeoutError, .koilError, .timeoutError, .exception, .baseException]
  | .exception => [.exception, .baseException]
  | other => [other, .exception, .baseException]

def Builtin.isA (cls parent : Builtin) : Bool := cls.mro.contains parent

/-- A class defined in user code: the user classes and the library classes it
derives from, and what its instances' truth value is (`__bool__`, `__len__`). -/
structure UserClass where
  name : Nat
  ancestors : List Nat
  bases : List Builtin
  truthy : Bool
  deriving DecidableEq, Repr

inductive ExcClass
  | library (cls : Builtin)
  | user (cls : UserClass)
  deriving DecidableEq, Repr

structure Exc where
  cls : ExcClass
  args : String
  deriving DecidableEq, Repr

def Exc.isA (exc : Exc) (parent : Builtin) : Bool :=
  match exc.cls with
  | .library cls => cls.isA parent
  | .user cls => cls.bases.any (fun base => base.isA parent)

/-- `isinstance(exc, parent)` for any class, as an `except parent` clause tests it. -/
def Exc.isInstance (exc : Exc) : ExcClass → Bool
  | .library parent => exc.isA parent
  | .user parent =>
      match exc.cls with
      | .library _ => false
      | .user cls => cls.name == parent.name || cls.ancestors.contains parent.name

def Exc.truthy (exc : Exc) : Bool :=
  match exc.cls with
  | .library _ => true
  | .user cls => cls.truthy

/-- A task that raises one of these two does not only end: the exception leaves
`run_forever` and stops the loop. -/
def Exc.stopsLoop (exc : Exc) : Bool := exc.isA .keyboardInterrupt || exc.isA .systemExit

def Exc.of (cls : Builtin) (args : String) : Exc := ⟨.library cls, args⟩

@[simp] theorem isA_of (cls parent : Builtin) (args : String) :
    (Exc.of cls args).isA parent = cls.isA parent := rfl

end Koil
