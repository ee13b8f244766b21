import Koil.Exceptions

/-! How a coroutine's end becomes a task's state, and a task's state a future's.

These are asyncio's own conversions: the end of a coroutine is what user code
does, everything else follows from it. -/

namespace Koil

inductive TaskEnd (α : Type) where
  | returned (value : α)
  | raised (exc : Exc)
  | cancelled
  deriving DecidableEq, Repr

inductive FutureEnd (α : Type) where
  | result (value : α)
  | exception (exc : Exc)
  | cancelled
  deriving DecidableEq, Repr

variable {α : Type}

/-- `Task.__step` on a coroutine that has just ended. The interpreter turns a
`StopIteration` which leaves a coroutine into a `RuntimeError` before the task
sees it. -/
def TaskEnd.ofCoroutine : Except Exc α → TaskEnd α
  | .ok value => .returned value
  | .error exc =>
      if exc.isA .stopIteration then .raised (.of .runtimeError "coroutine raised StopIteration")
      else if exc.isA .asyncioCancelledError then .cancelled
      else .raised exc

def convertFutureExc (exc : Exc) : Exc :=
  match exc.cls with
  | .library .futuresCancelledError => .of .asyncioCancelledError exc.args
  | .library .timeoutError => .of .timeoutError exc.args
  | .library .futuresInvalidStateError => .of .asyncioInvalidStateError exc.args
  | _ => exc

def setConcurrentFutureState : TaskEnd α → FutureEnd α
  | .returned value => .result value
  | .raised exc => .exception (convertFutureExc exc)
  | .cancelled => .cancelled

def copyFutureState : FutureEnd α → TaskEnd α
  | .result value => .returned value
  | .exception exc => .raised (convertFutureExc exc)
  | .cancelled => .cancelled

def FutureEnd.get : FutureEnd α → Except Exc α
  | .result value => .ok value
  | .exception exc => .error exc
  | .cancelled => .error (.of .futuresCancelledError "")

def TaskEnd.get : TaskEnd α → Except Exc α
  | .returned value => .ok value
  | .raised exc => .error exc
  | .cancelled => .error (.of .asyncioCancelledError "")

def FutureEnd.isCancellation : FutureEnd α → Bool
  | .result _ => false
  | .exception exc => exc.isA .asyncioCancelledError || exc.isA .koilCancelledError
  | .cancelled => true

/-- The classes `_convert_future_exc` replaces by another class. -/
def Exc.isConverted (exc : Exc) : Bool :=
  exc.cls == .library .futuresCancelledError || exc.cls == .library .futuresInvalidStateError

theorem convertFutureExc_eq_iff (exc : Exc) :
    convertFutureExc exc = exc ↔ exc.isConverted = false := by
  rcases exc with ⟨cls, args⟩
  cases cls with
  | user cls => simp [convertFutureExc, Exc.isConverted]
  | library cls => cases cls <;> simp [convertFutureExc, Exc.isConverted, Exc.of]

theorem convertFutureExc_of_not_converted (exc : Exc) (kept : exc.isConverted = false) :
    convertFutureExc exc = exc := (convertFutureExc_eq_iff exc).mpr kept

@[simp] theorem ofCoroutine_ok (value : α) :
    TaskEnd.ofCoroutine (.ok value) = .returned value := rfl

theorem ofCoroutine_raise (exc : Exc) (notStop : exc.isA .stopIteration = false)
    (notCancel : exc.isA .asyncioCancelledError = false) :
    TaskEnd.ofCoroutine (.error exc : Except Exc α) = .raised exc := by
  simp [TaskEnd.ofCoroutine, notStop, notCancel]

theorem ofCoroutine_raised_not_cancelled {body : Except Exc α} {exc : Exc}
    (ended : TaskEnd.ofCoroutine body = .raised exc) :
    exc.isA .asyncioCancelledError = false := by
  cases body with
  | ok value => simp at ended
  | error inner =>
      simp only [TaskEnd.ofCoroutine] at ended
      split at ended
      · cases ended
        rfl
      · split at ended
        · cases ended
        · next notCancel =>
            cases ended
            simpa using notCancel

theorem ofCoroutine_idem {body : Except Exc α} {exc : Exc}
    (ended : TaskEnd.ofCoroutine body = .raised exc) :
    TaskEnd.ofCoroutine (.error exc : Except Exc α) = .raised exc := by
  cases body with
  | ok value => simp at ended
  | error inner =>
      simp only [TaskEnd.ofCoroutine] at ended
      split at ended
      · cases ended
        rfl
      · next notStop =>
          split at ended
          · cases ended
          · next notCancel =>
              cases ended
              exact ofCoroutine_raise exc (by simpa using notStop) (by simpa using notCancel)

theorem ofCoroutine_survives {body : Except Exc α} {exc : Exc}
    (ended : TaskEnd.ofCoroutine body = .raised exc)
    (survives : ∀ inner, body = .error inner → inner.stopsLoop = false) :
    exc.stopsLoop = false := by
  cases body with
  | ok value => simp at ended
  | error inner =>
      simp only [TaskEnd.ofCoroutine] at ended
      split at ended
      · cases ended
        rfl
      · split at ended
        · cases ended
        · cases ended
          exact survives exc rfl

end Koil
