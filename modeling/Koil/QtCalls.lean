import Koil.Contexts
import Koil.Runs
import Koil.Tasks
import Mathlib.Data.List.Basic
import Mathlib.Tactic.Simps.Basic

/-! What the calls of `qt_to_async` and of `qt_gen_to_async_gen` have in common: the wait
with its timeout, the ways in which it ends, and the emission of a Qt signal. -/

namespace Koil.QtCalls

/-- `timeout` is the wrapper's; of a number of seconds only the sign counts. `eager` says
that `asyncio.wait_for` is the one of Python 3.12 and later. -/
structure Setup where
  eager : Bool
  timeout : Option Int
  deriving DecidableEq, Repr

/-- How a call waits: on the awaited thing itself, in a `wait_for` that gives up at once, on
the waiter of the `wait_for` of 3.11, or in the `asyncio.timeout` of the later one. -/
inductive Wait
  | direct
  | past
  | own
  | scope
  deriving DecidableEq, Repr

/-- `if self.timeout:`, and the branches of `wait_for`. -/
def Setup.wait (setup : Setup) : Wait :=
  match setup.timeout with
  | none => .direct
  | some timeout =>
      if timeout = 0 then .direct
      else if timeout < 0 then .past
      else if setup.eager then .scope
      else .own

inductive Waiter
  | pending
  | released
  | interrupted
  deriving DecidableEq, Repr

inductive Cause
  | cancelled
  | timedOut
  deriving DecidableEq, Repr

inductive Reason
  | slot
  | cancelled
  | timedOut
  | closed
  deriving DecidableEq, Repr

/-- `signal.emit(...)` of the Qt binding, of a signal declared with so many arguments and with
so many given. -/
class Signals where
  emit (declared given : Nat) : Except Exc Unit
  few {declared given : Nat} (fewer : given < declared) :
    ∃ message, emit declared given = .error (.of .typeError message)
  all (declared : Nat) : emit declared declared = .ok ()

/-- An `emit` that behaves so, for the runs on fixed inputs. -/
instance plainSignals : Signals where
  emit declared given := if given < declared then .error (.of .typeError "") else .ok ()
  few fewer := ⟨"", if_pos fewer⟩
  all _ := if_neg (Nat.lt_irrefl _)

def cancelledError : Exc := .of .asyncioCancelledError ""

def timeoutError : Exc := .of .timeoutError ""

end Koil.QtCalls
