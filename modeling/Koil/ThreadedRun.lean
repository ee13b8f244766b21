import Koil.Fifo
import Koil.Runs
import Koil.Tasks
import Mathlib.Tactic.Simps.Basic

/-! `_run_threaded` under cancellation: the executor's job, the asyncio future that
wraps it and the task that awaits it, on a loop which runs its callbacks in order.

`asyncio.wait_for` is that of Python 3.11, which looks at the future again when it
wakes up, or that of 3.12 and later, whose timeout and whose cancellation cancel the
awaited future at once. -/

namespace Koil.ThreadedRun

open Fifo Runs

/-- The `wait_for` is the one of 3.12 and later; `cancel_timeout` is positive. -/
structure Setup where
  eager : Bool
  grace : Bool
  deriving DecidableEq, Repr

inductive Job
  | absent
  | queued
  | running
  | ended
  | revoked
  deriving DecidableEq, Repr

/-- The asyncio future that `run_in_executor` returns. -/
inductive Wrapped
  | pending
  | settled (done : TaskEnd Unit)
  | cancelled
  deriving DecidableEq, Repr

/-- The callbacks between job, future and task: a job's end is handed on, a
cancelled future cancels its job, and the task takes its next step. -/
inductive Callback
  | deliver (done : FutureEnd Unit)
  | check
  | wake
  deriving DecidableEq, Repr

/-- How `_run_threaded` ends; `couldNotCancel` is the KoilError of its handler. -/
inductive Outcome
  | returned
  | raised (exc : Exc)
  | cancelled
  | couldNotCancel
  deriving DecidableEq, Repr

/-- Where the task is: not started, at `await asyncio.shield(future)`, at the
`wait_for` of the handler, or at the end of a `wait_for` that has given up. -/
inductive Stage
  | created
  | shielded
  | handling
  | stopping
  | finished (outcome : Outcome)
  deriving DecidableEq, Repr

/-- `thrown` is a cancel request before the handler, `interrupted` one inside it.
`expiry` is what the job was when `cancel_timeout` was over. -/
structure State where
  job : Job
  future : Wrapped
  stage : Stage
  ready : List Callback
  thrown : Bool
  interrupted : Bool
  expired : Bool
  expiry : Option Job
  deriving DecidableEq, Repr

def start : State := ⟨.absent, .pending, .created, [], false, false, false, none⟩

inductive Label
  | start
  | jobStarts
  | jobEnds (body : Except Exc Unit)
  | cancel
  | expire
  | callback
  deriving DecidableEq, Repr

/-- How the `wrapper` of a function that ends as `body` ends the job. -/
def wrapper {α : Type} : Except Exc α → FutureEnd α
  | .ok value => .result value
  | .error exc =>
      if exc.isA .stopIteration then
        .exception (.of .runtimeError "Threaded function raised StopIteration")
      else .exception exc

/-- What `await asyncio.shield(future)` makes of an end outside a cancellation. -/
def shieldOutcome : TaskEnd Unit → Outcome
  | .returned _ => .returned
  | .raised exc => .raised exc
  | .cancelled => .cancelled

/-- The handler around `await asyncio.wait_for(future, ...)`, with `raise e` after it. -/
def handlerOutcome : TaskEnd Unit → Outcome
  | .returned _ => .cancelled
  | .raised exc =>
      if exc.isA .threadCancelledError then .cancelled
      else if exc.isA .timeoutError then .couldNotCancel
      else .raised exc
  | .cancelled => .cancelled

def isCancelledError : TaskEnd Unit → Bool
  | .returned _ => false
  | .raised exc => exc.isA .asyncioCancelledError
  | .cancelled => true

@[simps] def State.push (s : State) (callback : Callback) : State :=
  { s with ready := s.ready ++ [callback] }

@[simps] def State.pop (s : State) (ready : List Callback) : State := { s with ready := ready }

@[simps] def State.goto (s : State) (stage : Stage) : State := { s with stage := stage }

@[simps] def State.submit (s : State) : State := { s with stage := .shielded, job := .queued }

@[simps] def State.throw (s : State) : State := { s with thrown := true }

@[simps] def State.interrupt (s : State) : State := { s with interrupted := true }

@[simps] def State.timeOut (s : State) : State :=
  { s with expired := true, expiry := some s.job }

@[simps] def State.setJob (s : State) (job : Job) : State := { s with job := job }

@[simps] def State.setFuture (s : State) (future : Wrapped) : State := { s with future := future }

def State.wakeUp (s : State) : State := if .wake ∈ s.ready then s else s.push .wake

def State.abandon (s : State) : State := ((s.setFuture .cancelled).push .check).wakeUp

def State.waitEnds (setup : Setup) (s : State) : Option (TaskEnd Unit) :=
  match s.future, s.stage with
  | .settled done, .shielded =>
      if (s.thrown || isCancelledError done) && (setup.eager || !setup.grace) then some done
      else none
  | .settled done, .handling =>
      if setup.eager && (s.interrupted || s.expired) then none else some done
  | _, _ => none

def State.handle (setup : Setup) (s : State) : State :=
  match s.future with
  | .settled _ => (s.goto .handling).wakeUp
  | _ => if setup.grace then s.goto .handling else (s.timeOut.goto .stopping).abandon

def State.resume (setup : Setup) (s : State) : State :=
  match s.waitEnds setup with
  | some done => s.goto (.finished (handlerOutcome done))
  | none =>
      match s.stage with
      | .shielded =>
          match s.future with
          | .settled done =>
              if s.thrown || isCancelledError done then s.handle setup
              else s.goto (.finished (shieldOutcome done))
          | _ => if s.thrown then s.handle setup else s
      | .handling =>
          if setup.eager then
            if s.interrupted then s.goto (.finished .cancelled)
            else if s.expired then s.goto (.finished .couldNotCancel)
            else s
          else (s.goto .stopping).abandon
      | .stopping => s.goto (.finished (if s.interrupted then .cancelled else .couldNotCancel))
      | _ => s

def State.runCallback (setup : Setup) (s : State) : Callback → State
  | .deliver done =>
      match s.future with
      | .pending => (s.setFuture (.settled (copyFutureState done))).wakeUp
      | _ => s
  | .check => if s.job = .queued then s.setJob .revoked else s
  | .wake => s.resume setup

def State.disturb (setup : Setup) (s : State) : State :=
  if setup.eager && s.future == .pending then s.abandon else s.wakeUp

def step (setup : Setup) (s : State) : Label → Option State
  | .start =>
      if s.stage = .created then some (if s.thrown then s.submit.wakeUp else s.submit) else none
  | .jobStarts => if s.job = .queued then some (s.setJob .running) else none
  | .jobEnds body =>
      if s.job = .running then some ((s.setJob .ended).push (.deliver (wrapper body))) else none
  | .cancel =>
      match s.stage with
      | .created => some s.throw
      | .shielded => some s.throw.wakeUp
      | .handling => some (s.interrupt.disturb setup)
      | .stopping => some s.interrupt.wakeUp
      | .finished _ => none
  | .expire =>
      if s.stage = .handling ∧ setup.grace ∧ s.expired = false then
        some (s.timeOut.disturb setup)
      else none
  | .callback =>
      match s.ready with
      | [] => none
      | callback :: ready => some ((s.pop ready).runCallback setup callback)

def Outcome.isCancelled : Outcome → Bool
  | .cancelled => true
  | .raised exc => exc.isA .asyncioCancelledError
  | _ => false

def Overran (s : State) : Prop := ∃ job, s.expiry = some job ∧ job ≠ .ended

/-- A reported cancellation means that the worker does not run and will not start;
the KoilError means that it had not ended when `cancel_timeout` was over. -/
def Supported (s : State) (outcome : Outcome) : Prop :=
  (outcome.isCancelled = true → s.job ≠ .queued ∧ s.job ≠ .running) ∧
  (outcome = .couldNotCancel → Overran s)

def Truthful (s : State) : Prop := ∀ outcome, s.stage = .finished outcome → Supported s outcome

/-- The worker's own TimeoutError, which the handler takes for the one of the wait. -/
def mistaken : TaskEnd Unit → Bool
  | .raised exc => exc.isA .timeoutError && !exc.isA .threadCancelledError
  | _ => false

/-- No further cancel request finds the worker running, the worker does not end the
handler's wait with a TimeoutError, and where the wait does not look again after its
timeout, it does not time out with a worker that has ended. -/
def Sound (setup : Setup) (s : State) : Label → Bool
  | .cancel => !(s.future == .cancelled && !s.ready.contains .check && s.job == .running)
  | .expire => !(setup.eager && s.job == .ended)
  | .callback =>
      match s.ready with
      | .check :: _ => !(s.interrupted && s.job == .running)
      | .wake :: _ =>
          !(s.waitEnds setup).any mistaken &&
            !(!setup.grace && s.stage == .shielded && s.future == .pending && s.job == .ended)
      | _ => true
  | _ => true

end Koil.ThreadedRun
