import Koil.QtCalls

/-! `QtFuture` and one `qt_to_async.acall`: the future that the Qt side completes from any
thread, and the task that awaits it.

The loop runs its callbacks one at a time and in order. What other tasks do in between is
no step of its own: nothing here depends on it. -/

namespace Koil.QtFutures

open Contexts QtCalls Runs

variable {α : Type}

abbrev Result (α : Type) := Context × α

/-- `release` is the done callback of a `wait_for`, `wake` the task's next step. -/
inductive Callback (α : Type) where
  | setFutureResult (result : Result α)
  | setFutureException (exc : Exc)
  | release
  | wake

/-- Where `acall` is: before its await, at the await of the future, at the waiter of a
`wait_for`, in a `wait_for` that has given up, or at its end. -/
inductive Stage (α : Type) where
  | calling
  | awaiting
  | waiting (waiter : Waiter)
  | stopping (cause : Cause) (waiter : Waiter)
  | ended (reason : Reason) (outcome : Except Exc α)

/-- `attempts` is a log of what was to complete the future, as it would keep it, `failures`
of what callbacks raised on the loop. `thrown` is a cancellation for the task's next step,
`outside` says that one was requested after the wait began, `expired` that the timeout is
over. `emitted` counts the emissions of the wrapper's `cancelled`. -/
structure State (α : Type) where
  aiofuture : Option (TaskEnd (Result α))
  attempts : List (TaskEnd (Result α))
  failures : List Exc
  ready : List (Callback α)
  stage : Stage α
  thrown : Bool
  outside : Bool
  expired : Bool
  iscancelled : Bool
  emitted : Nat

def start : State α := ⟨none, [], [], [], .calling, false, false, false, false, 0⟩

def complete {β : Type} (fut : Option (TaskEnd β)) (done : TaskEnd β) :
    Except Exc (Option (TaskEnd β)) :=
  match fut with
  | none => .ok (some done)
  | some _ => .error (.of .asyncioInvalidStateError "invalid state")

/-- What a future keeps of an exception: a StopIteration is converted, as of 3.11.8 and 3.12.2. -/
def stored (exc : Exc) : Exc :=
  if exc.isA .stopIteration then
    .of .runtimeError
      "StopIteration interacts badly with generators and cannot be raised into a Future"
  else exc

def setFutureResult {β : Type} (fut : Option (TaskEnd β)) (result : β) :
    Except Exc (Option (TaskEnd β)) :=
  if fut.isSome then .ok fut else complete fut (.returned result)

def setFutureException {β : Type} (fut : Option (TaskEnd β)) (exc : Exc) :
    Except Exc (Option (TaskEnd β)) :=
  if fut.isSome then .ok fut else complete fut (.raised (stored exc))

def cancelFuture {β : Type} (fut : Option (TaskEnd β)) : Option (TaskEnd β) :=
  if fut.isSome then fut else some .cancelled

@[simps] def State.push (s : State α) (callback : Callback α) : State α :=
  { s with ready := s.ready ++ [callback] }

@[simps] def State.pop (s : State α) (ready : List (Callback α)) : State α :=
  { s with ready := ready }

@[simps] def State.goto (s : State α) (stage : Stage α) : State α := { s with stage := stage }

@[simps] def State.throw (s : State α) (thrown : Bool) : State α := { s with thrown := thrown }

@[simps] def State.expire (s : State α) : State α := { s with expired := true }

@[simps] def State.disturb (s : State α) : State α := { s with outside := true }

@[simps] def State.log (s : State α) (attempt : TaskEnd (Result α)) : State α :=
  { s with attempts := s.attempts ++ [attempt] }

@[simps] def State.fail (s : State α) (exc : Exc) : State α :=
  { s with failures := s.failures ++ [exc] }

@[simps] def State.settle (s : State α) (fut : Option (TaskEnd (Result α))) : State α :=
  { s with aiofuture := fut }

def State.announce (s : State α) : State α :=
  match s.stage with
  | .awaiting => s.push .wake
  | .waiting _ | .stopping _ _ => s.push .release
  | _ => s

def State.put (s : State α) (fut : Option (TaskEnd (Result α))) : State α :=
  if s.aiofuture.isSome then s.settle fut else (s.settle fut).announce

def State.attempt (s : State α) (attempt : TaskEnd (Result α))
    (after : Except Exc (Option (TaskEnd (Result α)))) : State α :=
  match after with
  | .ok fut => (s.log attempt).put fut
  | .error exc => (s.log attempt).fail exc

def State.abandon (s : State α) : State α := (s.log .cancelled).put (cancelFuture s.aiofuture)

section signals

variable [Signals]

/-- `QtFuture.set_cancelled`: the signal was declared with an `Exception`. -/
def State.setCancelled (s : State α) : Except Exc Unit × State α :=
  match Signals.emit 1 0 with
  | .error exc => (.error exc, s)
  | .ok () => (.ok (), { s with iscancelled := true })

/-- `except asyncio.CancelledError` of `acall`. -/
def State.giveUp (s : State α) (exc : Exc) : Except Exc α × State α :=
  match s.setCancelled with
  | (.error raised, s) => (.error raised, s)
  | (.ok (), s) =>
      match Signals.emit 1 1 with
      | .error raised => (.error raised, s)
      | .ok () => (.error exc, { s with emitted := s.emitted + 1 })

def State.finish (s : State α) (reason : Reason) (waited : Except Exc (Result α)) : State α :=
  match waited with
  | .ok (_, returns) => s.goto (.ended reason (.ok returns))
  | .error exc =>
      if exc.isA .asyncioCancelledError then
        (s.giveUp exc).2.goto (.ended reason (s.giveUp exc).1)
      else s.goto (.ended reason (.error exc))

def thrownInto {β : Type} (fut : TaskEnd β) : Exc :=
  match fut with
  | .raised exc => if exc.isA .asyncioCancelledError then exc else cancelledError
  | _ => cancelledError

/-- What `asyncio.timeout` makes of a cancellation that the timeout has caused. -/
def scopeExit (exc : Exc) : Exc :=
  if exc.cls == .library .asyncioCancelledError then timeoutError else exc

def isCancelled {β : Type} : TaskEnd β → Bool
  | .cancelled => true
  | _ => false

def State.leave (s : State α) (fut : TaskEnd (Result α)) : State α :=
  if s.thrown || isCancelled fut then
    if s.expired && !s.outside then s.finish .timedOut (.error (scopeExit (thrownInto fut)))
    else s.finish .cancelled (.error (thrownInto fut))
  else s.finish .slot fut.get

/-- `_cancel_and_wait` of `wait_for`. -/
def State.stop (s : State α) (cause : Cause) : State α :=
  (s.goto (.stopping cause .pending)).abandon

/-- The end of a `wait_for` whose timeout was over before the future was done. -/
def State.giveBack (s : State α) (fut : TaskEnd (Result α)) : State α :=
  match fut.get with
  | .error exc =>
      if exc.isA .asyncioCancelledError then s.finish .timedOut (.error timeoutError)
      else s.finish .slot (.error exc)
  | .ok result => s.finish .slot (.ok result)

def State.resume (s : State α) : State α :=
  match s.stage, s.aiofuture with
  | .awaiting, some fut => s.leave fut
  | .waiting .released, some fut => s.finish .slot fut.get
  | .waiting .interrupted, some fut => s.finish .slot fut.get
  | .waiting .released, none => s.stop .timedOut
  | .waiting .interrupted, none => s.stop .cancelled
  | .stopping _ .interrupted, _ => s.finish .cancelled (.error cancelledError)
  | .stopping .cancelled .released, _ => s.finish .cancelled (.error cancelledError)
  | .stopping .timedOut .released, some fut => s.giveBack fut
  | _, _ => s

def State.release (s : State α) : State α :=
  match s.stage with
  | .waiting .pending => (s.goto (.waiting .released)).push .wake
  | .stopping cause .pending => (s.goto (.stopping cause .released)).push .wake
  | _ => s

def State.runCallback (s : State α) : Callback α → State α
  | .setFutureResult result =>
      s.attempt (.returned result) (setFutureResult s.aiofuture result)
  | .setFutureException exc =>
      s.attempt (.raised (stored exc)) (setFutureException s.aiofuture exc)
  | .release => s.release
  | .wake => s.resume

def State.interrupt (s : State α) : State α :=
  match s.stage with
  | .awaiting => if s.aiofuture.isSome then s.abandon.throw true else s.abandon
  | .waiting .pending => (s.goto (.waiting .interrupted)).push .wake
  | .waiting _ => s.goto (.waiting .interrupted)
  | .stopping cause .pending => (s.goto (.stopping cause .interrupted)).push .wake
  | .stopping cause _ => s.goto (.stopping cause .interrupted)
  | _ => s

/-- `acall` comes to its await; what was requested before is done there. -/
def State.await (setup : Setup) (s : State α) : State α :=
  let waits := match setup.wait with
    | .direct | .scope => s.goto .awaiting
    | .own => s.goto (.waiting .pending)
    | .past => s.stop .timedOut
  if s.thrown then (waits.throw false).interrupt else waits

inductive Label (α : Type) where
  | resolve (context : Context) (returns : α)
  | reject (exc : Exc)
  | awaits
  | callback
  | cancel
  | expire

def State.timed (setup : Setup) (s : State α) : Bool :=
  !s.expired && match setup.wait, s.stage with
    | .scope, .awaiting => true
    | .own, .waiting _ => true
    | .own, .stopping _ _ => true
    | _, _ => false

def step (setup : Setup) (s : State α) : Label α → Option (State α)
  | .resolve context returns => some (s.push (.setFutureResult (context, returns)))
  | .reject exc => some (s.push (.setFutureException exc))
  | .awaits =>
      match s.stage with
      | .calling => some (s.await setup)
      | _ => none
  | .callback =>
      match s.stage, s.ready with
      | .calling, _ => none
      | _, [] => none
      | _, callback :: ready => some ((s.pop ready).runCallback callback)
  | .cancel =>
      match s.stage with
      | .calling => some (s.throw true)
      | .ended _ _ => none
      | _ => some s.interrupt.disturb
  | .expire =>
      if s.timed setup then
        match s.stage with
        | .awaiting => some s.interrupt.expire
        | .waiting _ => some s.release.expire
        | _ => some s.expire
      else none

end signals

@[simp] theorem announce_aiofuture (s : State α) : s.announce.aiofuture = s.aiofuture := by
  unfold State.announce
  split <;> rfl

@[simp] theorem announce_attempts (s : State α) : s.announce.attempts = s.attempts := by
  unfold State.announce
  split <;> rfl

@[simp] theorem announce_failures (s : State α) : s.announce.failures = s.failures := by
  unfold State.announce
  split <;> rfl

@[simp] theorem announce_stage (s : State α) : s.announce.stage = s.stage := by
  unfold State.announce
  split <;> rfl

@[simp] theorem put_aiofuture (s : State α) (fut : Option (TaskEnd (Result α))) :
    (s.put fut).aiofuture = fut := by
  unfold State.put
  split <;> simp

@[simp] theorem put_attempts (s : State α) (fut : Option (TaskEnd (Result α))) :
    (s.put fut).attempts = s.attempts := by
  unfold State.put
  split <;> simp

@[simp] theorem put_failures (s : State α) (fut : Option (TaskEnd (Result α))) :
    (s.put fut).failures = s.failures := by
  unfold State.put
  split <;> simp

@[simp] theorem put_stage (s : State α) (fut : Option (TaskEnd (Result α))) :
    (s.put fut).stage = s.stage := by
  unfold State.put
  split <;> simp

def State.offer (s : State α) (attempt : TaskEnd (Result α)) : State α :=
  (s.log attempt).put (s.aiofuture.or (some attempt))

theorem abandon_eq (s : State α) : s.abandon = s.offer .cancelled := by
  cases held : s.aiofuture <;> simp [State.abandon, State.offer, cancelFuture, held]

theorem setResult_eq [Signals] (s : State α) (result : Result α) :
    s.runCallback (.setFutureResult result) = s.offer (.returned result) := by
  cases held : s.aiofuture <;>
    simp [State.runCallback, State.attempt, State.offer, setFutureResult, complete, held]

theorem setException_eq [Signals] (s : State α) (exc : Exc) :
    s.runCallback (.setFutureException exc) = s.offer (.raised (stored exc)) := by
  cases held : s.aiofuture <;>
    simp [State.runCallback, State.attempt, State.offer, setFutureException, complete, held]

theorem offer_stage (s : State α) (attempt : TaskEnd (Result α)) :
    (s.offer attempt).stage = s.stage := by
  simp [State.offer]

theorem offer_aiofuture (s : State α) (attempt : TaskEnd (Result α)) :
    (s.offer attempt).aiofuture = s.aiofuture.or (some attempt) := by
  simp [State.offer]

theorem offer_attempts (s : State α) (attempt : TaskEnd (Result α)) :
    (s.offer attempt).attempts = s.attempts ++ [attempt] := by
  simp [State.offer]

theorem offer_failures (s : State α) (attempt : TaskEnd (Result α)) :
    (s.offer attempt).failures = s.failures := by
  simp [State.offer]

end Koil.QtFutures
