import Koil.Generators
import Koil.QtCalls

/-! `QtGenerator` and one `qt_gen_to_async_gen.acall`: the queue that the Qt side fills from
its thread through the loop, and the consumer of the async generator.

The loop runs its callbacks one at a time and in order. The consumer may do anything between
a `yield` and its next request, so callbacks may run there. -/

namespace Koil.QtGenerators

open Contexts QtCalls

variable {α : Type}

abbrev Result (α : Type) := Context × α

abbrev Item (α : Type) := Except Exc (Result α)

/-- `class QtStopIteration(Exception)`, by a name of its own. -/
def qtStopIteration : UserClass := ⟨0, [], [.exception], true⟩

inductive Getter
  | absent
  | pending
  | released
  | cancelled
  deriving DecidableEq, Repr

inductive Inner (α : Type) where
  | absent
  | created
  | suspended
  | done (waited : Item α)

/-- `release` is the done callback of the inner task for a request, `wake` the next step of
the consumer's task. -/
inductive Callback (α : Type) where
  | put (item : Item α)
  | innerStart
  | innerWake
  | release (request : Nat)
  | wake

/-- Where the generator is: before its first await, at `await getter`, at the waiter of a
`wait_for`, in a `wait_for` that has given up, at its `yield`, or at its end, which is none
or an exception. -/
inductive Stage
  | calling
  | getting
  | waiting (waiter : Waiter)
  | stopping (cause : Cause) (waiter : Waiter)
  | yielded
  | ended (reason : Reason) (outcome : Option Exc)
  deriving DecidableEq, Repr

/-- `thrown` and `innerThrown` are cancellations for the next steps of the two tasks, `outside`
says that one was requested since the wait began, `expired` that the timeout is over, and
`stopped` that an exception has left the loop. `received` is what was yielded, `emitted`
counts the emissions of the wrapper's `cancelled`. -/
structure State (α : Type) where
  items : List (Item α)
  getter : Getter
  inner : Inner α
  innerThrown : Bool
  ready : List (Callback α)
  stage : Stage
  requests : Nat
  thrown : Bool
  outside : Bool
  expired : Bool
  stopped : Bool
  received : List (Result α)
  iscancelled : Bool
  emitted : Nat

def start : State α :=
  ⟨[], .absent, .absent, false, [], .calling, 0, false, false, false, false, [], false, 0⟩

@[simps] def State.push (s : State α) (callback : Callback α) : State α :=
  { s with ready := s.ready ++ [callback] }

@[simps] def State.pop (s : State α) (ready : List (Callback α)) : State α :=
  { s with ready := ready }

@[simps] def State.goto (s : State α) (stage : Stage) : State α := { s with stage := stage }

@[simps] def State.setItems (s : State α) (items : List (Item α)) : State α :=
  { s with items := items }

@[simps] def State.setGetter (s : State α) (getter : Getter) : State α :=
  { s with getter := getter }

@[simps] def State.setInner (s : State α) (inner : Inner α) : State α := { s with inner := inner }

@[simps] def State.throw (s : State α) : State α := { s with thrown := true }

@[simps] def State.throwInner (s : State α) : State α := { s with innerThrown := true }

@[simps] def State.disturb (s : State α) : State α := { s with outside := true }

@[simps] def State.expire (s : State α) : State α := { s with expired := true }

def State.next (s : State α) (context : Context) (args : α) : State α :=
  s.push (.put (.ok (context, args)))

def State.throwIn (s : State α) (exception : Exc) : State α := s.push (.put (.error exception))

def State.stopIn (s : State α) : State α := s.throwIn ⟨.user qtStopIteration, ""⟩

def anext (item : Item α) : Item α :=
  match item with
  | .ok result => .ok result
  | .error exception =>
      if exception.isA .stopIteration then
        .error (.of .runtimeError "coroutine raised StopIteration")
      else .error exception

def State.setCancelled (s : State α) : State α := { s with iscancelled := true }

section signals

variable [Signals]

/-- `except asyncio.CancelledError` of `acall`. -/
def State.giveUp (s : State α) (exc : Exc) : Exc × State α :=
  match Signals.emit 1 1 with
  | .error raised => (raised, s.setCancelled)
  | .ok () => (exc, { s.setCancelled with emitted := s.emitted + 1 })

@[simps] def State.receive (s : State α) (result : Result α) : State α :=
  { s with received := s.received ++ [result] }

def State.deliver (s : State α) (reason : Reason) (waited : Item α) : State α :=
  let s := (s.setGetter .absent).setInner .absent
  match waited with
  | .ok result => (s.receive result).goto .yielded
  | .error exc =>
      if exc.isInstance (.user qtStopIteration) then s.goto (.ended reason none)
      else if exc.isA .asyncioCancelledError then
        (s.giveUp exc).2.goto (.ended reason (some (Generators.agenException (s.giveUp exc).1)))
      else s.goto (.ended reason (some (Generators.agenException exc)))

def State.innerDone (s : State α) (waited : Item α) : State α :=
  let stops := match waited with
    | .ok _ => false
    | .error exc => !exc.isA .asyncioCancelledError && exc.stopsLoop
  let s := { (s.setGetter .absent).setInner (.done waited) with stopped := s.stopped || stops }
  match s.stage with
  | .waiting _ | .stopping _ _ => s.push (.release s.requests)
  | _ => s

def State.innerGet (s : State α) : State α :=
  match s.items with
  | [] => (s.setInner .suspended).setGetter .pending
  | item :: items => (s.setItems items).innerDone (anext item)

def State.get (s : State α) : State α :=
  match s.items with
  | [] => (s.goto .getting).setGetter .pending
  | item :: items => (s.setItems items).deliver .slot (anext item)

def State.put (s : State α) (item : Item α) : State α :=
  let s := s.setItems (s.items ++ [item])
  match s.getter, s.inner with
  | .pending, .suspended => (s.setGetter .released).push .innerWake
  | .pending, _ => (s.setGetter .released).push .wake
  | _, _ => s

def State.cancelInner (s : State α) : State α :=
  match s.inner, s.getter with
  | .created, _ => s.throwInner
  | .suspended, .pending => (s.setGetter .cancelled).push .innerWake
  | .suspended, _ => s.throwInner
  | _, _ => s

/-- `_cancel_and_wait` of `wait_for`. -/
def State.stop (s : State α) (cause : Cause) : State α :=
  (s.goto (.stopping cause .pending)).cancelInner

/-- The end of a `wait_for` whose timeout was over before the inner task was done. -/
def State.giveBack (s : State α) (waited : Item α) : State α :=
  match waited with
  | .ok result => s.deliver .slot (.ok result)
  | .error exc =>
      if exc.isA .asyncioCancelledError then s.deliver .timedOut (.error timeoutError)
      else s.deliver .slot (.error exc)

def State.leave (s : State α) : State α :=
  if s.expired && !s.outside then s.deliver .timedOut (.error timeoutError)
  else s.deliver .cancelled (.error cancelledError)

def State.resume (s : State α) : State α :=
  match s.stage, s.inner with
  | .getting, _ =>
      match s.getter with
      | .cancelled => s.leave
      | .released => if s.thrown then s.leave else s.get
      | _ => s
  | .waiting .released, .done waited => s.deliver .slot waited
  | .waiting .interrupted, .done waited => s.deliver .slot waited
  | .waiting .released, _ => s.stop .timedOut
  | .waiting .interrupted, _ => s.stop .cancelled
  | .stopping _ .interrupted, _ => s.deliver .cancelled (.error cancelledError)
  | .stopping .cancelled .released, _ => s.deliver .cancelled (.error cancelledError)
  | .stopping .timedOut .released, .done waited => s.giveBack waited
  | _, _ => s

def State.release (s : State α) : State α :=
  match s.stage with
  | .waiting .pending => (s.goto (.waiting .released)).push .wake
  | .stopping cause .pending => (s.goto (.stopping cause .released)).push .wake
  | _ => s

def State.innerStart (s : State α) : State α :=
  match s.inner with
  | .created => if s.innerThrown then s.innerDone (.error cancelledError) else s.innerGet
  | _ => s

def State.innerWake (s : State α) : State α :=
  match s.inner, s.getter with
  | .suspended, .cancelled => s.innerDone (.error cancelledError)
  | .suspended, .released =>
      if s.innerThrown then s.innerDone (.error cancelledError) else s.innerGet
  | _, _ => s

def State.runCallback (s : State α) : Callback α → State α
  | .put item => s.put item
  | .innerStart => s.innerStart
  | .innerWake => s.innerWake
  -- the waiter of an earlier request is done
  | .release request => if request = s.requests then s.release else s
  | .wake => s.resume

def State.interrupt (s : State α) : State α :=
  match s.stage, s.getter with
  | .getting, .pending => (s.setGetter .cancelled).push .wake
  | .getting, _ => s.throw
  | .waiting .pending, _ => (s.goto (.waiting .interrupted)).push .wake
  | .waiting _, _ => s.goto (.waiting .interrupted)
  | .stopping cause .pending, _ => (s.goto (.stopping cause .interrupted)).push .wake
  | .stopping cause _, _ => s.goto (.stopping cause .interrupted)
  | _, _ => s

def State.renew (s : State α) : State α :=
  { s with
    requests := s.requests + 1
    innerThrown := false
    thrown := false
    outside := false
    expired := false }

def State.createInner (s : State α) : State α := (s.setInner .created).push .innerStart

/-- The body runs up to its next await or `yield`. A cancellation that was requested before
is done at an await and stays with the task at a `yield`. -/
def State.ask (setup : Setup) (s : State α) (thrown : Bool) : State α :=
  let waits := match setup.wait with
    | .direct | .scope => s.renew.get
    | .own => s.renew.createInner.goto (.waiting .pending)
    | .past => s.renew.createInner.stop .timedOut
  if thrown then waits.interrupt else waits

inductive Label (α : Type) where
  | next (context : Context) (args : α)
  | throw (exception : Exc)
  | stop
  | ask (thrown : Bool)
  | callback
  | cancel
  | expire
  | aclose

def State.timed (setup : Setup) (s : State α) : Bool :=
  !s.expired && match setup.wait, s.stage with
    | .scope, .getting => true
    | .own, .waiting _ => true
    | .own, .stopping _ _ => true
    | _, _ => false

def step (setup : Setup) (s : State α) : Label α → Option (State α)
  | .next context args => some (s.next context args)
  | .throw exception => some (s.throwIn exception)
  | .stop => some s.stopIn
  | .ask thrown =>
      match s.stage with
      | .calling | .yielded => some (s.ask setup thrown)
      | _ => none
  | .callback =>
      match s.stage, s.stopped, s.ready with
      | .calling, _, _ => none
      | _, false, callback :: ready => some ((s.pop ready).runCallback callback)
      | _, _, _ => none
  | .cancel =>
      match s.stage with
      | .getting | .waiting _ | .stopping _ _ => some s.interrupt.disturb
      | _ => none
  | .expire =>
      if s.timed setup then
        match s.stage with
        | .getting => some s.interrupt.expire
        | .waiting _ => some s.release.expire
        | _ => some s.expire
      else none
  | .aclose =>
      match s.stage with
      | .yielded => some (s.goto (.ended .closed (some (.of .generatorExit ""))))
      | _ => none

end signals

end Koil.QtGenerators
