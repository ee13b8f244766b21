import Koil.Race
import Koil.Runs
import Mathlib.Logic.Function.Basic

/-! Cancel events over whole runs: any number of futures and workers, on any loops.

Every loop runs its callbacks in the order in which they were queued. A future's
`passed_with_context` and the waiters of its race are tasks of its loop; what its
coroutine and the worker functions do, and when, is open. -/

namespace Koil.CancelScope

open Race Runs

/-- A cancel event: the own one of a future, or the ambient one of a worker. -/
inductive EventId
  | own (future : Nat)
  | worker (id : Nat)
  deriving DecidableEq, Repr

def EventId.racer : EventId → Racer
  | .own _ => .ownCancel
  | .worker _ => .ambientCancel

/-- What a loop has to do next: the callback of `run_coroutine_threadsafe`, a step
of `passed_with_context` or of a waiter, the `_on_completion` of `asyncio.wait`, an
`asyncio.Event.set`, or the CancelledError handler of a `run_threaded`. -/
inductive Callback
  | start (future : Nat)
  | mainStep (future : Nat)
  | waiterStep (future : Nat) (racer : Racer)
  | completed (future : Nat)
  | setEvent (event : EventId)
  | handler (worker : Nat)
  deriving DecidableEq, Repr

inductive Waiter
  | absent
  | queued
  | waiting
  | done
  deriving DecidableEq, Repr

inductive Verdict
  | won (body : TaskEnd Unit)
  | timedOut
  | cancelled
  deriving DecidableEq, Repr

/-- Where a submission and its `passed_with_context` are: `captured` once the ambient
event was found unset, `queued` once the loop has the coroutine, `woken` once
`asyncio.wait` is to return, and `current` is the loser whose end it awaits. -/
inductive Stage
  | captured
  | queued
  | created
  | racing (woken : Bool)
  | tidying (verdict : Verdict) (current : Racer) (rest : List Racer) (acknowledged : Bool)
  | resolved (done : FutureEnd Unit)
  deriving DecidableEq, Repr

/-- A submitted future. `asked` says that its work task was asked to cancel,
`withdrawn` which waiters were, and `thrown` that the shutdown of the loop has
cancelled `passed_with_context`. `requested` is `_cancel_requested`. -/
structure Future where
  loop : Nat
  ambient : Option Nat
  timeout : Option String
  stage : Stage
  work : Option (TaskEnd Unit)
  asked : Bool
  waiter : Racer → Waiter
  withdrawn : Racer → Bool
  expired : Bool
  graceOver : Bool
  thrown : Bool
  requested : Bool

def Future.fresh (loop : Nat) (ambient : Option Nat) (timeout : Option String) : Future :=
  ⟨loop, ambient, timeout, .captured, none, false, fun _ => .absent, fun _ => false, false, false,
    false, false⟩

/-- A `run_threaded` call: whether the task that awaits it was cancelled, and whether
its function has ended with a CancelledError. -/
structure Worker where
  loop : Nat
  awaiterCancelled : Bool
  endedCancelled : Bool
  deriving DecidableEq, Repr

structure State where
  futures : Nat → Option Future
  workers : Nat → Option Worker
  ready : Nat → List Callback
  flag : EventId → Bool
  waiters : EventId → List Nat
  shutting : Nat → Bool

def start : State where
  futures _ := none
  workers _ := none
  ready _ := []
  flag _ := false
  waiters _ := []
  shutting _ := false

/-- What other threads, user code and the timers do, and the next callback of a loop.
A submission checks the ambient event before it hands the coroutine over, and
`cancel()`, which an expired or interrupted `result()` calls, checks `done()`
before it signals. `iterated` is the order in which a step of `passed_with_context`
finds the set `unfinished`, where it comes to that. -/
inductive Label
  | capture (future loop : Nat) (ambient : Option Nat) (timeout : Option String)
  | submit (future : Nat)
  | cancel (future : Nat)
  | signal (future : Nat)
  | workEnds (future : Nat) (body : Except Exc Unit)
  | timer (future : Nat)
  | graceOver (future : Nat)
  | throw (future : Nat)
  | withdraw (future : Nat) (racer : Racer)
  | runThreaded (worker loop : Nat)
  | cancelAwaiter (worker : Nat)
  | workerEnds (worker : Nat) (body : Except Exc Unit)
  | shutdown (loop : Nat)
  | callback (loop : Nat) (iterated : List Racer)

def Future.config (fut : Future) : Config := ⟨fut.ambient.isSome, fut.timeout, false⟩

def Future.event (fut : Future) (id : Nat) : Racer → Option EventId
  | .ownCancel => some (.own id)
  | .ambientCancel => fut.ambient.map .worker
  | _ => none

def Future.finished (fut : Future) : Racer → Bool
  | .work => fut.work.isSome
  | racer => fut.waiter racer == .done

/-- What one step does: the future after it, the callbacks it queues, and the event
whose waiters it joins or leaves. -/
structure Effect where
  future : Future
  pushed : List Callback
  joins : Option EventId
  leaves : Option EventId

def Effect.still (fut : Future) : Effect := ⟨fut, [], none, none⟩

def Effect.pushing (fut : Future) (pushed : List Callback) : Effect := ⟨fut, pushed, none, none⟩

def Future.begin (fut : Future) (id : Nat) : Effect :=
  match fut.stage with
  | .queued => .pushing { fut with stage := .created } [.mainStep id]
  | _ => .still fut

/-- `passed_with_context` up to `asyncio.wait(race, ...)`. -/
def Future.beginRace (fut : Future) (id : Nat) : Effect :=
  let waiters := fut.config.race.filter (· ≠ .work)
  .pushing
    { fut with
      stage := .racing false
      waiter := fun racer => if racer ∈ waiters then .queued else .absent }
    (waiters.map (.waiterStep id))

def Future.verdict (fut : Future) : Verdict :=
  match fut.work with
  | some body => .won body
  | none => if fut.waiter .deadline = .done then .timedOut else .cancelled

def Future.resolution (fut : Future) (acknowledged : Bool) : Verdict → FutureEnd Unit
  | .won body => setConcurrentFutureState body
  | .timedOut => .exception ((runAsync : Flavour Empty Unit).timeoutError fut.config acknowledged)
  | .cancelled => .cancelled

/-- `for untask in unfinished: ...` from here on, up to the first wait. -/
def Future.tidy (fut : Future) (id : Nat) (verdict : Verdict) (acknowledged : Bool) :
    List Racer → Effect
  | [] => .still { fut with stage := .resolved (fut.resolution acknowledged verdict) }
  | racer :: rest =>
      if racer = .work then
        match fut.work with
        | none =>
            .still { fut with asked := true, stage := .tidying verdict racer rest acknowledged }
        | some body =>
            match settleLoser (awaitEnd body) with
            | .escaped exc =>
                .still { fut with stage := .resolved (.exception (convertFutureExc exc)) }
            | .finished settled => fut.tidy id verdict (acknowledged && settled) rest
            | .stuck => fut.tidy id verdict acknowledged rest
      else
        let left : Future := { fut with
          withdrawn := Function.update fut.withdrawn racer true
          stage := .tidying verdict racer rest acknowledged }
        match fut.waiter racer with
        | .waiting =>
            ⟨{ left with waiter := Function.update fut.waiter racer .queued },
              [.waiterStep id racer], none, fut.event id racer⟩
        | .queued => .still left
        | _ => fut.tidy id verdict acknowledged rest

/-- The next step of `passed_with_context`; it has none where the loser it awaits
has not ended, or with another order than one of `unfinished`. -/
def Future.mainStep (fut : Future) (id : Nat) (iterated : List Racer) : Option Effect :=
  match fut.stage with
  | .created => some (fut.beginRace id)
  | .racing true =>
      if iterated.Perm (fut.config.race.filter fun racer => !fut.finished racer) then
        some (fut.tidy id fut.verdict true iterated)
      else none
  | .tidying verdict .work rest acknowledged =>
      match fut.work with
      | some _ => some (fut.tidy id verdict acknowledged (.work :: rest))
      | none =>
          if fut.graceOver then some (fut.tidy id verdict false rest) else some (.still fut)
  | .tidying verdict current rest acknowledged =>
      if fut.waiter current = .done then some (fut.tidy id verdict acknowledged rest)
      else some (.still fut)
  | _ => some (.still fut)

/-- The next step of a waiter. `event.wait()` returns where the event is set and
raises where the event is bound to another loop. -/
def Future.waiterStep (fut : Future) (id : Nat) (racer : Racer) (fired foreign : Bool) :
    Effect :=
  if fut.waiter racer = .queued then
    if fut.withdrawn racer || fired || foreign then
      .pushing { fut with waiter := Function.update fut.waiter racer .done }
        (match fut.stage with
        | .racing _ => [.completed id]
        | .tidying _ current _ _ => if current = racer then [.mainStep id] else []
        | _ => [])
    else
      ⟨{ fut with waiter := Function.update fut.waiter racer .waiting }, [],
        fut.event id racer, none⟩
  else .still fut

/-- `asyncio.wait` returns when the first task of the race has completed. -/
def Future.completed (fut : Future) (id : Nat) : Effect :=
  match fut.stage with
  | .racing false => .pushing { fut with stage := .racing true } [.mainStep id]
  | _ => .still fut

def Future.workEnds (fut : Future) (id : Nat) (body : Except Exc Unit) : Option Effect :=
  let ended := { fut with work := some (TaskEnd.ofCoroutine body) }
  match fut.work, fut.stage with
  | none, .racing _ => some (.pushing ended [.completed id])
  | none, .tidying _ current _ _ =>
      some (.pushing ended (if current = .work then [.mainStep id] else []))
  | none, .resolved _ => if fut.waiter .ownCancel = .absent then none else some (.still ended)
  | _, _ => none

/-- The CancelledError of the shutdown reaches `passed_with_context`. -/
def Future.throw (fut : Future) (id : Nat) : Option Effect :=
  if fut.thrown then
    let caught := { fut with thrown := false }
    match fut.stage with
    | .tidying verdict _ rest acknowledged => some (caught.tidy id verdict acknowledged rest)
    | .created => some (.still { caught with stage := .resolved .cancelled })
    | .racing _ => some (.still { caught with stage := .resolved .cancelled })
    | _ => none
  else none

def Future.withdraw (fut : Future) (id : Nat) (racer : Racer) : Option Effect :=
  let left : Future := { fut with withdrawn := Function.update fut.withdrawn racer true }
  match fut.waiter racer with
  | .waiting =>
      some ⟨{ left with waiter := Function.update fut.waiter racer .queued },
        [.waiterStep id racer], none, fut.event id racer⟩
  | .queued => some (.still left)
  | _ => none

def State.withReady (s : State) (ready : Nat → List Callback) : State := { s with ready := ready }

def State.push (s : State) (loop : Nat) (callback : Callback) : State :=
  s.withReady (Function.update s.ready loop (s.ready loop ++ [callback]))

def State.apply (s : State) (id : Nat) (effect : Effect) : State :=
  { s with
    futures := Function.update s.futures id (some effect.future)
    ready := Function.update s.ready effect.future.loop
      (s.ready effect.future.loop ++ effect.pushed)
    waiters := fun event =>
      (if effect.leaves = some event then (s.waiters event).filter (· ≠ id)
        else s.waiters event) ++ (if effect.joins = some event then [id] else []) }

def State.withFuture (s : State) (id : Nat) (effect : Future → Option Effect) : Option State :=
  (s.futures id).bind fun fut => (effect fut).map fun effect => s.apply id effect

def State.fired (s : State) (fut : Future) (id : Nat) (racer : Racer) : Bool :=
  match fut.event id racer with
  | some event => s.flag event
  | none => fut.expired

def State.eventLoop (s : State) : EventId → Option Nat
  | .own future => (s.futures future).map Future.loop
  | .worker worker => (s.workers worker).map Worker.loop

def State.foreign (s : State) (fut : Future) (id : Nat) (racer : Racer) : Bool :=
  match fut.event id racer with
  | some event => s.eventLoop event != some fut.loop
  | none => false

def Future.wakes (fut : Future) (id : Nat) (event : EventId) : Bool :=
  fut.waiter event.racer == .waiting && fut.event id event.racer == some event

/-- `asyncio.Event.set` on the loop: the flag, and a step for every waiter. -/
def State.setEvent (s : State) (event : EventId) : State :=
  let woken (id : Nat) (fut : Future) : Bool :=
    (s.waiters event).contains id && fut.wakes id event
  { s with
    flag := Function.update s.flag event true
    futures := fun id => (s.futures id).map fun fut =>
      if woken id fut then
        { fut with waiter := Function.update fut.waiter event.racer .queued }
      else fut
    ready := fun loop => s.ready loop ++
      ((s.waiters event).filter fun id =>
        match s.futures id with
        | some fut => fut.loop == loop && woken id fut
        | none => false).map (.waiterStep · event.racer)
    waiters := Function.update s.waiters event [] }

def State.runCallback (s : State) (loop : Nat) (iterated : List Racer) :
    Callback → Option State
  | .start id => s.withFuture id fun fut => some (fut.begin id)
  | .mainStep id => s.withFuture id fun fut => fut.mainStep id iterated
  | .waiterStep id racer => s.withFuture id fun fut =>
      some (fut.waiterStep id racer (s.fired fut id racer) (s.foreign fut id racer))
  | .completed id => s.withFuture id fun fut => some (fut.completed id)
  | .setEvent event => some (s.setEvent event)
  -- `cancel_event.set()` queues the setting like any other
  | .handler worker => some (s.push loop (.setEvent (.worker worker)))

def State.setWorker (s : State) (id : Nat) (worker : Worker) : State :=
  { s with workers := Function.update s.workers id (some worker) }

def Stage.live : Stage → Bool
  | .created => true
  | .racing _ => true
  | .tidying .. => true
  | _ => false

def State.shutdown (s : State) (loop : Nat) : State :=
  { s with
    shutting := Function.update s.shutting loop true
    futures := fun id => (s.futures id).map fun fut =>
      if fut.loop = loop ∧ fut.stage.live then { fut with asked := true, thrown := true } else fut }

def endsCancelled : Except Exc Unit → Bool
  | .ok _ => false
  | .error exc => (convertFutureExc exc).isA .asyncioCancelledError

/-- The ambient event is set already, or belongs to no worker. -/
def State.refuses (s : State) : Option Nat → Bool
  | some worker => (s.workers worker).isNone || s.flag (.worker worker)
  | none => false

def step (s : State) : Label → Option State
  | .capture id loop ambient timeout =>
      if (s.futures id).isSome || s.refuses ambient then none
      else some (s.apply id (.still (.fresh loop ambient timeout)))
  | .submit id => s.withFuture id fun fut =>
      match fut.stage with
      | .captured => some (.pushing { fut with stage := .queued } [.start id])
      | _ => none
  | .cancel id => s.withFuture id fun fut =>
      match fut.stage with
      | .captured => none
      | .resolved _ => none
      | _ => some (.still { fut with requested := true })
  | .signal id => s.withFuture id fun fut =>
      if fut.requested then some (.pushing fut [.setEvent (.own id)]) else none
  | .workEnds id body => s.withFuture id fun fut =>
      match body with
      | .error exc => if exc.stopsLoop then none else fut.workEnds id body
      | .ok _ => fut.workEnds id body
  | .timer id => s.withFuture id fun fut =>
      if fut.waiter .deadline = .waiting then
        some (.pushing
          { fut with expired := true, waiter := Function.update fut.waiter .deadline .queued }
          [.waiterStep id .deadline])
      else none
  | .graceOver id => s.withFuture id fun fut =>
      match fut.stage with
      | .tidying .timedOut .work _ _ =>
          some (.pushing { fut with graceOver := true } [.mainStep id])
      | _ => none
  | .throw id => s.withFuture id fun fut => fut.throw id
  | .withdraw id racer => s.withFuture id fun fut =>
      if s.shutting fut.loop then fut.withdraw id racer else none
  | .runThreaded worker loop =>
      if (s.workers worker).isSome then none else some (s.setWorker worker ⟨loop, false, false⟩)
  | .cancelAwaiter id => (s.workers id).map fun worker =>
      (s.setWorker id { worker with awaiterCancelled := true }).push worker.loop (.handler id)
  | .workerEnds id body => (s.workers id).bind fun worker =>
      if endsCancelled body then
        some ((s.setWorker id { worker with endedCancelled := true }).push
          worker.loop (.handler id))
      else some s
  | .shutdown loop => some (s.shutdown loop)
  | .callback loop iterated =>
      match s.ready loop with
      | [] => none
      | callback :: ready =>
          (s.withReady (Function.update s.ready loop ready)).runCallback loop iterated callback

def State.eventSet (s : State) (id : Nat) (fut : Future) : Prop :=
  s.flag (.own id) = true ∨ ∃ worker, fut.ambient = some worker ∧ s.flag (.worker worker) = true

/-- The coroutine itself ended with a cancellation error: unasked, or with one that
it raised on its own. -/
def Future.selfCancelled (fut : Future) : Prop :=
  ∃ body, fut.work = some body ∧ (setConcurrentFutureState body).isCancellation = true ∧
    (fut.asked = false ∨ body ≠ .cancelled)

def State.quiescent (s : State) (loop : Nat) : Prop := s.ready loop = []

/-- Cancellation is scoped exactly: by whom events are set, why futures are
cancelled, and that no submitted future goes on racing in a loop with nothing left
to do. -/
structure Scoped (s : State) : Prop where
  own : ∀ id fut, s.futures id = some fut → s.flag (.own id) = true → fut.requested = true
  worker : ∀ id worker, s.workers id = some worker → s.flag (.worker id) = true →
    worker.awaiterCancelled = true ∨ worker.endedCancelled = true
  resolved : ∀ id fut done, s.futures id = some fut → fut.stage = .resolved done →
    done.isCancellation = true →
    s.eventSet id fut ∨ fut.selfCancelled ∨ s.shutting fut.loop = true
  prompt : ∀ id fut, s.futures id = some fut → fut.stage ≠ .captured →
    s.quiescent fut.loop → s.eventSet id fut →
    (∀ woken, fut.stage ≠ .racing woken) ∧ (fut.work.isSome = true ∨ fut.asked = true)

/-- A submission captures no event that is bound to another loop than its own. -/
def BoundHere (s : State) : Label → Bool
  | .capture _ loop (some worker) _ => (s.workers worker).map Worker.loop == some loop
  | _ => true

end Koil.CancelScope
