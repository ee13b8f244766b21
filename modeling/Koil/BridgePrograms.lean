import Koil.Contexts
import Koil.Submission
import Koil.ThreadedRun

/-! Programs that cross the bridge: what koil makes of them, context by context, and
what they mean on the variables of a single context. -/

namespace Koil.Bridging

open Contexts Race
open ThreadedRun (wrapper)

inductive Side
  | sync
  | async
  deriving DecidableEq, Repr

/-- User code. Only sync code calls `unkoil`, and only coroutines await
`run_threaded` (`bridge` false) or `run_threaded_bridged`. -/
inductive Prog : Side → Type
  | pure {side : Side} (value : Val) : Prog side
  | read {side : Side} (name : Nat) : Prog side
  | assign {side : Side} (name : Nat) (value : Val) : Prog side
  | raise {side : Side} (cls : UserClass) (args : String) : Prog side
  | bind {side : Side} (first : Prog side) (next : Val → Prog side) : Prog side
  | tryExcept {side : Side} (body : Prog side) (caught : ExcClass)
      (handler : Exc → Prog side) : Prog side
  | unkoil (sub : Prog .async) : Prog .sync
  | runThreaded (bridge : Bool) (sub : Prog .sync) : Prog .async

/-- A subprogram's assignments are kept if they are to be, and it returns. -/
def crossing (keep : Bool) (vars : Vars) : Except Exc Val × Vars → Except Exc Val × Vars
  | (.ok value, after) => (.ok value, if keep then after else vars)
  | (.error exc, _) => (.error exc, vars)

/-- Direct evaluation, on the variables of a single context. -/
def Prog.direct : {side : Side} → Prog side → Vars → Except Exc Val × Vars
  | _, .pure value, vars => (.ok value, vars)
  | _, .read name, vars => (.ok ((vars name).getD .nothing), vars)
  | _, .assign name value, vars => (.ok .nothing, Function.update vars name (some value))
  | _, .raise cls args, vars => (.error ⟨.user cls, args⟩, vars)
  | _, .bind first next, vars =>
      match first.direct vars with
      | (.ok value, after) => (next value).direct after
      | (.error exc, after) => (.error exc, after)
  | _, .tryExcept body caught handler, vars =>
      match body.direct vars with
      | (.ok value, after) => (.ok value, after)
      | (.error exc, after) =>
          if exc.isInstance caught then (handler exc).direct after else (.error exc, after)
  | _, .unkoil sub, vars => crossing true vars (sub.direct vars)
  | _, .runThreaded bridge sub, vars => crossing bridge vars (sub.direct vars)

structure Event where
  loop : Nat
  isSet : Bool
  deriving DecidableEq, Repr

structure Call where
  before : Context
  after : Context

/-- The events made so far, the pool threads' own contexts, and the calls that are over. -/
structure State where
  events : List Event
  pool : Nat → Context
  calls : List Call

/-- What does not change: the Koils and loops, which pool thread serves which worker,
what the waiters do in the races which the work wins, and two texts of messages. -/
structure Setup where
  syncInAsync : Nat → Bool
  closed : Nat → Bool
  serves : Nat → Nat
  waiters : (config : Config) → Waiters config
  advice : String
  shown : Nat → String

structure Ended where
  result : Except Exc Val
  state : State
  ctx : Context

def State.newEvent (s : State) (loop : Nat) : State :=
  { s with events := s.events ++ [⟨loop, false⟩] }

def State.setEvent (s : State) (event : Nat) : State :=
  { s with events := s.events.modify event fun before => { before with isSet := true } }

def State.leave (s : State) (thread : Nat) (own : Context) : State :=
  { s with pool := Function.update s.pool thread own }

def State.called (s : State) (before after : Context) (result : Except Exc Val) : Ended :=
  ⟨result, { s with calls := ⟨before, after⟩ :: s.calls }, after⟩

def State.ambient (s : State) (ctx : Context) : Option Event :=
  match ctx.getD .currentCancelEvent with
  | .event event => s.events[event]?
  | _ => none

def stopsLoop : Except Exc Val → Bool
  | .ok _ => false
  | .error exc => exc.stopsLoop

/-- `result()` for a coroutine that has ended. Nothing follows where the coroutine
has stopped the loop: the shutdown tears down every other coroutine on it. -/
def Setup.result (setup : Setup) (config : Config) (ctx : Context) (ended : Ended) :
    Option Ended :=
  if stopsLoop ended.result then none
  else
    let body := ended.result.map fun value => (value, ended.ctx)
    (submittedResult (setup.waiters config) body).map fun
      | .ok (value, newcontext) =>
          ended.state.called ctx (ctx.setItems newcontext) (.ok value)
      | .error exc => ended.state.called ctx ctx (.error exc)

/-- `unkoil(coro)`. An ambient event of another loop would fail in its waiter and let
the race have any end. -/
def Setup.unkoil (setup : Setup) (running : Option Nat) (s : State) (ctx : Context)
    (coro : Nat → Context → Option Ended) : Option Ended :=
  match ctx.getKoiledLoopOrRaise running setup.syncInAsync setup.closed setup.advice with
  | .error exc => some (s.called ctx ctx (.error exc))
  | .ok loop =>
      match s.ambient ctx with
      | none => (coro loop (ctx.setItems ctx)).bind (setup.result ⟨false, none, false⟩ ctx)
      | some event =>
          if event.isSet then
            some (s.called ctx ctx (.error (.of .threadCancelledError "Thread was cancelled")))
          else if event.loop ≠ loop then none
          else (coro loop (ctx.setItems ctx)).bind (setup.result ⟨true, none, false⟩ ctx)

def couldNotCancel (future : String) : String :=
  "We could not successfully cancel the future " ++ future ++ (" in another thread. Make sure " ++
    "you are not blocking the thread with a long running task and check if you call " ++
    "check_cancelled periodically.")

/-- `_run_threaded` once its function has ended, in a thread with `own` as its context. -/
def Setup.workerOver (setup : Setup) (bridge : Bool) (ctx : Context) (event : Nat)
    (own : Context) (ended : Ended) : Ended :=
  let s := ended.state.leave (setup.serves event) own
  match (copyFutureState (wrapper ended.result)).get with
  | .ok value =>
      s.called ctx (if bridge then ctx.propagateContextOut ended.ctx else ctx) (.ok value)
  | .error exc =>
      if exc.isA .asyncioCancelledError then
        -- the handler takes the function's own exception for a cancellation
        let raised : Exc :=
          if exc.isA .timeoutError && !exc.isA .threadCancelledError then
            .of .koilError (couldNotCancel (setup.shown event))
          else exc
        (s.setEvent event).called ctx ctx (.error raised)
      else s.called ctx ctx (.error exc)

/-- What koil makes of a program, with the loop running in its thread and the free
threads of the executor. There is no end where a worker has to wait for a thread
which is never free, or where the loop is stopped. -/
def Prog.run (setup : Setup) :
    {side : Side} → Prog side → Option Nat → Nat → State → Context → Option Ended
  | _, .pure value, _, _, s, ctx => some ⟨.ok value, s, ctx⟩
  | _, .read name, _, _, s, ctx => some ⟨.ok (ctx.getD (.user name)), s, ctx⟩
  | _, .assign name value, _, _, s, ctx => some ⟨.ok .nothing, s, ctx.set (.user name) value⟩
  | _, .raise cls args, _, _, s, ctx => some ⟨.error ⟨.user cls, args⟩, s, ctx⟩
  | _, .bind first next, running, free, s, ctx =>
      (first.run setup running free s ctx).bind fun ended =>
        match ended.result with
        | .ok value => (next value).run setup running free ended.state ended.ctx
        | .error _ => some ended
  | _, .tryExcept body caught handler, running, free, s, ctx =>
      (body.run setup running free s ctx).bind fun ended =>
        match ended.result with
        | .ok _ => some ended
        | .error exc =>
            if exc.isInstance caught then
              (handler exc).run setup running free ended.state ended.ctx
            else some ended
  | _, .unkoil sub, running, free, s, ctx =>
      setup.unkoil running s ctx fun loop task => sub.run setup (some loop) free s task
  | _, .runThreaded bridge sub, running, free, s, ctx =>
      match running, free with
      | some loop, free + 1 =>
          let event := s.events.length
          let own := s.pool (setup.serves event)
          (sub.run setup none free (s.newEvent loop) (ctx.forWorker loop event)).map
            (setup.workerOver bridge ctx event own)
      | _, _ => none

end Koil.Bridging
