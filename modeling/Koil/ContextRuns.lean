import Koil.Contexts
import Koil.Runs

/-! Contexts over whole runs: threads, coroutines and workers of a program that
submits futures, enters and exits Koils and reads results, in any interleaving. -/

namespace Koil.Contexts

/-- The code a context belongs to: a plain thread, the coroutine of a future, or
the function of a `run_threaded` call. -/
inductive Place
  | thread (id : Nat)
  | coroutine (future : Nat)
  | worker (id : Nat)
  deriving DecidableEq, Repr

/-- What is fixed for a run: the loop running in a thread, the loops which are
not koil's, and each Koil's `sync_in_async`. -/
structure World where
  running : Nat → Option Nat
  foreign : Nat → Bool
  syncInAsync : Nat → Bool

/-- How a coroutine ended; `newcontext` is copied where it returns. -/
inductive Outcome
  | returned (newcontext : Context)
  | raised

structure Future where
  loop : Nat
  ctxs : Context
  assigned : Var → Bool
  outcome : Option Outcome

structure Managed where
  loop : Option Nat
  loopThread : Bool
  deriving DecidableEq, Repr

structure Worker where
  caller : Place
  loop : Nat
  bridge : Bool
  ended : Bool
  deriving DecidableEq, Repr

inductive LoopState
  | absent
  | opened
  | closed
  deriving DecidableEq, Repr

structure State where
  env : Place → Context
  futures : Nat → Option Future
  koils : Nat → Managed
  workers : Nat → Option Worker
  loops : Nat → LoopState
  cancelled : Nat → Option Bool

def World.start (world : World) : State where
  env _ := .empty
  futures _ := none
  koils _ := ⟨none, false⟩
  workers _ := none
  loops loop := if world.foreign loop then .opened else .absent
  cancelled _ := none

inductive Label
  | assign (at_ : Place) (name : Nat) (value : Option Nat)
  | enter (at_ : Place) (koil loop : Nat)
  | exit (at_ : Place) (koil : Nat) (joined : Bool)
  | aenter (at_ : Place) (koil : Nat)
  | aexit (at_ : Place) (koil : Nat)
  | submit (at_ : Place) (future : Nat)
  | coroutineEnds (future : Nat) (returned : Bool)
  | result (at_ : Place) (future : Nat)
  | runThreaded (at_ : Place) (worker event : Nat) (bridge : Bool)
  | workerEnds (worker : Nat) (returned : Bool)
  | setEvent (event : Nat)
  deriving DecidableEq, Repr

def State.active (s : State) : Place → Bool
  | .thread _ => true
  | .coroutine future =>
      match s.futures future with
      | some fut => fut.outcome.isNone
      | none => false
  | .worker worker =>
      match s.workers worker with
      | some call => !call.ended
      | none => false

def State.runningLoop (world : World) (s : State) : Place → Option Nat
  | .thread thread => world.running thread
  | .coroutine future => (s.futures future).map Future.loop
  | .worker _ => none

/-- Assignments of several variables at once; `some none` is a reset to unset. -/
abbrev Assignments := Var → Option (Option Val)

def State.assign (s : State) (here : Place) (values : Assignments) : State where
  env place := if place = here then fun var => (values var).getD (s.env here var) else s.env place
  futures future :=
    if here = .coroutine future then
      (s.futures future).map fun fut =>
        { fut with assigned := fun var => fut.assigned var || (values var).isSome }
    else s.futures future
  koils := s.koils
  workers := s.workers
  loops := s.loops
  cancelled := s.cancelled

def Assignments.one (var : Var) (value : Option Val) : Assignments := fun other =>
  if other = var then some value else none

def Assignments.both (first second : Assignments) : Assignments := fun var =>
  (second var).or (first var)

def Assignments.items (ctx : Context) : Assignments := fun var => (ctx var).map some

def State.getKoiledLoop (world : World) (s : State) (here : Place) : Option Nat :=
  ((s.env here).getKoiledLoopOrRaise (s.runningLoop world here) world.syncInAsync
    (fun loop => s.loops loop != .opened) "").toOption

def State.isCancelled (s : State) (here : Place) : Bool :=
  match (s.env here).getD .currentCancelEvent with
  | .event event => s.cancelled event == some true
  | _ => false

def State.enter (world : World) (s : State) (here : Place) (koil loop : Nat) : Option State :=
  if (s.runningLoop world here).isSome && !world.syncInAsync koil then none
  else
    match (s.env here).getD .globalKoil with
    | .nothing =>
        if s.loops loop = .absent then
          some ({ s with
            koils := Function.update s.koils koil ⟨some loop, true⟩
            loops := Function.update s.loops loop .opened }.assign here
              (.both (.one .globalKoil (some (.koil koil)))
                (.one .globalKoilLoop (some (.loop loop)))))
        else none
    | _ => some s

/-- `Koil.__exit__`; `joined` says whether the loop thread ends before it is
abandoned. Called on that thread itself, or with a closed loop, it raises. -/
def State.exit (world : World) (s : State) (here : Place) (koil : Nat) (joined : Bool) :
    Option State :=
  match (s.koils koil).loop with
  | none => some s
  | some loop =>
      let own := s.runningLoop world here = some loop
      if s.loops loop ≠ .opened ∨ ((s.koils koil).loopThread = true ∧ own) then none
      else
        some ({ s with
          koils := Function.update s.koils koil ⟨none, false⟩
          loops :=
            if (s.koils koil).loopThread && joined then Function.update s.loops loop .closed
            else s.loops }.assign here
              (.both (.one .globalKoil (some .nothing)) (.one .globalKoilLoop (some .nothing))))

def State.aenter (world : World) (s : State) (here : Place) (koil : Nat) : State :=
  match s.runningLoop world here with
  | none => s
  | some loop =>
      { s with koils := Function.update s.koils koil ⟨some loop, (s.koils koil).loopThread⟩ }.assign
        here (.one .globalKoilLoop (some (.loop loop)))

/-- `unkoil_task(...)`: the coroutine runs in a copy of the caller's context, in
which setting every item of `ctxs` again changes nothing. -/
def State.submit (world : World) (s : State) (here : Place) (future : Nat) : Option State :=
  match s.getKoiledLoop world here with
  | none => none
  | some loop =>
      if (s.futures future).isSome || s.isCancelled here then none
      else
        let ctxs := s.env here
        some { s with
          env := Function.update s.env (.coroutine future) (ctxs.setItems ctxs)
          futures := Function.update s.futures future
            (some ⟨loop, ctxs, fun _ => false, none⟩) }

def State.coroutineEnds (s : State) (future : Nat) (returned : Bool) : Option State :=
  match s.futures future with
  | some ⟨loop, ctxs, assigned, none⟩ =>
      let outcome : Outcome :=
        if returned then .returned (s.env (.coroutine future)) else .raised
      some { s with
        futures := Function.update s.futures future (some ⟨loop, ctxs, assigned, some outcome⟩) }
  | _ => none

def State.result (s : State) (here : Place) (future : Nat) : Option State :=
  match s.futures future with
  | some ⟨_, _, _, some (.returned newcontext)⟩ => some (s.assign here (.items newcontext))
  | some ⟨_, _, _, some .raised⟩ => some s
  | _ => none

/-- The set-up of `_run_threaded`: a copy of the caller's context with koil's own
variables set in it. -/
def State.runThreaded (world : World) (s : State) (here : Place) (worker event : Nat)
    (bridge : Bool) : Option State :=
  match s.runningLoop world here with
  | none => none
  | some loop =>
      if (s.workers worker).isSome || (s.cancelled event).isSome then none
      else
        some { s with
          env := Function.update s.env (.worker worker) ((s.env here).forWorker loop event)
          workers := Function.update s.workers worker (some ⟨here, loop, bridge, false⟩)
          cancelled := Function.update s.cancelled event (some false) }

/-- The worker function is over; a bridged call copies its variables out on success. -/
def State.workerEnds (s : State) (worker : Nat) (returned : Bool) : Option State :=
  match s.workers worker with
  | some ⟨caller, loop, bridge, false⟩ =>
      let after := { s with
        workers := Function.update s.workers worker (some ⟨caller, loop, bridge, true⟩) }
      if returned && bridge then
        some (after.assign caller fun var =>
          if var.internal then none else Assignments.items (s.env (.worker worker)) var)
      else some after
  | _ => none

def step (world : World) (s : State) : Label → Option State
  | .assign here name value =>
      if s.active here then some (s.assign here (.one (.user name) (value.map .user))) else none
  | .enter here koil loop => if s.active here then s.enter world here koil loop else none
  | .exit here koil joined => if s.active here then s.exit world here koil joined else none
  | .aenter here koil => if s.active here then some (s.aenter world here koil) else none
  | .aexit here _ =>
      if s.active here then some (s.assign here (.one .globalKoil (some .nothing))) else none
  | .submit here future => if s.active here then s.submit world here future else none
  | .coroutineEnds future returned => s.coroutineEnds future returned
  | .result here future => if s.active here then s.result here future else none
  | .runThreaded here worker event bridge =>
      if s.active here then s.runThreaded world here worker event bridge else none
  | .workerEnds worker returned => s.workerEnds worker returned
  | .setEvent event =>
      if (s.cancelled event).isSome then
        some { s with cancelled := Function.update s.cancelled event (some true) }
      else none

end Koil.Contexts
