import Koil.Contexts
import Koil.Runs

/-! `async_to_qt` and `async_gen_to_qt`: what a run on the loop emits, the slots that a Qt
thread calls for it, and the Context objects in which they run.

The wrappers and all slots belong to one Qt thread, and slots of its own signals are called at
once. Everything else about Qt is left open, and so is which verdict the race of a run comes
to. -/

namespace Koil.QtEmissions

open Contexts Runs

variable {C V : Type}

inductive Kind
  | coroutine
  | generator
  deriving DecidableEq, Repr

inductive Signal (V : Type) where
  | yielded (value : V)
  | returned (value : V)
  | done
  | errored (exc : Exc)
  | cancelled
  deriving DecidableEq, Repr

structure Setup where
  kind : Nat → Kind

/-- An event in the queue of the Qt thread. `scope` is the Context in which the wrapper emits
the signal again, if it does. -/
structure Event (C V : Type) where
  number : Nat
  run : Nat
  signal : Signal V
  scope : Option C

structure Frame (C V : Type) where
  event : Event C V
  slots : List Nat

inductive Outcome
  | returned
  | errored (exc : Exc)
  | cancelled
  deriving DecidableEq, Repr

/-- `context_future`; what it returns is its value, or `None` for a generator, and the copy of
its context. -/
inductive Work (C V : Type) where
  | absent
  | running
  | returned (value : Option V) (newcontext : C)

structure Task (C V : Type) where
  work : Work C V
  reported : Option Outcome
  resolved : Bool

structure Call where
  slot : Nat
  number : Nat
  seen : Context

/-- What holds a Context object: the bare code of a thread, the task of a run, or one of the
copies that tasks have made. -/
inductive Holder
  | thread (thread : Nat)
  | task (run : Nat)
  | copy (id : Nat)
  deriving DecidableEq, Repr

structure State (V : Type) where
  contexts : Holder → Context
  copies : Nat
  tasks : Nat → Task Nat V
  queue : List (Event Nat V)
  frames : List (Frame Nat V)
  emitted : List (Nat × Signal V)
  calls : List Call

def start (contexts : Nat → Context) : State V where
  contexts
    | .thread thread => contexts thread
    | _ => Context.empty
  copies := 0
  tasks _ := ⟨.absent, none, false⟩
  queue := []
  frames := []
  emitted := []
  calls := []

/-- The Qt thread; every other thread is any number but this. -/
def qt : Nat := 0

/-- What the code of the Qt thread runs in: `ctxs.run(...)` around the innermost emission that
has a Context, or the thread's own. -/
def scopeOf : List (Frame Nat V) → Holder
  | [] => .thread qt
  | frame :: frames =>
      match frame.event.scope with
      | some id => .copy id
      | none => scopeOf frames

def State.holder (s : State V) (thread : Nat) : Holder :=
  if thread = qt then scopeOf s.frames else .thread thread

def State.current (s : State V) (thread : Nat) : Context := s.contexts (s.holder thread)

def State.write (s : State V) (holder : Holder) (ctx : Context) : State V :=
  { s with contexts := Function.update s.contexts holder ctx }

def State.setTask (s : State V) (run : Nat) (task : Task Nat V) : State V :=
  { s with tasks := Function.update s.tasks run task }

/-- `contextvars.copy_context()` in the task of a run. -/
def State.copy (s : State V) (run : Nat) : State V :=
  { s.write (.copy s.copies) (s.contexts (.task run)) with copies := s.copies + 1 }

def State.emit (s : State V) (run : Nat) (signal : Signal V) (scope : Option Nat) : State V :=
  { s with
    queue := s.queue ++ [⟨s.emitted.length, run, signal, scope⟩]
    emitted := s.emitted ++ [(run, signal)] }

def State.call (s : State V) (number slot : Nat) : State V :=
  { s with calls := s.calls ++ [⟨slot, number, s.current qt⟩] }

/-- What `passed_with_context` emits. A coroutine's result comes with the very Context that its
future gets. -/
def report (kind : Kind) : Outcome → Work C V → Option (Signal V × Option C)
  | .returned, .returned value newcontext =>
      match kind, value with
      | .coroutine, some value => some (.returned value, some newcontext)
      | .generator, none => some (.done, none)
      | _, _ => none
  | .returned, _ => none
  | .errored _, .absent => none
  | .errored exc, _ => some (.errored exc, none)
  | .cancelled, .absent => none
  | .cancelled, _ => some (.cancelled, none)

/-- What the threads, the tasks on the loop and the Qt event loop do. A slot may run an event
loop of its own, so that events are dispatched while it runs. Qt dispatches the events in its
queue in any order and to any slots; `again` says that it has the event once more, for another
connection. -/
inductive Label (V : Type) where
  | assign (thread : Nat) (var : Var) (value : Option Val)
  | submit (thread run : Nat)
  | taskAssigns (run : Nat) (var : Var) (value : Option Val)
  | yields (run : Nat) (value : V)
  | returns (run : Nat) (value : Option V)
  | reports (run : Nat) (outcome : Outcome)
  | resolves (run : Nat)
  | result (thread run : Nat)
  | dispatch (position : Nat) (slots : List Nat) (again : Bool)
  | slotReturns

def remaining (queue : List (Event C V)) (position : Nat) (again : Bool) : List (Event C V) :=
  if again then queue else queue.eraseIdx position

/-- The slots that are connected to the signal itself may each have an event of their own. Where
the wrapper emits the signal again there is one event, for the wrapper's slot. -/
def Event.mayRepeat (event : Event C V) (again : Bool) : Bool := event.scope.isNone || !again

def step (setup : Setup) (s : State V) : Label V → Option (State V)
  | .assign thread var value =>
      some (s.write (s.holder thread) (Function.update (s.current thread) var value))
  | .submit thread run =>
      match (s.tasks run).work with
      | .absent =>
          some ((s.write (.task run) (s.current thread)).setTask run ⟨.running, none, false⟩)
      | _ => none
  | .taskAssigns run var value =>
      match (s.tasks run).work with
      | .running =>
          some (s.write (.task run) (Function.update (s.contexts (.task run)) var value))
      | _ => none
  | .yields run value =>
      match (s.tasks run).work, setup.kind run with
      | .running, .generator => some ((s.copy run).emit run (.yielded value) (some s.copies))
      | _, _ => none
  | .returns run value =>
      match (s.tasks run).work with
      | .running =>
          if value.isSome = (setup.kind run == .coroutine) then
            some ((s.copy run).setTask run { s.tasks run with work := .returned value s.copies })
          else none
      | _ => none
  | .reports run outcome =>
      match (s.tasks run).reported, report (setup.kind run) outcome (s.tasks run).work with
      | none, some (signal, scope) =>
          some ((s.setTask run { s.tasks run with reported := some outcome }).emit run signal scope)
      | _, _ => none
  | .resolves run =>
      match (s.tasks run).reported with
      | some _ => some (s.setTask run { s.tasks run with resolved := true })
      | none => none
  | .result thread run =>
      match s.tasks run with
      | ⟨.returned _ newcontext, some .returned, true⟩ =>
          some (s.write (s.holder thread)
            ((s.current thread).setItems (s.contexts (.copy newcontext))))
      | _ => none
  | .dispatch position slots again =>
      match s.queue[position]? with
      | none => none
      | some event =>
          if event.mayRepeat again = false then none
          else
            match slots with
            | [] => some { s with queue := remaining s.queue position again }
            | slot :: slots =>
                some ({ s with
                  queue := remaining s.queue position again
                  frames := ⟨event, slot :: slots⟩ :: s.frames }.call event.number slot)
  | .slotReturns =>
      match s.frames with
      | [] => none
      | ⟨event, slots⟩ :: frames =>
          match slots.tail with
          | [] => some { s with frames := frames }
          | slot :: slots =>
              some ({ s with frames := ⟨event, slot :: slots⟩ :: frames }.call event.number slot)

end Koil.QtEmissions
