import Koil.QtFutureSteps

/-! The contexts of many `qt_to_async.acall`s: of the async tasks that make them, of their
slots, which `on_called` runs one after the other or one inside the other on the one Qt
thread, and of that thread itself. -/

namespace Koil

open Contexts QtCalls Runs

variable {α : Type}

namespace QtFutures

def State.running (future : State α) : Bool :=
  match future.stage with
  | .ended _ _ => false
  | _ => true

def State.items (future : State α) : Context :=
  match future.stage, future.aiofuture with
  | .ended _ (.ok _), some (.returned (context, _)) => context
  | _, _ => Context.empty

end QtFutures

namespace QtContexts

abbrev Writes := List (Var × Option Val)

def replay (ctx : Context) (writes : Writes) : Context :=
  writes.foldl (fun ctx write => Function.update ctx write.1 write.2) ctx

/-- One call: its task, the task's context at the call, the copy that the slot runs in, and
the future. `assigned` is a log of what the slot has assigned in the copy, `inner` of what it
has assigned in contexts that it has entered. -/
structure Call (α : Type) where
  task : Nat
  before : Context
  ctx : Context
  started : Bool
  assigned : Writes
  inner : Writes
  future : QtFutures.State α

/-- An async task; `calling` is the call that it awaits. -/
structure Task where
  context : Context
  calling : Option Nat

/-- What runs on the Qt thread: the slot of a call in the copy of the call, or other code in
a context that was entered for it. -/
inductive Frame
  | slot (call : Nat)
  | other (context : Context)

/-- `frames` has the innermost one first; `main` is the context of the bare Qt thread. -/
structure State (α : Type) where
  main : Context
  frames : List Frame
  tasks : Nat → Task
  calls : Nat → Option (Call α)

def start (main : Context) (contexts : Nat → Context) : State α :=
  ⟨main, [], fun task => ⟨contexts task, none⟩, fun _ => none⟩

/-- `contextvars.copy_context()` on the Qt thread. -/
def State.current (s : State α) : Context :=
  match s.frames with
  | [] => s.main
  | .slot call :: _ => ((s.calls call).map Call.ctx).getD Context.empty
  | .other context :: _ => context

/-- The call whose slot runs, in its copy or in a context that it has entered. -/
def runningSlot (frames : List Frame) : Option Nat :=
  frames.findSome? fun
    | .slot call => some call
    | .other _ => none

def State.change (s : State α) (call : Nat) (change : Call α → Call α) : State α :=
  { s with calls := Function.update s.calls call ((s.calls call).map change) }

def State.push (s : State α) (frame : Frame) : State α := { s with frames := frame :: s.frames }

def State.pop (s : State α) (frames : List Frame) : State α := { s with frames := frames }

def State.assign (s : State α) (var : Var) (value : Option Val) : State α :=
  match s.frames with
  | [] => { s with main := Function.update s.main var value }
  | .slot call :: _ =>
      s.change call fun held =>
        { held with
          ctx := Function.update held.ctx var value
          assigned := held.assigned ++ [(var, value)] }
  | .other context :: frames =>
      let entered := s.pop (.other (Function.update context var value) :: frames)
      match runningSlot frames with
      | some call =>
          entered.change call fun held => { held with inner := held.inner ++ [(var, value)] }
      | none => entered

def Call.new (task : Nat) (ctx : Context) : Call α :=
  ⟨task, ctx, ctx, false, [], [], QtFutures.start⟩

/-- The beginning of `acall`: the future, the copy of the context and the signal. -/
def State.acall (s : State α) (task call : Nat) : State α :=
  let ctx := (s.tasks task).context
  { s with
    calls := Function.update s.calls call (some (.new task ctx))
    tasks := Function.update s.tasks task ⟨ctx, some call⟩ }

def State.finish (s : State α) (task : Nat) (items : Context) : State α :=
  { s with
    tasks := Function.update s.tasks task ⟨(s.tasks task).context.setItems items, none⟩ }

/-- The future of a call after a step of it, with which the call may have ended. -/
def State.deliver (s : State α) (call : Nat) (held : Call α) (future : QtFutures.State α) :
    State α :=
  let s := { s with calls := Function.update s.calls call (some { held with future := future }) }
  if held.future.running && !future.running then s.finish held.task future.items else s

def State.started (s : State α) (call : Nat) : Bool :=
  match s.calls call with
  | none => false
  | some held => held.started

/-- What the async tasks, the loop and the code on the Qt thread do. -/
inductive Label (α : Type) where
  | set (task : Nat) (var : Var) (value : Option Val)
  | acall (task call : Nat)
  | onCalled (call : Nat)
  | enter (context : Context)
  | leave
  | raises (exc : Exc)
  | assign (var : Var) (value : Option Val)
  | resolve (call : Nat) (returns : α)
  | reject (call : Nat) (exc : Exc)
  | awaits (call : Nat)
  | callback (call : Nat)
  | cancel (call : Nat)
  | expire (call : Nat)

theorem change_calls (s : State α) (call : Nat) (change : Call α → Call α) (other : Nat) :
    (s.change call change).calls other =
      if other = call then (s.calls call).map change else s.calls other := by
  simp [State.change, Function.update_apply]

theorem replay_append (ctx : Context) (writes : Writes) (var : Var) (value : Option Val) :
    replay ctx (writes ++ [(var, value)]) = Function.update (replay ctx writes) var value := by
  simp [replay]

theorem replay_own {ctx : Context} {writes : Writes} {var : Var} {value : Val}
    (holds : replay ctx writes var = some value) :
    ctx var = some value ∨ (var, some value) ∈ writes := by
  induction writes generalizing ctx with
  | nil => exact .inl holds
  | cons write writes ih =>
      obtain ⟨written, last⟩ := write
      have earlier : replay (Function.update ctx written last) writes var = some value := holds
      rcases ih earlier with first | later
      · by_cases same : var = written
        · subst same
          rw [Function.update_self] at first
          subst first
          exact .inr List.mem_cons_self
        · rw [Function.update_of_ne same] at first
          exact .inl first
      · exact .inr (List.mem_cons_of_mem _ later)

/-- What happens to a call but for its future: the logs grow, and the copy stays what they
make of it. -/
structure Call.Grows (held held' : Call α) : Prop where
  task : held'.task = held.task
  before : held'.before = held.before
  assigned : held.assigned <+: held'.assigned
  inner : held.inner <+: held'.inner
  copy : held.ctx = replay held.before held.assigned →
    held'.ctx = replay held'.before held'.assigned

theorem grows_future (held : Call α) (future : QtFutures.State α) :
    held.Grows { held with future := future } :=
  ⟨rfl, rfl, List.prefix_rfl, List.prefix_rfl, id⟩

theorem grows_refl (held : Call α) : held.Grows held := grows_future held held.future

variable [Signals]

def State.advance (setups : Nat → Setup) (s : State α) (call : Nat)
    (label : QtFutures.Label α) : Option (State α) :=
  match s.calls call with
  | none => none
  | some held =>
      match QtFutures.step (setups call) held.future label with
      | none => none
      | some future => some (s.deliver call held future)

def step (setups : Nat → Setup) (s : State α) : Label α → Option (State α)
  | .set task var value =>
      match s.tasks task with
      | ⟨context, none⟩ =>
          some { s with
            tasks := Function.update s.tasks task ⟨Function.update context var value, none⟩ }
      | ⟨_, some _⟩ => none
  | .acall task call =>
      match (s.tasks task).calling, s.calls call with
      | none, none => some (s.acall task call)
      | _, _ => none
  | .onCalled call =>
      match s.calls call with
      | none => none
      | some held =>
          if held.started then none
          else some ((s.change call fun held => { held with started := true }).push (.slot call))
  | .enter context => some (s.push (.other context))
  | .leave =>
      match s.frames with
      | [] => none
      | _ :: frames => some (s.pop frames)
  -- `except Exception as e` of `on_called`
  | .raises exc =>
      match s.frames with
      | .slot call :: frames =>
          if exc.isA .exception then (s.pop frames).advance setups call (.reject exc)
          else some (s.pop frames)
      | _ => none
  | .assign var value => some (s.assign var value)
  | .resolve call returns =>
      if s.started call then s.advance setups call (.resolve s.current returns) else none
  | .reject call exc => if s.started call then s.advance setups call (.reject exc) else none
  | .awaits call => s.advance setups call .awaits
  | .callback call => s.advance setups call .callback
  | .cancel call => s.advance setups call .cancel
  | .expire call => s.advance setups call .expire

/-- What a step does: code of the Qt thread runs, a task that awaits no call sets a
variable or begins one, or a call and its future go on. -/
inductive Effect (setups : Nat → Setup) (s : State α) (label : Label α) : State α → Prop
  | thread {s' : State α} (tasks : s'.tasks = s.tasks)
      (main : s'.main = s.main ∨ s.frames = [] ∧ ∃ var value, label = .assign var value)
      (calls : ∀ call held', s'.calls call = some held' →
        ∃ held, s.calls call = some held ∧ held.Grows held' ∧ held'.future = held.future) :
      Effect setups s label s'
  | set (task : Nat) (context : Context) (free : (s.tasks task).calling = none) :
      Effect setups s label { s with tasks := Function.update s.tasks task ⟨context, none⟩ }
  | acall (task call : Nat) (free : (s.tasks task).calling = none)
      (fresh : s.calls call = none) : Effect setups s label (s.acall task call)
  | future (frames : List Frame) (call : Nat) {held : Call α} {own : QtFutures.Label α}
      {future : QtFutures.State α} (found : s.calls call = some held)
      (advanced : QtFutures.step (setups call) held.future own = some future)
      (resolved : ∀ context returns, own = .resolve context returns →
        label = .resolve call returns ∧ context = s.current) :
      Effect setups s label ((s.pop frames).deliver call held future)

variable {setups : Nat → Setup} {s s' : State α} {label : Label α}

theorem advance_cases {call : Nat} {own : QtFutures.Label α}
    (taken : s.advance setups call own = some s') :
    ∃ held future, s.calls call = some held ∧
      QtFutures.step (setups call) held.future own = some future ∧
      s' = s.deliver call held future := by
  unfold State.advance at taken
  split at taken
  · cases taken
  · next held found =>
      split at taken
      · cases taken
      · next future advanced =>
          cases taken
          exact ⟨held, future, found, advanced, rfl⟩

theorem effect_advance (frames : List Frame) {call : Nat} {own : QtFutures.Label α}
    (taken : (s.pop frames).advance setups call own = some s')
    (resolved : ∀ context returns, own = .resolve context returns →
      label = .resolve call returns ∧ context = s.current) : Effect setups s label s' := by
  obtain ⟨held, future, found, advanced, rfl⟩ := advance_cases taken
  exact .future frames call found advanced resolved

theorem effect_frames (frames : List Frame) : Effect setups s label (s.pop frames) :=
  .thread rfl (.inl rfl) fun _ held found => ⟨held, found, grows_refl held, rfl⟩

theorem effect_change (frames : List Frame) {call : Nat} {change : Call α → Call α}
    (grows : ∀ held : Call α, held.Grows (change held))
    (future : ∀ held : Call α, (change held).future = held.future) :
    Effect setups s label ((s.pop frames).change call change) := by
  refine .thread rfl (.inl rfl) ?_
  intro other held' found
  rw [change_calls] at found
  split at found
  · next same =>
      subst same
      obtain ⟨held, before, rfl⟩ := Option.map_eq_some_iff.mp found
      exact ⟨held, before, grows held, future held⟩
  · exact ⟨held', found, grows_refl held', rfl⟩

theorem effect_assign (var : Var) (value : Option Val) :
    Effect setups s (.assign var value) (s.assign var value) := by
  unfold State.assign
  split
  · next bare =>
      exact .thread rfl (.inr ⟨bare, var, value, rfl⟩) fun _ held found =>
        ⟨held, found, grows_refl held, rfl⟩
  · refine effect_change s.frames ?_ fun _ => rfl
    intro held
    refine ⟨rfl, rfl, List.prefix_append _ _, List.prefix_rfl, ?_⟩
    intro copied
    rw [replay_append, copied]
  · simp only
    split
    · refine effect_change _ ?_ fun _ => rfl
      exact fun held => ⟨rfl, rfl, List.prefix_rfl, List.prefix_append _ _, id⟩
    · exact effect_frames _

theorem step_effect (taken : step setups s label = some s') : Effect setups s label s' := by
  cases label with
  | set task var value =>
      simp only [step] at taken
      split at taken
      · next context free =>
          cases taken
          exact .set task _ (by rw [free])
      · cases taken
  | acall task call =>
      simp only [step] at taken
      split at taken
      · next free fresh =>
          cases taken
          exact .acall task call free fresh
      · cases taken
  | onCalled call =>
      simp only [step] at taken
      split at taken
      · cases taken
      · split at taken
        · cases taken
        · cases taken
          refine effect_change (.slot call :: s.frames) ?_ fun _ => rfl
          exact fun held => ⟨rfl, rfl, List.prefix_rfl, List.prefix_rfl, id⟩
  | enter context =>
      cases taken
      exact effect_frames _
  | leave =>
      simp only [step] at taken
      split at taken
      · cases taken
      · cases taken
        exact effect_frames _
  | raises exc =>
      simp only [step] at taken
      split at taken
      · split at taken
        · exact effect_advance _ taken nofun
        · cases taken
          exact effect_frames _
      · cases taken
  | assign var value =>
      cases taken
      exact effect_assign var value
  | resolve call returns =>
      simp only [step] at taken
      split at taken
      · refine effect_advance s.frames taken ?_
        rintro context value same
        cases same
        exact ⟨rfl, rfl⟩
      · cases taken
  | reject call exc =>
      simp only [step] at taken
      split at taken
      · exact effect_advance s.frames taken nofun
      · cases taken
  | awaits call => exact effect_advance s.frames taken nofun
  | callback call => exact effect_advance s.frames taken nofun
  | cancel call => exact effect_advance s.frames taken nofun
  | expire call => exact effect_advance s.frames taken nofun

end QtContexts

end Koil
