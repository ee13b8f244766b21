import Koil.BlockExits

/-! One `with` statement on an async context manager, through the class that `@koilable`
decorates and through `koiled_cm`. -/

namespace Koil.Managers

open Contexts Koils WithStatement

variable {τ α β : Type}

abbrev Program (τ α : Type) := EStateM Exc (τ × Vars) α

def withVars (ctx : Context) (vars : Vars) : Context
  | .user name => vars name
  | var => ctx var

/-- An async method, wherever it runs: how it ends if nothing cancels it, whether it is at an
await by the time that its race is lost, and how it ends if it is cancelled there. -/
structure Method (τ α : Type) where
  run : Site → Program τ α
  awaits : Site → τ × Vars → Bool
  cancelled : Site → Program τ α

def Method.prompt (program : Program τ α) : Method τ α :=
  ⟨fun _ => program, fun _ _ => false, fun _ => program⟩

def Method.onLoop (method : Method τ α) : Coroutine τ α := fun inside =>
  let seen := (inside.user, inside.ctx.vars)
  let cut := inside.loses && method.awaits inside.site seen
  match (if cut then method.cancelled else method.run) inside.site seen with
  | .ok value after => .ok value { inside with
      user := after.1, ctx := withVars inside.ctx after.2, cancelled := cut }
  | .error exc after => .error exc { inside with
      user := after.1, ctx := withVars inside.ctx after.2, cancelled := cut }

def World.setSeen (w : World τ) (seen : τ × Vars) : World τ :=
  { w with user := seen.1, base := { w.base with ctx := withVars w.base.ctx seen.2 } }

def Program.inThread (program : Program τ α) : Sync τ α := fun w =>
  match program w.seen with
  | .ok value seen => .ok value (w.setSeen seen)
  | .error exc seen => .error exc (w.setSeen seen)

/-- A manager of the user's own program, which does not touch koil's own variables. -/
structure UserManager (τ α : Type) where
  aenter : Method τ α
  aexit : Option Exc → Method τ Bool
  awaitEnter : String
  awaitExit : String

def UserManager.manager (manager : UserManager τ α) : Manager τ α where
  aenter := manager.aenter.onLoop
  aexit exc := (manager.aexit exc).onLoop
  awaitEnter := manager.awaitEnter
  awaitExit := manager.awaitExit

/-- `with cm as value: body`, where `cm` is `koiled_cm(manager)`. -/
def viaCm (env : Env) (manager : UserManager τ α) (cm : Nat) (body : α → Program τ β) :
    Sync τ (Option β) :=
  withStatement (cmEnter env manager.manager cm) (cmExit env manager.manager cm)
    fun value => (body value).inThread

def merge (vars : Vars) (seen : τ × Vars) : τ × Vars :=
  (seen.1, fun name => (seen.2 name).or (vars name))

inductive Play (τ β : Type)
  | failsEnter (exc : Exc) (seen : τ × Vars)
  | failsExit (exc : Exc) (seen : τ × Vars)
  | completes (ended : Except Exc β) (truthy : Bool) (seen : τ × Vars)

def result {σ : Type} : EStateM.Result Exc σ α → Except Exc α
  | .ok value _ => .ok value
  | .error exc _ => .error exc

structure Moment where
  site : Site
  loses : Bool

/-- How `passed_with_context` ends around the method. -/
def Method.raced (method : Method τ α) (moment : Moment) : Program τ α := fun seen =>
  if moment.loses && method.awaits moment.site seen then
    match method.cancelled moment.site seen with
    | .ok value after => .error (Race.unwound (.ok value : Except Exc α)) after
    | .error exc after => .error (Race.unwound (.error exc : Except Exc α)) after
  else method.run moment.site seen

structure Parts (τ α : Type) where
  aenter : Program τ α
  aexit : Option Exc → Program τ Bool

def UserManager.parts (manager : UserManager τ α) (first second : Moment) : Parts τ α :=
  ⟨manager.aenter.raced first, fun exc => (manager.aexit exc).raced second⟩

/-- `__aenter__` runs on the loop, then the body in the thread, then `__aexit__` on the loop. -/
def Parts.play (parts : Parts τ α) (body : α → Program τ β) (seen : τ × Vars) : Play τ β :=
  match parts.aenter seen with
  | .error exc entered => .failsEnter exc (entered.1, seen.2)
  | .ok value entered =>
      let ended := body value (merge seen.2 entered)
      match parts.aexit (thrown ended) (left ended) with
      | .error exc exited => .failsExit exc (exited.1, (left ended).2)
      | .ok truthy exited => .completes (result ended) truthy (merge (left ended).2 exited)

/-- Where a block that is entered here runs a method, after so many other coroutines. -/
def World.moment (w : World τ) (env : Env) (later : Nat) : Moment :=
  ⟨.task (w.started.length + later), (w.runsOn env).any env.foreign⟩

/-- The `@koilable` object and the `koiled_cm` are not in use; the Koil that the object
may have from an earlier block is one that it has made, and has no loop. -/
structure Unused (w : World τ) (object cm : Nat) : Prop where
  field : ∀ koil, w.field object = some koil →
    (w.base.koils koil).loop = none ∧ (w.base.koils koil).syncInAsync = true
  given : w.given cm = none
  own : w.own cm = none

/-- The ambient Koil is what it was before, and every loop made since was stopped. -/
structure Restored (w after : World τ) : Prop where
  ambient : after.ambient = w.ambient
  exited : ∀ loop, w.base.made ≤ loop → loop < after.base.made → loop ∈ after.stopped

end Koil.Managers
