import Koil.Koils
import Koil.Submission
import Koil.WithStatement

/-! Async context managers used from sync code: `@koilable` classes and `koiled_cm`. -/

namespace Koil.Managers

open Contexts Koils WithStatement

/-- Where code runs, and so to which Context object the tokens of its ContextVars belong: in
the sync thread, or in a task of a loop. -/
inductive Site
  | thread
  | task (number : Nat)
  deriving DecidableEq, Repr

/-- What a coroutine sees: the state of the user's own program and its context; where it runs;
whether another racer is done while it still runs, and whether it was cancelled for that at
one of its awaits. -/
structure Inside (τ : Type) where
  user : τ
  ctx : Context
  site : Site
  loses : Bool
  cancelled : Bool

abbrev Coroutine (τ α : Type) := EStateM Exc (Inside τ) α

/-- An async context manager: its `__aenter__`, its `__aexit__` with the truth value of
what that returns, and how an error tells to await either of them instead. -/
structure Manager (τ α : Type) where
  aenter : Coroutine τ α
  aexit : Option Exc → Coroutine τ Bool
  awaitEnter : String
  awaitExit : String

inductive Call
  | aenter (manager : Nat)
  | aexit (manager : Nat) (exc : Option Exc)
  | other
  deriving DecidableEq, Repr

/-- What does not change: the loop running in the thread, which loop threads end before a
Koil's `__exit__` abandons them, which loops are closed by then after a coroutine's
exception has stopped them, and the loop that the ambient cancel event is bound to. -/
structure Env where
  running : Option Nat
  joins : Nat → Bool
  dies : Nat → Bool
  event : Option Nat

/-- The Koils, loops and context; the number of Koils made so far; the Koil that an object
of a `@koilable` class has under its field name; the `_koil` and `_own_koil` of a
`_KoiledContextManager`; what the next looks at the ambient cancel event find; and the
coroutines started and loops stopped so far, the latest first. -/
structure World (τ : Type) where
  base : Koils.State
  koilsMade : Nat
  field : Nat → Option Nat
  given : Nat → Option Nat
  own : Nat → Option Nat
  isSet : Nat → Bool
  user : τ
  started : List Call
  stopped : List Nat

variable {τ α : Type}

def World.fresh (koils : Nat) (user : τ) : World τ where
  base := ⟨fun _ => .fresh true, fun _ => false, 0, .empty⟩
  koilsMade := koils
  field _ := none
  given _ := none
  own _ := none
  isSet _ := false
  user := user
  started := []
  stopped := []

abbrev Sync (τ α : Type) := EStateM Exc (World τ) α

/-- `cancel_event is not None and cancel_event.is_set()`; the event may be set before any
later look at it. -/
def World.look (w : World τ) : World τ := { w with isSet := fun later => w.isSet (later + 1) }

def World.ambient (w : World τ) : Val := w.base.ctx.getD .globalKoil

/-- `get_koiled_loop_or_raise(fn=coro)` and then the check of `run_async_sharing_context`. -/
def submits (env : Env) (advice : String) : Sync τ Nat := fun w =>
  match w.base.getKoiledLoopOrRaise env.running advice with
  | .error exc => .error exc w
  | .ok loop =>
      if w.isSet 0 then .error (.of .threadCancelledError "Thread was cancelled") w.look
      else .ok loop w.look

/-- The ambient cancel event is bound to another loop, on which its `wait()` raises. -/
def Env.foreign (env : Env) (loop : Nat) : Bool := env.event.any (fun bound => bound != loop)

/-- A cancel event ends the race of a coroutine that does not end at once: the waiter of a
foreign event is done at once, and the event may be set while the coroutine runs. -/
def World.loses (w : World τ) (env : Env) (loop : Nat) : Bool := env.foreign loop || w.isSet 0

/-- `passed_with_context`: a coroutine that was cancelled for its race does not return. -/
def raced (coro : Coroutine τ α) : Coroutine τ α := fun inside =>
  match coro inside with
  | .ok value after =>
      if inside.loses && after.cancelled then
        .error (Race.unwound (.ok value : Except Exc α)) after
      else .ok value after
  | .error exc after =>
      if inside.loses && after.cancelled then
        .error (Race.unwound (.error exc : Except Exc α)) after
      else .error exc after

/-- What a coroutine sees that is started here: a task of its own, with a copy of the context. -/
def World.inside (w : World τ) (env : Env) (loop : Nat) : Inside τ :=
  ⟨w.user, w.base.ctx, .task w.started.length, w.loses env loop, false⟩

def runs (env : Env) (call : Call) (coro : Coroutine τ α) (loop : Nat) : Sync τ α := fun w =>
  match raced coro (w.inside env loop) with
  | .ok value inside =>
      .ok value { w.look with
        base := { w.base with ctx := w.base.ctx.setItems inside.ctx }
        user := inside.user
        started := call :: w.started }
  | .error exc inside =>
      let closed :=
        if exc.stopsLoop && env.dies loop then Function.update w.base.closed loop true
        else w.base.closed
      .error (Race.crossed exc) { w.look with
        base := { w.base with closed := closed }
        user := inside.user
        started := call :: w.started }

def unkoil (env : Env) (advice : String) (call : Call) (coro : Coroutine τ α) : Sync τ α := do
  let loop ← submits env advice
  runs env call coro loop

def enterKoil (env : Env) (koil : Nat) : Sync τ Unit := fun w =>
  match w.base.enter env.running koil with
  | .ok base => .ok () { w with base := base }
  | .error exc => .error exc w

def exitKoil (env : Env) (koil : Nat) : Sync τ Unit := fun w =>
  let joined := (w.base.koils koil).loop.any env.joins
  let exited := w.base.exit env.running koil joined
  let after := { w with base := exited.state, stopped := exited.stopped.toList ++ w.stopped }
  match exited.raised with
  | none => .ok () after
  | some exc => .error exc after

def exitIfAny (env : Env) : Option Nat → Sync τ Unit
  | none => pure ()
  | some koil => exitKoil env koil

def World.makeKoil (w : World τ) : World τ :=
  { w with base := w.base.setKoil w.koilsMade (.fresh true), koilsMade := w.koilsMade + 1 }

/-- `setattr(self, fieldname, Koil())` unless the object has a Koil there already. -/
def fieldKoil (object : Nat) : Sync τ Nat := fun w =>
  match w.field object with
  | some koil => .ok koil w
  | none =>
      .ok w.koilsMade
        { w.makeKoil with field := Function.update w.field object (some w.koilsMade) }

def koiledEnter (env : Env) (manager : Manager τ α) (object : Nat) : Sync τ α := do
  let w ← get
  if w.ambient ≠ .nothing then
    unkoil env manager.awaitEnter (.aenter object) manager.aenter
  else
    let koil ← fieldKoil object
    enterKoil env koil
    reraising (unkoil env manager.awaitEnter (.aenter object) manager.aenter)
      (exitKoil env koil)

/-- `koiled_exit` of a `@koilable` class, which returns `None`. -/
def koiledExit (env : Env) (manager : Manager τ α) (object : Nat) (exc : Option Exc) :
    Sync τ Bool := do
  let _ ← unkoil env manager.awaitExit (.aexit object exc) (manager.aexit exc)
  let w ← get
  exitIfAny env (w.field object)
  return false

/-- `self._own_koil = self._koil if self._koil is not None else Koil()`. -/
def ownKoil (cm : Nat) : Sync τ Nat := fun w =>
  match w.given cm with
  | some koil => .ok koil { w with own := Function.update w.own cm (some koil) }
  | none =>
      .ok w.koilsMade { w.makeKoil with own := Function.update w.own cm (some w.koilsMade) }

/-- `if self._own_koil is not None: self._own_koil.__exit__(...); self._own_koil = None`. -/
def exitOwn (env : Env) (cm : Nat) : Sync τ Unit := do
  let w ← get
  match w.own cm with
  | none => pure ()
  | some koil =>
      exitKoil env koil
      modify fun w => { w with own := Function.update w.own cm none }

def cmEnter (env : Env) (manager : Manager τ α) (cm : Nat) : Sync τ α := do
  let w ← get
  if w.ambient = .nothing then
    let koil ← ownKoil cm
    enterKoil env koil
  reraising (unkoil env manager.awaitEnter (.aenter cm) manager.aenter) (exitOwn env cm)

def cmExit (env : Env) (manager : Manager τ α) (cm : Nat) (exc : Option Exc) : Sync τ Bool :=
  finally_ (unkoil env manager.awaitExit (.aexit cm exc) (manager.aexit exc)) (exitOwn env cm)

end Koil.Managers
