import Koil.Exceptions
import Mathlib.Logic.Function.Basic

/-! Contexts of ContextVars, and the two ways koil copies one back into its caller. -/

namespace Koil.Contexts

/-- A ContextVar: one of user code, or one of those `koil.context` defines for
koil's own bookkeeping. -/
inductive Var
  | user (name : Nat)
  | globalKoil
  | globalKoilLoop
  | currentCancelEvent
  deriving DecidableEq, Repr

/-- Membership in `_BRIDGE_INTERNAL_VARS`. -/
def Var.internal : Var → Bool
  | .user _ => false
  | _ => true

inductive Val
  | nothing
  | koil (id : Nat)
  | loop (id : Nat)
  | event (id : Nat)
  | user (value : Nat)
  deriving DecidableEq, Repr

abbrev Context := Var → Option Val

def Context.empty : Context := fun _ => none

abbrev Vars := Nat → Option Val

def Context.vars (ctx : Context) : Vars := fun name => ctx (.user name)

/-- `var.get()` for a variable with the default `None`. -/
def Context.getD (ctx : Context) (var : Var) : Val := (ctx var).getD .nothing

def Context.set (ctx : Context) (var : Var) (value : Val) : Context :=
  Function.update ctx var (some value)

/-- `for var, value in items.items(): var.set(value)`. -/
def Context.setItems (ctx items : Context) : Context := fun var => (items var).or (ctx var)

def Context.propagateContextOut (ctx worker : Context) : Context := fun var =>
  if var.internal then ctx var else (worker var).or (ctx var)

def Context.forWorker (ctx : Context) (loop event : Nat) : Context :=
  ((ctx.set .globalKoil (ctx.getD .globalKoil)).set .globalKoilLoop (.loop loop)).set
    .currentCancelEvent (.event event)

/-- The ambient Koil, if there is one, allows sync code in a thread with a loop. -/
def Context.allowsSyncInAsync (ctx : Context) (syncInAsync : Nat → Bool) : Bool :=
  match ctx.getD .globalKoil with
  | .koil koil => syncInAsync koil
  | _ => false

/-- `get_koiled_loop_or_raise(fn=fn)`; `advice` is `_await_it_instead(fn)`. -/
def Context.getKoiledLoopOrRaise (ctx : Context) (running : Option Nat)
    (syncInAsync closed : Nat → Bool) (advice : String) : Except Exc Nat :=
  match ctx.getD .globalKoilLoop, running with
  | .loop loop, none =>
      if closed loop then .error (.of .runtimeError "Loop is not running") else .ok loop
  | .loop loop, some runningLoop =>
      if loop = runningLoop then
        .error (.of .koilError ("Calling unkoil() from within the koil loop itself, which would " ++
          "deadlock. " ++ advice))
      else if ctx.allowsSyncInAsync syncInAsync = false then
        .error (.of .koilError ("Calling unkoil() from within a running event loop while koil " ++
          "doesn't allow sync-in-async (Koil(sync_in_async=True)). " ++ advice))
      else if closed loop then .error (.of .runtimeError "Loop is not running")
      else .ok loop
  | _, none =>
      .error (.of .koilError ("No koil context found: unkoil needs a koil loop to run on. Enter " ++
        "`with Koil():` first, or call from a thread koil started (e.g. via run_threaded)."))
  | _, some _ =>
      .error (.of .koilError ("No koil context found: a sync koil wrapper (unkoil) was called " ++
        "from inside a running event loop, i.e. from async code, where it cannot block. " ++
        advice))

@[simp] theorem set_self (ctx : Context) (var : Var) (value : Val) :
    ctx.set var value var = some value := by simp [Context.set]

@[simp] theorem set_other (ctx : Context) {var other : Var} (value : Val) (ne : other ≠ var) :
    ctx.set var value other = ctx other := by simp [Context.set, ne]

@[simp] theorem setItems_same (ctx : Context) : ctx.setItems ctx = ctx := by
  funext var
  cases held : ctx var <;> simp [Context.setItems, held]

/-- An item leaves a variable as it is when the variable is not among the items
or has the same value there. -/
theorem setItems_eq_iff (ctx items : Context) (var : Var) :
    ctx.setItems items var = ctx var ↔ items var = none ∨ items var = ctx var := by
  cases held : items var <;> simp [Context.setItems, held]

theorem setItems_of_set (ctx items : Context) {var : Var} {value : Val}
    (held : items var = some value) : ctx.setItems items var = some value := by
  simp [Context.setItems, held]

theorem setItems_of_stays {ctx items : Context}
    (stays : ∀ var, (ctx var).isSome = true → (items var).isSome = true) :
    ctx.setItems items = items := by
  funext var
  cases held : items var with
  | some value => simp [Context.setItems, held]
  | none =>
      have unset : ctx var = none := by
        by_contra set
        have isSet := stays var (Option.isSome_iff_ne_none.mpr set)
        simp [held] at isSet
      simp [Context.setItems, held, unset]

theorem propagateContextOut_internal (ctx worker : Context) {var : Var}
    (internal : var.internal = true) : ctx.propagateContextOut worker var = ctx var := by
  simp [Context.propagateContextOut, internal]

theorem propagateContextOut_user (ctx worker : Context) {var : Var}
    (user : var.internal = false) :
    ctx.propagateContextOut worker var = ctx.setItems worker var := by
  simp [Context.propagateContextOut, Context.setItems, user]

theorem propagateContextOut_vars {ctx worker : Context}
    (stays : ∀ var, (ctx var).isSome = true → (worker var).isSome = true) :
    (ctx.propagateContextOut worker).vars = worker.vars := by
  funext name
  rw [Context.vars, propagateContextOut_user ctx worker rfl, setItems_of_stays stays]
  rfl

theorem propagateContextOut_stays (ctx worker : Context) (var : Var)
    (held : (ctx var).isSome = true) : (ctx.propagateContextOut worker var).isSome = true := by
  unfold Context.propagateContextOut
  split
  · exact held
  · simp [held]

theorem vars_set_internal (ctx : Context) {var : Var} (value : Val)
    (internal : var.internal = true) : (ctx.set var value).vars = ctx.vars := by
  funext name
  refine set_other ctx value ?_
  rintro rfl
  cases internal

@[simp] theorem vars_set_user (ctx : Context) (name : Nat) (value : Val) :
    (ctx.set (.user name) value).vars = Function.update ctx.vars name (some value) := by
  funext other
  by_cases same : other = name
  · subst same
    simp [Context.vars]
  · have differ : Var.user other ≠ .user name := by simpa using same
    rw [Function.update_of_ne same, Context.vars, set_other ctx value differ]
    rfl

@[simp] theorem vars_forWorker (ctx : Context) (loop event : Nat) :
    (ctx.forWorker loop event).vars = ctx.vars := by
  rw [Context.forWorker, vars_set_internal _ _ rfl, vars_set_internal _ _ rfl,
    vars_set_internal _ _ rfl]

theorem set_stays (ctx : Context) (var : Var) (value : Val) (other : Var)
    (held : (ctx other).isSome = true) : (ctx.set var value other).isSome = true := by
  by_cases same : other = var
  · subst same
    simp
  · rw [set_other ctx value same]
    exact held

theorem forWorker_stays (ctx : Context) (loop event : Nat) (var : Var)
    (held : (ctx var).isSome = true) : (ctx.forWorker loop event var).isSome = true :=
  set_stays _ _ _ _ (set_stays _ _ _ _ (set_stays _ _ _ _ held))

theorem getKoiledLoopOrRaise_congr {ctx ctx' : Context}
    (same : ∀ var, var.internal = true → ctx' var = ctx var) (running : Option Nat)
    (syncInAsync closed : Nat → Bool) (advice : String) :
    ctx'.getKoiledLoopOrRaise running syncInAsync closed advice =
      ctx.getKoiledLoopOrRaise running syncInAsync closed advice := by
  have loop : ctx'.getD .globalKoilLoop = ctx.getD .globalKoilLoop := by
    rw [Context.getD, Context.getD, same .globalKoilLoop rfl]
  have allows : ctx'.allowsSyncInAsync syncInAsync = ctx.allowsSyncInAsync syncInAsync := by
    rw [Context.allowsSyncInAsync, Context.allowsSyncInAsync, Context.getD, Context.getD,
      same .globalKoil rfl]
  unfold Context.getKoiledLoopOrRaise
  rw [loop, allows]

/-- A caller gets the ambient loop if it is open, and in a thread with a running loop only
another one, under a Koil that allows it. -/
theorem getKoiledLoopOrRaise_ok_iff {ctx : Context} {running : Option Nat}
    {syncInAsync closed : Nat → Bool} {advice : String} {loop : Nat} :
    ctx.getKoiledLoopOrRaise running syncInAsync closed advice = .ok loop ↔
      ctx.getD .globalKoilLoop = .loop loop ∧ closed loop = false ∧
        ∀ runningLoop, running = some runningLoop →
          loop ≠ runningLoop ∧ ctx.allowsSyncInAsync syncInAsync = true := by
  have opened : ∀ other, (if closed other = true then
      .error (.of .runtimeError "Loop is not running") else .ok other : Except Exc Nat) = .ok loop ↔
      closed other = false ∧ other = loop := by
    intro other
    cases closed other <;> simp
  unfold Context.getKoiledLoopOrRaise
  cases ambient : ctx.getD .globalKoilLoop with
  | loop other =>
      cases running with
      | none =>
          simp only [opened, Val.loop.injEq, reduceCtorEq, false_implies, implies_true, and_true]
          constructor
          · rintro ⟨isOpen, rfl⟩
            exact ⟨rfl, isOpen⟩
          · rintro ⟨rfl, isOpen⟩
            exact ⟨isOpen, rfl⟩
      | some here =>
          simp only [Val.loop.injEq, Option.some.injEq, forall_eq']
          by_cases same : other = here
          · rw [if_pos same]
            simp only [reduceCtorEq, false_iff, not_and]
            rintro rfl _ differs
            exact absurd same differs
          rw [if_neg same]
          by_cases refused : ctx.allowsSyncInAsync syncInAsync = false
          · rw [if_pos refused, refused]
            simp
          rw [if_neg refused, opened]
          constructor
          · rintro ⟨isOpen, rfl⟩
            exact ⟨rfl, isOpen, same, by simpa using refused⟩
          · rintro ⟨rfl, isOpen, _⟩
            exact ⟨isOpen, rfl⟩
  | nothing => cases running <;> simp
  | koil id => cases running <;> simp
  | event id => cases running <;> simp
  | user value => cases running <;> simp

theorem getKoiledLoopOrRaise_open {ctx : Context} {running : Option Nat}
    {syncInAsync closed : Nat → Bool} {advice : String} {loop : Nat}
    (got : ctx.getKoiledLoopOrRaise running syncInAsync closed advice = .ok loop) :
    closed loop = false :=
  (getKoiledLoopOrRaise_ok_iff.mp got).2.1

end Koil.Contexts
