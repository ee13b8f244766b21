import Koil.Contexts

/-! `Koil` objects in one context: what `__enter__`, `__exit__`, `__aenter__` and
`__aexit__` do to the object, to its loop and to koil's own variables. -/

namespace Koil.Koils

open Contexts

structure KoilObject where
  loop : Option Nat
  loopThread : Bool
  running : Bool
  syncInAsync : Bool
  deriving DecidableEq, Repr

def KoilObject.fresh (syncInAsync : Bool) : KoilObject := ⟨none, false, false, syncInAsync⟩

/-- The Koils, the loops that are closed, the number of loops made so far, and the
current context. A new loop gets the first number that is free. -/
structure State where
  koils : Nat → KoilObject
  closed : Nat → Bool
  made : Nat
  ctx : Context

def State.setKoil (s : State) (koil : Nat) (object : KoilObject) : State :=
  { s with koils := Function.update s.koils koil object }

def State.setAmbient (s : State) (koil loop : Val) : State :=
  { s with ctx := (s.ctx.set .globalKoil koil).set .globalKoilLoop loop }

/-- The ContextError of `__enter__` in a thread with a running loop. -/
def noSyncInAsync : Exc :=
  .of .contextError ("You are running in asyncio event loop already.\n" ++
    "                    Using koil makes no sense here, use asyncio instead. " ++
    "You can use koil in a sync context by setting `sync_in_async=True` currently it is\n" ++
    "                    set to False.\n" ++
    "                    If this happens in a context manager, you probably forgot to use " ++
    "the `async with` syntax.")

def State.enter (s : State) (running : Option Nat) (koil : Nat) : Except Exc State :=
  let object := s.koils koil
  if running.isSome && !object.syncInAsync then .error noSyncInAsync
  else
    match s.ctx.getD .globalKoil with
    | .nothing =>
        let started := { object with loop := some s.made, loopThread := true, running := true }
        .ok (({ s with made := s.made + 1 }.setKoil koil started).setAmbient
          (.koil koil) (.loop s.made))
    | _ => .ok (s.setKoil koil { object with running := true })

/-- How `__exit__` went: the state after it, the loop it asked to stop, if any, and
what it raised, if anything. -/
structure Exited where
  state : State
  stopped : Option Nat
  raised : Option Exc

/-- `Koil.__exit__`; `joined` says whether the loop thread ends before it is abandoned. -/
def State.exit (s : State) (running : Option Nat) (koil : Nat) (joined : Bool) : Exited :=
  let object := s.koils koil
  match object.loop with
  | none => ⟨s.setKoil koil { object with running := false }, none, none⟩
  | some loop =>
      if s.closed loop then ⟨s, none, some (.of .runtimeError "Event loop is closed")⟩
      else if object.loopThread && running == some loop then
        ⟨s, some loop, some (.of .runtimeError "cannot join current thread")⟩
      else
        let closed :=
          if object.loopThread && joined then Function.update s.closed loop true else s.closed
        ⟨({ s with closed := closed }.setKoil koil (.fresh object.syncInAsync)).setAmbient
          .nothing .nothing, some loop, none⟩

def State.aenter (s : State) (running : Option Nat) (koil : Nat) : State :=
  match running with
  | none => s
  | some loop =>
      { s.setKoil koil { s.koils koil with loop := some loop } with
        ctx := s.ctx.set .globalKoilLoop (.loop loop) }

def State.aexit (s : State) : State := { s with ctx := s.ctx.set .globalKoil .nothing }

def State.getKoiledLoopOrRaise (s : State) (running : Option Nat) (advice : String) :
    Except Exc Nat :=
  s.ctx.getKoiledLoopOrRaise running (fun koil => (s.koils koil).syncInAsync) s.closed advice

@[simp] theorem setKoil_self (s : State) (koil : Nat) (object : KoilObject) :
    (s.setKoil koil object).koils koil = object := by simp [State.setKoil]

@[simp] theorem setKoil_other (s : State) {koil other : Nat} (object : KoilObject)
    (ne : other ≠ koil) : (s.setKoil koil object).koils other = s.koils other := by
  simp [State.setKoil, ne]

theorem setKoil_loop (s : State) {koil : Nat} {object : KoilObject}
    (kept : object.loop = (s.koils koil).loop) (other : Nat) :
    ((s.setKoil koil object).koils other).loop = (s.koils other).loop := by
  by_cases same : other = koil
  · subst same
    rw [setKoil_self, kept]
  · rw [setKoil_other s object same]

@[simp] theorem setKoil_closed (s : State) (koil : Nat) (object : KoilObject) :
    (s.setKoil koil object).closed = s.closed := rfl

@[simp] theorem setKoil_made (s : State) (koil : Nat) (object : KoilObject) :
    (s.setKoil koil object).made = s.made := rfl

@[simp] theorem setKoil_ctx (s : State) (koil : Nat) (object : KoilObject) :
    (s.setKoil koil object).ctx = s.ctx := rfl

@[simp] theorem setAmbient_koils (s : State) (koil loop : Val) :
    (s.setAmbient koil loop).koils = s.koils := rfl

@[simp] theorem setAmbient_closed (s : State) (koil loop : Val) :
    (s.setAmbient koil loop).closed = s.closed := rfl

@[simp] theorem setAmbient_made (s : State) (koil loop : Val) :
    (s.setAmbient koil loop).made = s.made := rfl

@[simp] theorem setAmbient_koil (s : State) (koil loop : Val) :
    (s.setAmbient koil loop).ctx.getD .globalKoil = koil := by
  simp [State.setAmbient, Context.getD]

@[simp] theorem setAmbient_loop (s : State) (koil loop : Val) :
    (s.setAmbient koil loop).ctx.getD .globalKoilLoop = loop := by
  simp [State.setAmbient, Context.getD]

@[simp] theorem aenter_koil (s : State) (running : Option Nat) (koil : Nat) :
    (s.aenter running koil).ctx.getD .globalKoil = s.ctx.getD .globalKoil := by
  cases running <;> simp [State.aenter, Context.getD]

@[simp] theorem aenter_made (s : State) (running : Option Nat) (koil : Nat) :
    (s.aenter running koil).made = s.made := by cases running <;> rfl

@[simp] theorem aenter_closed (s : State) (running : Option Nat) (koil : Nat) :
    (s.aenter running koil).closed = s.closed := by cases running <;> rfl

theorem aenter_loop_iff (s : State) (running : Option Nat) (koil : Nat) :
    (s.aenter running koil).ctx.getD .globalKoilLoop = s.ctx.getD .globalKoilLoop ↔
      ∀ loop, running = some loop → s.ctx.getD .globalKoilLoop = .loop loop := by
  cases running with
  | none => simp [State.aenter]
  | some loop =>
      simp only [State.aenter, Option.some.injEq, forall_eq']
      rw [Context.getD, set_self, Option.getD_some]
      exact eq_comm

@[simp] theorem aexit_koil (s : State) : s.aexit.ctx.getD .globalKoil = .nothing := by
  simp [State.aexit, Context.getD]

@[simp] theorem aexit_loop (s : State) :
    s.aexit.ctx.getD .globalKoilLoop = s.ctx.getD .globalKoilLoop := by
  simp [State.aexit, Context.getD]

theorem eq_ok_of_toOption {ε α : Type} {result : Except ε α} {value : α}
    (got : result.toOption = some value) : result = .ok value := by
  cases result with
  | error error => cases got
  | ok other => exact congrArg Except.ok (Option.some.inj got)

theorem enter_cases {s after : State} {running : Option Nat} {koil : Nat}
    (entered : s.enter running koil = .ok after) :
    (s.ctx.getD .globalKoil = .nothing ∧
      after = ({ s with made := s.made + 1 }.setKoil koil ⟨some s.made, true, true,
        (s.koils koil).syncInAsync⟩).setAmbient (.koil koil) (.loop s.made)) ∨
    (s.ctx.getD .globalKoil ≠ .nothing ∧
      after = s.setKoil koil { s.koils koil with running := true }) := by
  simp only [State.enter] at entered
  by_cases refused : (running.isSome && !(s.koils koil).syncInAsync) = true
  · rw [if_pos refused] at entered
    cases entered
  rw [if_neg refused] at entered
  split at entered
  · next ambient => exact .inl ⟨ambient, (Except.ok.inj entered).symm⟩
  · next ambient => exact .inr ⟨fun none => ambient none, (Except.ok.inj entered).symm⟩

section exits

variable {s : State} {running : Option Nat} {koil loop : Nat} {joined : Bool}

theorem exit_shared (shared : (s.koils koil).loop = none) :
    s.exit running koil joined =
      ⟨s.setKoil koil { s.koils koil with running := false }, none, none⟩ := by
  simp only [State.exit, shared]

theorem exit_closed (owns : (s.koils koil).loop = some loop) (closed : s.closed loop = true) :
    s.exit running koil joined =
      ⟨s, none, some (.of .runtimeError "Event loop is closed")⟩ := by
  simp only [State.exit, owns, closed, if_true]

theorem exit_inside (owns : (s.koils koil).loop = some loop) (isOpen : s.closed loop = false)
    (inside : ((s.koils koil).loopThread && running == some loop) = true) :
    s.exit running koil joined =
      ⟨s, some loop, some (.of .runtimeError "cannot join current thread")⟩ := by
  simp only [State.exit, owns, isOpen, inside]
  simp

theorem exit_open (owns : (s.koils koil).loop = some loop) (isOpen : s.closed loop = false)
    (outside : ((s.koils koil).loopThread && running == some loop) = false) :
    ∃ closed, s.exit running koil joined =
        ⟨({ s with closed := closed }.setKoil koil (.fresh (s.koils koil).syncInAsync)).setAmbient
          .nothing .nothing, some loop, none⟩ ∧
      ∀ other, other ≠ loop → closed other = s.closed other := by
  refine ⟨_, by simp only [State.exit, owns, isOpen, outside]; rfl, fun other ne => ?_⟩
  split
  · exact Function.update_of_ne ne _ _
  · rfl

end exits

theorem exit_ctx (s : State) (running : Option Nat) (koil : Nat) (joined : Bool) :
    (s.exit running koil joined).state.made = s.made ∧
      ((s.exit running koil joined).state.ctx = s.ctx ∨
        (s.exit running koil joined).state.ctx =
          (s.ctx.set .globalKoil .nothing).set .globalKoilLoop .nothing) := by
  cases owned : (s.koils koil).loop with
  | none => simp [State.exit, owned]
  | some loop =>
      simp only [State.exit, owned]
      split
      · exact ⟨rfl, .inl rfl⟩
      · split
        · exact ⟨rfl, .inl rfl⟩
        · exact ⟨rfl, .inr rfl⟩

theorem getKoiledLoop_sync {s : State} (advice : String) {loop : Nat}
    (ambient : s.ctx.getD .globalKoilLoop = .loop loop) (isOpen : s.closed loop = false) :
    s.getKoiledLoopOrRaise none advice = .ok loop := by
  simp [State.getKoiledLoopOrRaise, Context.getKoiledLoopOrRaise, ambient, isOpen]

end Koil.Koils
