import Koil.Koils
import Koil.Runs
import Mathlib.Tactic.Simps.Basic

/-! Windows whose close events `QtKoil.__enter__` has hooked: the chain of hooks, and the
Koils that it exits, in the one context of a Qt thread. -/

namespace Koil.QtWindows

open Contexts Koils Runs

/-- A `Koil`, or a `QtKoil` with the parent it was given, if any. -/
inductive Kind
  | plain
  | qt (parent : Option Nat)
  deriving DecidableEq, Repr

/-- A parent: the Koils of the `WrappedObject`s that have hooked its `closeEvent`, the latest
first, how often its own `closeEvent` has run, and whether it was destroyed. -/
structure Window where
  hooks : List Nat
  closes : Nat
  gone : Bool
  deriving DecidableEq, Repr

structure State where
  base : Koils.State
  windows : Nat → Window

structure Setup where
  kind : Nat → Kind
  syncInAsync : Nat → Bool

def Setup.start (setup : Setup) : State where
  base := ⟨fun koil => .fresh (setup.syncInAsync koil), fun _ => false, 0, .empty⟩
  windows _ := ⟨[], 0, false⟩

@[simps] def State.withBase (s : State) (base : Koils.State) : State := { s with base := base }

@[simps] def State.setWindow (s : State) (window : Nat) (held : Window) : State :=
  { s with windows := Function.update s.windows window held }

/-- `WrappedObject.__init__`, which raises with a parent that was destroyed. -/
def State.hook (s : State) (window koil : Nat) : State :=
  if (s.windows window).gone then s
  else s.setWindow window
    { s.windows window with hooks := koil :: (s.windows window).hooks }

/-- `__enter__` of a Koil. That of a `QtKoil` hooks its parent before it looks for the
application, and raises without a parent. -/
def Setup.enter (setup : Setup) (s : State) (koil : Nat) : Option State :=
  (s.base.enter none koil).toOption.map fun base =>
    match setup.kind koil with
    | .qt (some window) => (s.withBase base).hook window koil
    | _ => s.withBase base

/-- The chain of `on_close_event`s down to the parent's own `closeEvent`, and what it raises;
`joined` says of each Koil whether its loop thread ends before it is abandoned. -/
def onCloseEvent (joined : Nat → Bool) : List Nat → Koils.State → Koils.State × Option Exc
  | [], s => (s, none)
  | koil :: hooks, s =>
      if (s.koils koil).running then
        let exited := s.exit none koil (joined koil)
        match exited.raised with
        | some exc => (exited.state, some exc)
        | none => onCloseEvent joined hooks exited.state
      else onCloseEvent joined hooks s

/-- `destroyedEvent` of every `WrappedObject`, in the order of their connection. What one of
these slots raises does not keep the others from running, nor does it end the process: under PyQt5
an exception hook is assumed to be installed. -/
def destroyedEvent (joined : Nat → Bool) : List Nat → Koils.State → Koils.State
  | [], s => s
  | koil :: hooks, s =>
      let before := destroyedEvent joined hooks s
      if (before.koils koil).running then (before.exit none koil (joined koil)).state else before

/-- What happens in the Qt thread, and to its loops: a coroutine's KeyboardInterrupt or
SystemExit ends a loop, which its thread then closes. -/
inductive Label
  | enter (koil : Nat)
  | exit (koil : Nat) (joined : Bool)
  | close (window : Nat) (joined : Nat → Bool)
  | destroy (window : Nat) (joined : Nat → Bool)
  | dies (loop : Nat)

def State.close (s : State) (window : Nat) (joined : Nat → Bool) : State :=
  let held := s.windows window
  match onCloseEvent joined held.hooks s.base with
  | (base, none) => (s.withBase base).setWindow window { held with closes := held.closes + 1 }
  | (base, some _) => s.withBase base

def Setup.step (setup : Setup) (s : State) : Label → Option State
  | .enter koil => setup.enter s koil
  | .exit koil joined => some (s.withBase (s.base.exit none koil joined).state)
  | .close window joined =>
      if (s.windows window).gone then none else some (s.close window joined)
  | .destroy window joined =>
      if (s.windows window).gone then none
      else some ((s.withBase (destroyedEvent joined (s.windows window).hooks s.base)).setWindow
        window { s.windows window with gone := true })
  | .dies loop =>
      if loop < s.base.made then
        some (s.withBase { s.base with closed := Function.update s.base.closed loop true })
      else none

def Dead (s : Koils.State) (koil : Nat) : Prop :=
  (s.koils koil).running = true ∧ ∃ loop, (s.koils koil).loop = some loop ∧ s.closed loop = true

def Sole (s : Koils.State) : Prop :=
  ∀ koil loop, (s.koils koil).loop = some loop → s.ctx.getD .globalKoil = .koil koil

section exits

variable {s : Koils.State} {koil other : Nat} {joined : Bool}

theorem exit_cases (s : Koils.State) (koil : Nat) (joined : Bool) :
    ((s.koils koil).loop = none ∧ s.exit none koil joined =
      ⟨s.setKoil koil { s.koils koil with running := false }, none, none⟩) ∨
    (∃ loop, (s.koils koil).loop = some loop ∧ s.closed loop = true ∧ s.exit none koil joined =
      ⟨s, none, some (.of .runtimeError "Event loop is closed")⟩) ∨
    ∃ loop closed, (s.koils koil).loop = some loop ∧ s.closed loop = false ∧
      s.exit none koil joined =
        ⟨({ s with closed := closed }.setKoil koil (.fresh (s.koils koil).syncInAsync)).setAmbient
          .nothing .nothing, some loop, none⟩ := by
  cases owned : (s.koils koil).loop with
  | none => exact .inl ⟨rfl, exit_shared owned⟩
  | some loop =>
      right
      cases closed : s.closed loop with
      | true => exact .inl ⟨loop, rfl, closed, exit_closed owned closed⟩
      | false =>
          have outside :
              ((s.koils koil).loopThread && (none : Option Nat) == some loop) = false := by simp
          obtain ⟨after, exited, _⟩ : ∃ after,
              s.exit none koil joined = ⟨({ s with closed := after }.setKoil koil
                (.fresh (s.koils koil).syncInAsync)).setAmbient .nothing .nothing,
                  some loop, none⟩ ∧
              ∀ other, other ≠ loop → after other = s.closed other :=
            exit_open owned closed outside
          exact .inr ⟨loop, after, rfl, closed, exited⟩

theorem exit_other (ne : other ≠ koil) :
    (s.exit none koil joined).state.koils other = s.koils other := by
  rcases exit_cases s koil joined with ⟨_, exited⟩ | ⟨_, _, _, exited⟩ | ⟨_, _, _, _, exited⟩ <;>
    simp [exited, ne]

theorem exit_raises_iff (running : (s.koils koil).running = true) :
    (s.exit none koil joined).raised = none ↔ ¬ Dead s koil := by
  rcases exit_cases s koil joined with ⟨owned, exited⟩ | ⟨loop, owned, closed, exited⟩ |
    ⟨loop, _, owned, isOpen, exited⟩
  · simp [Dead, exited, owned]
  · simp [Dead, exited, owned, running, closed]
  · simp [Dead, exited, owned, isOpen]

theorem exit_raises {exc : Exc} (raised : (s.exit none koil joined).raised = some exc) :
    exc = .of .runtimeError "Event loop is closed" ∧ (s.exit none koil joined).state = s := by
  rcases exit_cases s koil joined with ⟨_, exited⟩ | ⟨_, _, _, exited⟩ | ⟨_, _, _, _, exited⟩
  · simp [exited] at raised
  · rw [exited] at raised ⊢
    exact ⟨(Option.some.inj raised).symm, rfl⟩
  · simp [exited] at raised

theorem exit_stops (raised : (s.exit none koil joined).raised = none) :
    ((s.exit none koil joined).state.koils koil).running = false := by
  rcases exit_cases s koil joined with ⟨_, exited⟩ | ⟨_, _, _, exited⟩ | ⟨_, _, _, _, exited⟩
  · simp [exited]
  · simp [exited] at raised
  · simp [exited, KoilObject.fresh]

theorem running_exit
    (running : ((s.exit none koil joined).state.koils other).running = true) :
    (s.koils other).running = true := by
  by_cases same : other = koil
  · subst same
    cases raised : (s.exit none other joined).raised with
    | none =>
        rw [exit_stops raised] at running
        cases running
    | some exc => rwa [(exit_raises raised).2] at running
  · rwa [exit_other same] at running

theorem sole_exit (sole : Sole s) : Sole (s.exit none koil joined).state := by
  rcases exit_cases s koil joined with ⟨_, exited⟩ | ⟨_, _, _, exited⟩ |
    ⟨loop, closed, owned, _, exited⟩
  · have loops : ∀ other, ((s.setKoil koil { s.koils koil with running := false }).koils
        other).loop = (s.koils other).loop := setKoil_loop s rfl
    intro other held found
    rw [exited] at found ⊢
    exact sole other held ((loops other).symm.trans found)
  · rwa [exited]
  · intro other held found
    rw [exited] at found
    by_cases same : other = koil
    · subst same
      simp [KoilObject.fresh] at found
    · have before : (s.koils other).loop = some held := by simpa [same] using found
      have both := (sole other held before).symm.trans (sole koil loop owned)
      exact absurd (Val.koil.inj both) same

theorem dead_exit_iff (sole : Sole s) (ne : other ≠ koil) :
    Dead (s.exit none koil joined).state other ↔ Dead s other := by
  unfold Dead
  rw [exit_other ne]
  rcases exit_cases s koil joined with ⟨_, exited⟩ | ⟨_, _, _, exited⟩ |
    ⟨loop, closed, owned, _, exited⟩
  · simp [exited]
  · simp [exited]
  · have unowned : (s.koils other).loop = none := by
      by_contra some
      obtain ⟨held, found⟩ := Option.ne_none_iff_exists'.mp some
      have both := (sole other held found).symm.trans (sole koil loop owned)
      exact ne (Val.koil.inj both)
    simp [unowned]

theorem dead_through (sole : Sole s) (running : (s.koils koil).running = true)
    (raised : (s.exit none koil joined).raised = none) :
    Dead (s.exit none koil joined).state other ↔ Dead s other := by
  by_cases same : other = koil
  · subst same
    have alive : ¬ Dead s other := (exit_raises_iff running).mp raised
    have stopped : ¬ Dead (s.exit none other joined).state other := by
      rintro ⟨still, _⟩
      rw [exit_stops raised] at still
      cases still
    exact iff_of_false stopped alive
  · exact dead_exit_iff sole same

theorem dead_exit (sole : Sole s) (dead : Dead s other) :
    Dead (s.exit none koil joined).state other := by
  by_cases same : other = koil
  · subst same
    have raises : (s.exit none other joined).raised ≠ none :=
      fun none => (exit_raises_iff dead.1).mp none dead
    obtain ⟨exc, raised⟩ := Option.ne_none_iff_exists'.mp raises
    rwa [(exit_raises raised).2]
  · exact (dead_exit_iff sole same).mpr dead

end exits

section chains

variable {s : Koils.State} {hooks : List Nat} {joined : Nat → Bool} {koil : Nat}

theorem sole_onCloseEvent (sole : Sole s) : Sole (onCloseEvent joined hooks s).1 := by
  induction hooks generalizing s with
  | nil => exact sole
  | cons koil hooks ih =>
      unfold onCloseEvent
      split
      · dsimp only
        split
        · exact sole_exit sole
        · exact ih (sole_exit sole)
      · exact ih sole

theorem dead_onCloseEvent (sole : Sole s) (dead : Dead s koil) :
    Dead (onCloseEvent joined hooks s).1 koil := by
  induction hooks generalizing s with
  | nil => exact dead
  | cons first hooks ih =>
      unfold onCloseEvent
      split
      · dsimp only
        split
        · exact dead_exit sole dead
        · exact ih (sole_exit sole) (dead_exit sole dead)
      · exact ih sole dead

theorem running_onCloseEvent
    (running : ((onCloseEvent joined hooks s).1.koils koil).running = true) :
    (s.koils koil).running = true := by
  induction hooks generalizing s with
  | nil => exact running
  | cons first hooks ih =>
      unfold onCloseEvent at running
      split at running
      · dsimp only at running
        split at running
        · exact running_exit running
        · exact running_exit (ih running)
      · exact ih running

/-- The chain comes down to the parent's own `closeEvent` exactly if it finds no Koil dead. -/
theorem onCloseEvent_iff (sole : Sole s) :
    (onCloseEvent joined hooks s).2 = none ↔ ∀ koil ∈ hooks, ¬ Dead s koil := by
  induction hooks generalizing s with
  | nil => simp [onCloseEvent]
  | cons first hooks ih =>
      rw [List.forall_mem_cons]
      unfold onCloseEvent
      split
      · next running =>
          have raises : (s.exit none first (joined first)).raised = none ↔ ¬ Dead s first :=
            exit_raises_iff running
          dsimp only
          split
          · next exc raised =>
              simp only [raised, reduceCtorEq, false_iff, not_not] at raises
              simp [raises]
          · next raised =>
              have alive : ¬ Dead s first := raises.mp raised
              simp only [alive, not_false_eq_true, true_and]
              rw [ih (sole_exit sole)]
              simp only [dead_through sole running raised]
      · next idle =>
          have alive : ¬ Dead s first := fun dead => idle dead.1
          simp only [alive, not_false_eq_true, true_and]
          exact ih sole

theorem onCloseEvent_stops (through : (onCloseEvent joined hooks s).2 = none)
    (hooked : koil ∈ hooks) : ((onCloseEvent joined hooks s).1.koils koil).running = false := by
  induction hooks generalizing s with
  | nil => cases hooked
  | cons first hooks ih =>
      rw [List.mem_cons] at hooked
      unfold onCloseEvent at through ⊢
      split
      · next running =>
          dsimp only
          split
          · next exc raised => simp [running, raised] at through
          · next raised =>
              have rest : (onCloseEvent joined hooks
                  (s.exit none first (joined first)).state).2 = none := by
                simpa [running, raised] using through
              rcases hooked with rfl | later
              · have stopped := exit_stops raised
                by_contra runs
                rw [running_onCloseEvent (by simpa using runs)] at stopped
                cases stopped
              · exact ih rest later
      · next idle =>
          have rest : (onCloseEvent joined hooks s).2 = none := by simpa [idle] using through
          rcases hooked with rfl | later
          · by_contra runs
            exact idle (running_onCloseEvent (by simpa using runs))
          · exact ih rest later

theorem onCloseEvent_raises {exc : Exc} (raised : (onCloseEvent joined hooks s).2 = some exc) :
    exc = .of .runtimeError "Event loop is closed" := by
  induction hooks generalizing s with
  | nil => cases raised
  | cons first hooks ih =>
      unfold onCloseEvent at raised
      split at raised
      · dsimp only at raised
        split at raised
        · next own raises =>
            cases raised
            exact (exit_raises raises).1
        · exact ih raised
      · exact ih raised

theorem sole_destroyedEvent (sole : Sole s) : Sole (destroyedEvent joined hooks s) := by
  induction hooks with
  | nil => exact sole
  | cons first hooks ih =>
      unfold destroyedEvent
      dsimp only
      split
      · exact sole_exit ih
      · exact ih

theorem dead_destroyedEvent (sole : Sole s) (dead : Dead s koil) :
    Dead (destroyedEvent joined hooks s) koil := by
  induction hooks with
  | nil => exact dead
  | cons first hooks ih =>
      unfold destroyedEvent
      dsimp only
      split
      · exact dead_exit (sole_destroyedEvent sole) ih
      · exact ih

theorem running_destroyedEvent
    (running : ((destroyedEvent joined hooks s).koils koil).running = true) :
    (s.koils koil).running = true := by
  induction hooks with
  | nil => exact running
  | cons first hooks ih =>
      unfold destroyedEvent at running
      dsimp only at running
      split at running
      · exact ih (running_exit running)
      · exact ih running

end chains

variable {setup : Setup} {s s' : State}

structure Inv (setup : Setup) (s : State) : Prop where
  sole : Sole s.base
  hooked : ∀ koil window, setup.kind koil = .qt (some window) → (s.windows window).gone = false →
    (s.base.koils koil).running = true → koil ∈ (s.windows window).hooks

theorem inv_start : Inv setup setup.start := by
  constructor
  · intro koil loop owned
    simp [Setup.start, KoilObject.fresh] at owned
  · intro koil window _ _ running
    simp [Setup.start, KoilObject.fresh] at running

theorem sole_enter {base after : Koils.State} {koil : Nat} (sole : Sole base)
    (entered : base.enter none koil = .ok after) : Sole after := by
  rcases enter_cases entered with ⟨idle, rfl⟩ | ⟨_, rfl⟩
  · intro other loop owned
    by_cases same : other = koil
    · subst same
      simp
    · have before : (base.koils other).loop = some loop := by simpa [same] using owned
      rw [sole other loop before] at idle
      cases idle
  · have loops : ∀ other, ((base.setKoil koil { base.koils koil with running := true }).koils
        other).loop = (base.koils other).loop := setKoil_loop base rfl
    intro other loop owned
    exact sole other loop ((loops other).symm.trans owned)

theorem running_enter {base after : Koils.State} {koil other : Nat}
    (entered : base.enter none koil = .ok after) (running : (after.koils other).running = true) :
    other = koil ∨ (base.koils other).running = true := by
  by_cases same : other = koil
  · exact .inl same
  · right
    rcases enter_cases entered with ⟨_, rfl⟩ | ⟨_, rfl⟩ <;> simpa [same] using running

/-- A dead Koil is the ambient one, so that no Koil gets a loop of its own. -/
theorem dead_enter {base after : Koils.State} {koil other : Nat} (sole : Sole base)
    (entered : base.enter none koil = .ok after) (dead : Dead base other) : Dead after other := by
  obtain ⟨running, loop, owned, closed⟩ := dead
  rcases enter_cases entered with ⟨idle, _⟩ | ⟨_, rfl⟩
  · rw [sole other loop owned] at idle
    cases idle
  · by_cases same : other = koil
    · subst same
      exact ⟨by simp, loop, by simpa using owned, closed⟩
    · exact ⟨by simpa [same] using running, loop, by simpa [same] using owned, closed⟩

@[simp] theorem hook_base {window koil : Nat} : (s.hook window koil).base = s.base := by
  unfold State.hook
  split <;> rfl

theorem hook_windows (s : State) (window koil other : Nat) :
    ((s.hook window koil).windows other).gone = (s.windows other).gone ∧
      ((s.hook window koil).windows other).closes = (s.windows other).closes ∧
      (s.windows other).hooks ⊆ ((s.hook window koil).windows other).hooks ∧
      (other = window → (s.windows other).gone = false →
        koil ∈ ((s.hook window koil).windows other).hooks) := by
  unfold State.hook
  split
  · next gone =>
      refine ⟨rfl, rfl, fun _ member => member, ?_⟩
      rintro rfl there
      rw [gone] at there
      cases there
  · by_cases same : other = window
    · subst same
      simp
    · simp [same]

theorem close_base (s : State) (window : Nat) (joined : Nat → Bool) :
    (s.close window joined).base = (onCloseEvent joined (s.windows window).hooks s.base).1 := by
  unfold State.close
  dsimp only
  split <;> next same => simp [same]

theorem close_windows (s : State) (window : Nat) (joined : Nat → Bool) (other : Nat) :
    (s.close window joined).windows other =
      if other = window ∧ (onCloseEvent joined (s.windows window).hooks s.base).2 = none then
        { s.windows other with closes := (s.windows other).closes + 1 }
      else s.windows other := by
  unfold State.close
  dsimp only
  split
  · next same =>
      by_cases own : other = window
      · subst own
        simp [same]
      · simp [same, own]
  · next same => simp [same]

/-- What a step does to the windows: it hooks one, counts a close event, or marks one that
is gone. -/
theorem step_windows {label : Label} (taken : setup.step s label = some s') (window : Nat) :
    (s.windows window).hooks ⊆ (s'.windows window).hooks ∧
      ((s'.windows window).gone = false → (s.windows window).gone = false) ∧
      ((s'.windows window).closes ≠ (s.windows window).closes → ∃ joined,
        label = .close window joined ∧
          (onCloseEvent joined (s.windows window).hooks s.base).2 = none) := by
  cases label with
  | enter koil =>
      obtain ⟨base, _, rfl⟩ := Option.map_eq_some_iff.mp taken
      split
      · next parent _ =>
          obtain ⟨gone, closes, hooks, _⟩ := hook_windows (s.withBase base) parent koil window
          refine ⟨hooks, fun there => gone.symm.trans there, ?_⟩
          intro differs
          exact absurd closes differs
      · simp
  | exit koil joined =>
      cases taken
      simp
  | close closing joined =>
      obtain ⟨_, moved⟩ := Option.ite_none_left_eq_some.mp taken
      cases moved
      rw [close_windows]
      split
      · next through =>
          obtain ⟨rfl, through⟩ := through
          exact ⟨fun _ member => member, id, fun _ => ⟨joined, rfl, through⟩⟩
      · exact ⟨fun _ member => member, id, fun differs => absurd rfl differs⟩
  | destroy ending joined =>
      obtain ⟨_, moved⟩ := Option.ite_none_left_eq_some.mp taken
      cases moved
      by_cases own : window = ending
      · subst own
        simp
      · simp [own]
  | dies loop =>
      obtain ⟨_, moved⟩ := Option.ite_none_right_eq_some.mp taken
      cases moved
      simp

theorem step_sole {label : Label} (sole : Sole s.base) (taken : setup.step s label = some s') :
    Sole s'.base ∧ ∀ koil, Dead s.base koil → Dead s'.base koil := by
  cases label with
  | enter koil =>
      obtain ⟨base, entered, rfl⟩ := Option.map_eq_some_iff.mp taken
      have isBase : s.base.enter none koil = .ok base := eq_ok_of_toOption entered
      have same : ∀ t : State, t.base = base → Sole t.base ∧
          ∀ other, Dead s.base other → Dead t.base other := by
        rintro t rfl
        exact ⟨sole_enter sole isBase, fun _ dead => dead_enter sole isBase dead⟩
      split <;> exact same _ (by simp)
  | exit koil joined =>
      cases taken
      exact ⟨sole_exit sole, fun _ dead => dead_exit sole dead⟩
  | close window joined =>
      obtain ⟨_, moved⟩ := Option.ite_none_left_eq_some.mp taken
      cases moved
      rw [close_base]
      exact ⟨sole_onCloseEvent sole, fun _ dead => dead_onCloseEvent sole dead⟩
  | destroy window joined =>
      obtain ⟨_, moved⟩ := Option.ite_none_left_eq_some.mp taken
      cases moved
      exact ⟨sole_destroyedEvent sole, fun _ dead => dead_destroyedEvent sole dead⟩
  | dies loop =>
      obtain ⟨_, moved⟩ := Option.ite_none_right_eq_some.mp taken
      cases moved
      refine ⟨sole, ?_⟩
      rintro koil ⟨running, held, owned, closed⟩
      refine ⟨running, held, owned, ?_⟩
      by_cases same : held = loop
      · simp [same]
      · simpa [same] using closed

theorem step_running {label : Label} {koil : Nat} (taken : setup.step s label = some s')
    (running : (s'.base.koils koil).running = true) :
    label = .enter koil ∨ (s.base.koils koil).running = true := by
  cases label with
  | enter entered =>
      obtain ⟨base, moved, rfl⟩ := Option.map_eq_some_iff.mp taken
      have isBase : s.base.enter none entered = .ok base := eq_ok_of_toOption moved
      have same : (base.koils koil).running = true := by
        split at running <;> simpa using running
      rcases running_enter isBase same with rfl | before
      · exact .inl rfl
      · exact .inr before
  | exit exited joined =>
      cases taken
      exact .inr (running_exit running)
  | close window joined =>
      obtain ⟨_, moved⟩ := Option.ite_none_left_eq_some.mp taken
      cases moved
      rw [close_base] at running
      exact .inr (running_onCloseEvent running)
  | destroy window joined =>
      obtain ⟨_, moved⟩ := Option.ite_none_left_eq_some.mp taken
      cases moved
      exact .inr (running_destroyedEvent running)
  | dies loop =>
      obtain ⟨_, moved⟩ := Option.ite_none_right_eq_some.mp taken
      cases moved
      exact .inr running

theorem inv_step {label : Label} (held : Inv setup s) (taken : setup.step s label = some s') :
    Inv setup s' := by
  refine ⟨(step_sole held.sole taken).1, ?_⟩
  intro koil window kind there running
  obtain ⟨hooks, gone, _⟩ := step_windows taken window
  rcases step_running taken running with rfl | before
  · obtain ⟨base, _, rfl⟩ := Option.map_eq_some_iff.mp taken
    simp only [kind] at there ⊢
    obtain ⟨same, _, _, hooked⟩ := hook_windows (s.withBase base) window koil window
    exact hooked rfl (same.symm.trans there)
  · exact hooks (held.hooked koil window kind (gone there) before)

theorem inv_run {history : List (State × Label)}
    (run : Reaches setup.step setup.start history s) : Inv setup s :=
  run.invariant inv_start fun _ _ _ held taken => inv_step held taken

/-- A close event comes to the window's own `closeEvent` exactly if no running Koil that has
hooked the window has lost its loop; then it does so once, and no `QtKoil` of the window is
running. Else it ends with the RuntimeError of a closed loop. -/
theorem close_event_iff {history : List (State × Label)} {window : Nat} {joined : Nat → Bool}
    (run : Reaches setup.step setup.start history s)
    (taken : setup.step s (.close window joined) = some s') :
    ((s'.windows window).closes = (s.windows window).closes + 1 ↔
      ∀ koil ∈ (s.windows window).hooks, ¬ Dead s.base koil) ∧
    ((s'.windows window).closes = (s.windows window).closes + 1 →
      ∀ koil, setup.kind koil = .qt (some window) → (s'.base.koils koil).running = false) ∧
    ((s'.windows window).closes ≠ (s.windows window).closes + 1 →
      s'.windows = s.windows ∧
      (onCloseEvent joined (s.windows window).hooks s.base).2 =
        some (.of .runtimeError "Event loop is closed")) := by
  have held : Inv setup s := inv_run run
  obtain ⟨there, moved⟩ := Option.ite_none_left_eq_some.mp taken
  cases moved
  have counted : ((s.close window joined).windows window).closes =
      (s.windows window).closes + 1 ↔
        (onCloseEvent joined (s.windows window).hooks s.base).2 = none := by
    rw [close_windows]
    by_cases through : (onCloseEvent joined (s.windows window).hooks s.base).2 = none <;>
      simp [through]
  refine ⟨counted.trans (onCloseEvent_iff held.sole), ?_, ?_⟩
  · intro through koil kind
    by_contra runs
    have running : ((s.close window joined).base.koils koil).running = true := by simpa using runs
    rw [close_base] at running
    have before : (s.base.koils koil).running = true := running_onCloseEvent running
    have hooked := held.hooked koil window kind (by simpa using there) before
    rw [onCloseEvent_stops (counted.mp through) hooked] at running
    cases running
  · intro stuck
    have raises : (onCloseEvent joined (s.windows window).hooks s.base).2 ≠ none :=
      fun through => stuck (counted.mpr through)
    obtain ⟨exc, raised⟩ := Option.ne_none_iff_exists'.mp raises
    refine ⟨?_, by rw [raised, onCloseEvent_raises raised]⟩
    funext other
    rw [close_windows, if_neg fun both => raises both.2]

def twoKoils : Setup := ⟨fun _ => .qt (some 0), fun _ => true⟩

def State.after (s : State) (labels : List Label) : State :=
  ((follow twoKoils.step [] s labels).map Prod.snd).getD s

def entering : List Label := [.enter 0, .enter 1]

def bothEntered : State := twoKoils.start.after entering

theorem close_event_iff_two : ((bothEntered.close 0 fun _ => true).windows 0).closes = 1 ∧
    ((bothEntered.close 0 fun _ => true).base.koils 1).running = false := by
  have run : Reaches twoKoils.step twoKoils.start _ bothEntered := Reaches.start.follow entering rfl
  have taken : twoKoils.step bothEntered (.close 0 fun _ => true) =
      some (bothEntered.close 0 fun _ => true) := rfl
  obtain ⟨counts, stops, _⟩ := close_event_iff run taken
  have one : ((bothEntered.close 0 fun _ => true).windows 0).closes = 1 := by
    apply counts.mpr
    rintro koil _ ⟨_, loop, _, closed⟩
    have none : bothEntered.base.closed loop = false := rfl
    rw [none] at closed
    cases closed
  exact ⟨one, stops one 1 rfl⟩

/-- Once the loop of a running Koil has died that has hooked a window, no close event comes
to the window's own `closeEvent` any more, whatever is entered, exited, closed or destroyed. -/
theorem dead_koil_blocks_window {history later : List (State × Label)} {window koil : Nat}
    (run : Reaches setup.step setup.start history s) (hooked : koil ∈ (s.windows window).hooks)
    (dead : Dead s.base koil) (after : Reaches setup.step s later s') :
    (s'.windows window).closes = (s.windows window).closes ∧ Dead s'.base koil := by
  have stays : Sole s'.base ∧ Dead s'.base koil ∧ koil ∈ (s'.windows window).hooks ∧
      (s'.windows window).closes = (s.windows window).closes := by
    apply after.invariant
    · exact ⟨(inv_run run).sole, dead, hooked, rfl⟩
    · rintro t label t' ⟨sole, dead, hooked, same⟩ taken
      obtain ⟨sole', kept⟩ := step_sole sole taken
      obtain ⟨hooks, _, counts⟩ := step_windows taken window
      refine ⟨sole', kept koil dead, hooks hooked, ?_⟩
      by_contra differs
      obtain ⟨joined, _, through⟩ := counts fun equal => differs (equal.trans same)
      exact (onCloseEvent_iff sole).mp through koil hooked dead
  exact ⟨stays.2.2.2, stays.2.1⟩

def dying : List Label := [.dies 0]

def leaving : List Label := [.close 0 fun _ => true, .exit 0 true, .enter 0, .close 0 fun _ => true]

theorem dead_koil_blocks_window_two :
    (((bothEntered.after dying).after leaving).windows 0).closes = 0 := by
  have run : Reaches twoKoils.step twoKoils.start _ (bothEntered.after dying) :=
    (Reaches.start.follow entering rfl).follow dying rfl
  have later : Reaches twoKoils.step (bothEntered.after dying) _
      ((bothEntered.after dying).after leaving) := Reaches.start.follow leaving rfl
  have hooked : 0 ∈ ((bothEntered.after dying).windows 0).hooks := by decide
  have dead : Dead (bothEntered.after dying).base 0 := ⟨rfl, 0, rfl, rfl⟩
  exact (dead_koil_blocks_window run hooked dead later).1

end Koil.QtWindows
