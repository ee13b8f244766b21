import Koil.Koils
import Koil.Runs

/-! Koils entered in one thread and exited in any order, as a window's close event or
a `with` block comes to it. -/

namespace Koil.RunningKoils

open Contexts Koils Runs

structure Thread where
  state : Koils.State
  entered : Nat → Nat

def start (syncInAsync : Nat → Bool) : Thread where
  state := ⟨fun koil => .fresh (syncInAsync koil), fun _ => false, 0, .empty⟩
  entered _ := 0

inductive Label
  | enter (koil : Nat)
  | exit (koil : Nat) (joined : Bool)
  deriving DecidableEq, Repr

def step (t : Thread) : Label → Option Thread
  | .enter koil =>
      (t.state.enter none koil).toOption.map fun state =>
        ⟨state, Function.update t.entered koil (t.entered koil + 1)⟩
  | .exit koil joined =>
      if t.entered koil = 0 then none
      else some ⟨(t.state.exit none koil joined).state,
        Function.update t.entered koil (t.entered koil - 1)⟩

/-- If some Koil says that it is running, the thread has an open koil loop. -/
def RunningLive (t : Thread) : Prop :=
  ∀ koil, (t.state.koils koil).running = true → ∀ advice,
    ∃ loop, t.state.getKoiledLoopOrRaise none advice = .ok loop ∧ t.state.closed loop = false

/-- The Koil that started the loop is exited as the last one that is running. -/
def LeavesNoneRunning (t : Thread) : Label → Prop
  | .enter _ => True
  | .exit koil _ => (t.state.koils koil).loop = none ∨
      ∀ other, other ≠ koil → (t.state.koils other).running = false

def Idle (s : Koils.State) : Prop :=
  s.ctx.getD .globalKoil = .nothing ∧
    ∀ koil, (s.koils koil).loop = none ∧ (s.koils koil).running = false

/-- One Koil is ambient, with the open loop that it started; no other has a loop. -/
structure Governed (s : Koils.State) (koil loop : Nat) : Prop where
  ambientKoil : s.ctx.getD .globalKoil = .koil koil
  ambientLoop : s.ctx.getD .globalKoilLoop = .loop loop
  owns : (s.koils koil).loop = some loop
  made : loop < s.made
  isOpen : s.closed loop = false
  others : ∀ other, other ≠ koil → (s.koils other).loop = none

/-- The thread is idle or governed by one Koil, and no loop is closed before it is made. -/
structure Inv (s : Koils.State) : Prop where
  ambient : Idle s ∨ ∃ koil loop, Governed s koil loop
  unmade : ∀ loop, s.made ≤ loop → s.closed loop = false

theorem live_of_governed {t : Thread} {koil loop : Nat} (held : Governed t.state koil loop) :
    RunningLive t :=
  fun _ _ advice => ⟨loop, getKoiledLoop_sync advice held.ambientLoop held.isOpen, held.isOpen⟩

theorem live_of_idle {t : Thread} (held : Idle t.state) : RunningLive t := by
  intro koil running
  rw [(held.2 koil).2] at running
  cases running

theorem not_live {t : Thread} (koil : Nat) (running : (t.state.koils koil).running = true)
    (ambient : t.state.ctx.getD .globalKoilLoop = .nothing) : ¬ RunningLive t := by
  intro live
  obtain ⟨loop, got, _⟩ := live koil running ""
  simp [State.getKoiledLoopOrRaise, Context.getKoiledLoopOrRaise, ambient] at got

variable {s : Koils.State} {koil loop : Nat}

/-- Entering leads to a state that is governed by the Koil entered or by the one that
governed it before. -/
theorem enter_governed (held : Inv s) (koil : Nat) :
    ∃ after owner loop, s.enter none koil = .ok after ∧ Governed after owner loop ∧
      ∀ loop, after.made ≤ loop → after.closed loop = false := by
  rcases held.ambient with idle | ⟨owner, loop, governed⟩
  · refine ⟨_, koil, s.made, by simp only [Koils.State.enter, idle.1]; rfl, ?_, ?_⟩
    · refine ⟨by simp, by simp, by simp, by simp, held.unmade _ (Nat.le_refl _), ?_⟩
      intro other ne
      simpa [ne] using (idle.2 other).1
    · intro loop beyond
      exact held.unmade loop (Nat.le_of_succ_le beyond)
  · refine ⟨s.setKoil koil { s.koils koil with running := true }, owner, loop,
      by simp only [Koils.State.enter, governed.ambientKoil]; rfl, ?_, held.unmade⟩
    have loops : ∀ other, ((s.setKoil koil { s.koils koil with running := true }).koils
        other).loop = (s.koils other).loop := setKoil_loop s rfl
    exact ⟨governed.ambientKoil, governed.ambientLoop, (loops owner).trans governed.owns,
      governed.made, governed.isOpen,
      fun other ne => (loops other).trans (governed.others other ne)⟩

theorem Inv.governs (held : Inv s) (owns : (s.koils koil).loop = some loop) :
    Governed s koil loop := by
  rcases held.ambient with idle | ⟨owner, other, governed⟩
  · rw [(idle.2 koil).1] at owns
    cases owns
  · have same : koil = owner := by
      by_contra differ
      rw [governed.others koil differ] at owns
      cases owns
    subst same
    obtain rfl : other = loop := Option.some.inj (governed.owns.symm.trans owns)
    exact governed

theorem inv_exit_shared (held : Inv s) (shared : (s.koils koil).loop = none) (joined : Bool) :
    Inv (s.exit none koil joined).state := by
  have loops : ∀ other, ((s.setKoil koil { s.koils koil with running := false }).koils
      other).loop = (s.koils other).loop := setKoil_loop s rfl
  rw [exit_shared shared]
  refine ⟨?_, held.unmade⟩
  rcases held.ambient with idle | ⟨owner, loop, governed⟩
  · refine .inl ⟨idle.1, fun other => ⟨(loops other).trans (idle.2 other).1, ?_⟩⟩
    by_cases same : other = koil
    · subst same
      simp
    · simpa [same] using (idle.2 other).2
  · exact .inr ⟨owner, loop, governed.ambientKoil, governed.ambientLoop,
      (loops owner).trans governed.owns, governed.made, governed.isOpen,
      fun other ne => (loops other).trans (governed.others other ne)⟩

theorem exit_governed (governed : Governed s koil loop) (joined : Bool) :
    ∃ closed, (s.exit none koil joined).state =
        ({ s with closed := closed }.setKoil koil (.fresh (s.koils koil).syncInAsync)).setAmbient
          .nothing .nothing ∧
      ∀ other, other ≠ loop → closed other = s.closed other := by
  have outside : ((s.koils koil).loopThread && (none : Option Nat) == some loop) = false := by
    simp
  obtain ⟨closed, exited, kept⟩ := exit_open governed.owns governed.isOpen outside
  exact ⟨closed, congrArg Exited.state exited, kept⟩

theorem inv_exit_governed (held : Inv s) (governed : Governed s koil loop)
    (alone : ∀ other, other ≠ koil → (s.koils other).running = false) (joined : Bool) :
    Inv (s.exit none koil joined).state := by
  obtain ⟨closed, after, kept⟩ := exit_governed governed joined
  rw [after]
  refine ⟨.inl ⟨by simp, fun other => ?_⟩, fun unmade beyond => ?_⟩
  · by_cases same : other = koil
    · subst same
      simp [KoilObject.fresh]
    · simpa [same] using ⟨governed.others other same, alone other same⟩
  · have differ : unmade ≠ loop := by
      rintro rfl
      exact absurd governed.made (Nat.not_lt.mpr beyond)
    exact (kept unmade differ).trans (held.unmade unmade beyond)

theorem not_live_exit {t : Thread} (governed : Governed t.state koil loop) {other : Nat}
    (ne : other ≠ koil) (running : (t.state.koils other).running = true) (joined : Bool)
    (entered : Nat → Nat) : ¬ RunningLive ⟨(t.state.exit none koil joined).state, entered⟩ := by
  obtain ⟨closed, after, _⟩ := exit_governed governed joined
  rw [after]
  refine not_live other ?_ (by simp)
  simpa [ne] using running

theorem inv_start (syncInAsync : Nat → Bool) : Inv (start syncInAsync).state :=
  ⟨.inl ⟨rfl, fun _ => ⟨rfl, rfl⟩⟩, fun _ _ => rfl⟩

theorem live_of_inv {t : Thread} (held : Inv t.state) : RunningLive t := by
  rcases held.ambient with idle | ⟨koil, loop, governed⟩
  · exact live_of_idle idle
  · exact live_of_governed governed

theorem inv_step (t : Thread) (label : Label) (t' : Thread) (held : Inv t.state)
    (meets : LeavesNoneRunning t label) (taken : step t label = some t') : Inv t'.state := by
  cases label with
  | enter koil =>
      obtain ⟨after, owner, loop, entered, governed, unmade⟩ := enter_governed held koil
      simp only [step, entered, Except.toOption, Option.map_some, Option.some.injEq] at taken
      subst taken
      exact ⟨.inr ⟨owner, loop, governed⟩, unmade⟩
  | exit koil joined =>
      obtain ⟨_, exited⟩ := Option.ite_none_left_eq_some.mp taken
      cases exited
      cases owned : (t.state.koils koil).loop with
      | none => exact inv_exit_shared held owned joined
      | some loop =>
          rcases meets with shared | alone
          · rw [owned] at shared
            cases shared
          · exact inv_exit_governed held (held.governs owned) alone joined

/-- The states after which some Koil runs without a loop are those after the exit of
the loop's Koil before another. -/
theorem live_iff (t : Thread) (label : Label) (t' : Thread) (held : Inv t.state)
    (taken : step t label = some t') : RunningLive t' ↔ LeavesNoneRunning t label := by
  constructor
  · intro live
    cases label with
    | enter koil => trivial
    | exit koil joined =>
        obtain ⟨_, exited⟩ := Option.ite_none_left_eq_some.mp taken
        cases exited
        cases owned : (t.state.koils koil).loop with
        | none => exact .inl owned
        | some loop =>
            refine .inr fun other ne => ?_
            by_contra running
            exact not_live_exit (held.governs owned) ne (by simpa using running) joined _ live
  · intro meets
    exact live_of_inv (inv_step t label t' held meets taken)

/-- In all states of a run every running Koil has a live loop exactly when no step of it
exits the Koil that started the loop while another is running. -/
theorem running_koil_live_iff (syncInAsync : Nat → Bool) {history : List (Thread × Label)}
    {t : Thread} (run : Reaches step (start syncInAsync) history t) :
    ((∀ taken ∈ history, RunningLive taken.1) ∧ RunningLive t) ↔
      ∀ taken ∈ history, LeavesNoneRunning taken.1 taken.2 := by
  have initial : Inv (start syncInAsync).state := inv_start syncInAsync
  exact @Reaches.good_states_iff _ _ _ _ (fun t => Inv t.state) RunningLive LeavesNoneRunning
    initial (live_of_inv initial) inv_step live_iff _ _ run

def nested : List Label := [.enter 0, .enter 1, .exit 1 true, .exit 0 true]

theorem running_koil_live_iff_nested : ∃ history t,
    Reaches step (start fun _ => true) history t ∧
      (((∀ taken ∈ history, RunningLive taken.1) ∧ RunningLive t) ↔
        ∀ taken ∈ history, LeavesNoneRunning taken.1 taken.2) := by
  have initial : Reaches step (start fun _ => true) [] (start fun _ => true) := .start
  have run := initial.follow nested rfl
  exact ⟨_, _, run, running_koil_live_iff (fun _ => true) run⟩

/-- The Koil entered first is exited first: the other one is running without a loop. -/
theorem running_koil_without_loop : ∃ history t,
    Reaches step (start fun _ => true) history t ∧
      (t.state.koils 1).running = true ∧ t.state.closed 0 = true ∧ ¬ RunningLive t := by
  have initial : Reaches step (start fun _ => true) [] (start fun _ => true) := .start
  have run := initial.follow [.enter 0, .enter 1, .exit 0 true] rfl
  exact ⟨_, _, run, rfl, rfl, not_live 1 rfl rfl⟩

end Koil.RunningKoils
