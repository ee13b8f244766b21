import Koil.Blocks
import Koil.ManagerSteps

namespace Koil.Managers

open Contexts Koils WithStatement

variable {τ α : Type}

def Block.manager : Block → Option Nat
  | .withKoil _ | .asyncWithKoil _ => none
  | .withKoilable object => some object
  | .withCm cm => some cm

def Visit.teardown (visit : Visit τ) : List Call :=
  newer visit.left.started visit.after.started

/-- The manager of a block that was entered gets its `__aexit__` started when the block is
left: once, with the exception of the body, and nothing else is started. -/
def Visit.TornDown (visit : Visit τ) : Prop :=
  visit.entered = true → ∀ manager, visit.block.manager = some manager →
    visit.teardown = [.aexit manager visit.thrown]

/-- An `unkoil` would be accepted: the cancel event is not set, and there is a loop. -/
def World.Accepts (w : World τ) (env : Env) : Prop :=
  w.isSet 0 = false ∧ ∃ loop, w.target env "" = .ok loop

/-- The state in which a manager's block is left accepts an `unkoil`. -/
def Visit.LeftAccepting (visit : Visit τ) (env : Env) : Prop :=
  visit.entered = true → ∀ manager, visit.block.manager = some manager →
    visit.left.Accepts env

variable {env : Env} {objects : Objects τ α} {w : World τ}

theorem exitKoil_started (env : Env) (koil : Nat) (w : World τ) :
    (left (exitKoil env koil w)).started = w.started := by
  simp only [exitKoil]
  split <;> rfl

theorem exitIfAny_started (env : Env) (koil : Option Nat) (w : World τ) :
    (left (exitIfAny env koil w)).started = w.started := by
  cases koil with
  | none => rfl
  | some koil => exact exitKoil_started env koil w

theorem exitOwn_started (env : Env) (cm : Nat) (w : World τ) :
    (left (exitOwn env cm w)).started = w.started := by
  cases owned : w.own cm with
  | none => rw [exitOwn_none owned]; rfl
  | some koil =>
      have started := exitKoil_started env koil w
      rw [exitOwn_some owned]
      cases taken : exitKoil env koil w <;> simpa only [taken, left] using started

/-- An accepted `unkoil` runs its coroutine, and a refused one has at most looked at the
cancel event. -/
theorem unkoil_split (env : Env) {β : Type} (advice : String) (call : Call)
    (coro : Coroutine τ β) (w : World τ) :
    (w.Accepts env ∧ ∃ loop, w.target env "" = .ok loop ∧
        unkoil env advice call coro w = runs env call coro loop w.look) ∨
      (¬ w.Accepts env ∧ ∃ exc after, unkoil env advice call coro w = .error exc after ∧
        (after = w ∨ after = w.look)) := by
  cases got : w.target env advice with
  | error exc =>
      refine .inr ⟨?_, exc, w, unkoil_refused got call, .inl rfl⟩
      rintro ⟨_, loop, accepted⟩
      rw [target_advice accepted advice] at got
      cases got
  | ok loop =>
      have found : w.base.getKoiledLoopOrRaise env.running advice = .ok loop := got
      cases set : w.isSet 0 with
      | true =>
          have refused : submits env advice w =
              .error (.of .threadCancelledError "Thread was cancelled") w.look := by
            simp [submits, found, set]
          refine .inr ⟨fun accepts => ?_, _, _, bind_error refused, .inr rfl⟩
          rw [accepts.1] at set
          cases set
      | false =>
          have submitted : submits env advice w = .ok loop w.look := by
            simp [submits, found, set]
          have accepted := target_advice got ""
          refine .inl ⟨⟨set, loop, accepted⟩, loop, accepted, ?_⟩
          rw [unkoil, bind_ok submitted]

theorem unkoil_accepted {β : Type} (advice : String) (call : Call) (coro : Coroutine τ β)
    (accepts : w.Accepts env) : ∃ loop, w.target env "" = .ok loop ∧
      unkoil env advice call coro w = runs env call coro loop w.look := by
  rcases unkoil_split env advice call coro w with ⟨_, ran⟩ | ⟨refused, _⟩
  · exact ran
  · exact absurd accepts refused

theorem unkoil_started (env : Env) {β : Type} (advice : String) (call : Call)
    (coro : Coroutine τ β) (w : World τ) :
    (w.Accepts env ∧ (left (unkoil env advice call coro w)).started = call :: w.started) ∨
      (¬ w.Accepts env ∧ (left (unkoil env advice call coro w)).started = w.started ∧
        ∃ exc after, unkoil env advice call coro w = .error exc after) := by
  rcases unkoil_split env advice call coro w with
    ⟨accepts, loop, _, ran⟩ | ⟨refused, exc, after, raised, same⟩
  · refine .inl ⟨accepts, ?_⟩
    rw [ran, runs]
    split <;> rfl
  · refine .inr ⟨refused, ?_, exc, after, raised⟩
    rw [raised]
    rcases same with rfl | rfl <;> rfl

theorem koiledExit_started (env : Env) (manager : Manager τ α) (object : Nat)
    (exc : Option Exc) (w : World τ) :
    newer w.started (left (koiledExit env manager object exc w)).started =
      [.aexit object exc] ↔ w.Accepts env := by
  rcases unkoil_started env manager.awaitExit (.aexit object exc) (manager.aexit exc) w
    with ⟨accepts, started⟩ | ⟨refused, started, exc', after, raised⟩
  · refine iff_of_true ?_ accepts
    have same : (left (koiledExit env manager object exc w)).started =
        .aexit object exc :: w.started := by
      rw [← started]
      cases ran : unkoil env manager.awaitExit (.aexit object exc) (manager.aexit exc) w with
      | ok _ mid =>
          rw [koiledExit, bind_ok ran, get_bind, left_bind_pure]
          exact exitIfAny_started env (mid.field object) mid
      | error _ mid =>
          rw [koiledExit, bind_error ran]
    rw [same, newer_cons]
  · refine iff_of_false ?_ refused
    rw [raised] at started
    rw [koiledExit, bind_error raised, started, newer_self]
    nofun

theorem cmExit_started (env : Env) (manager : Manager τ α) (cm : Nat) (exc : Option Exc)
    (w : World τ) :
    newer w.started (left (cmExit env manager cm exc w)).started = [.aexit cm exc] ↔
      w.Accepts env := by
  rw [cmExit, left_finally, exitOwn_started]
  rcases unkoil_started env manager.awaitExit (.aexit cm exc) (manager.aexit exc) w
    with ⟨accepts, started⟩ | ⟨refused, started, _⟩
  · exact iff_of_true (by rw [started, newer_cons]) accepts
  · exact iff_of_false (by rw [started, newer_self]; nofun) refused

theorem visit_exit (code : Code τ) (w : World τ) :
    ∀ visit ∈ (code.exec env objects w).visits, visit.entered = true →
      visit.after = left (visit.block.exit env objects visit.thrown visit.left) := by
  induction code generalizing w with
  | pass => simp [Code.exec]
  | raising exc => simp [Code.exec]
  | checkCancelled => simp [Code.exec]
  | sleep polls => simp [Code.exec]
  | unkoil advice coro => simp [Code.exec]
  | seq first next ihFirst ihNext =>
      intro visit member
      simp only [Code.exec] at member
      cases ended : (first.exec env objects w).ended with
      | ok _ mid =>
          simp only [ended] at member
          rcases List.mem_append.mp member with member | member
          · exact ihFirst w visit member
          · exact ihNext mid visit member
      | error exc mid =>
          simp only [ended] at member
          exact ihFirst w visit member
  | attempt body handler ihBody ihHandler =>
      intro visit member
      simp only [Code.exec] at member
      cases ended : (body.exec env objects w).ended with
      | ok _ mid =>
          simp only [ended] at member
          exact ihBody w visit member
      | error exc mid =>
          simp only [ended] at member
          rcases List.mem_append.mp member with member | member
          · exact ihBody w visit member
          · exact ihHandler mid visit member
  | within block body ih =>
      intro visit member entered
      simp only [Code.exec] at member
      cases begins : block.enter env objects w with
      | ok _ begun =>
          simp only [begins] at member
          rcases List.mem_append.mp member with member | member
          · exact ih begun visit member entered
          · obtain rfl := List.mem_singleton.mp member
            exact left_blockLeave env objects block _
      | error exc begun =>
          simp only [begins] at member
          obtain rfl := List.mem_singleton.mp member
          cases entered

/-- In every run, every manager's block that was entered is torn down exactly when every
one of them is left where `unkoil` is accepted: where the ambient cancel event is not set
and `get_koiled_loop_or_raise` still gives a loop. -/
theorem teardown_iff (env : Env) (objects : Objects τ α) (code : Code τ) (w : World τ) :
    (∀ visit ∈ (code.exec env objects w).visits, visit.TornDown) ↔
      ∀ visit ∈ (code.exec env objects w).visits, visit.LeftAccepting env := by
  refine forall₂_congr fun visit member => ?_
  refine forall_congr' fun entered => forall₂_congr fun manager managed => ?_
  have after := visit_exit code w visit member entered
  rw [Visit.teardown, after]
  cases block : visit.block with
  | withKoil koil => simp [block, Block.manager] at managed
  | asyncWithKoil koil => simp [block, Block.manager] at managed
  | withKoilable object =>
      obtain rfl : object = manager := by simpa [block, Block.manager] using managed
      exact koiledExit_started env _ object visit.thrown visit.left
  | withCm cm =>
      obtain rfl : cm = manager := by simpa [block, Block.manager] using managed
      exact cmExit_started env _ cm visit.thrown visit.left

/-- A `run_threaded` worker of loop 0 that is cancelled once its block has begun. -/
def cancelledWorker : World Unit :=
  { World.fresh 1 () with
    base := ⟨Function.update (fun _ => .fresh true) 0 ⟨some 0, true, true, true⟩,
      fun _ => false, 1, (Context.empty.set .globalKoil (.koil 0)).forWorker 0 0⟩
    isSet := fun look => decide (1 ≤ look) }

def noticing : Code Unit := .within (.withKoilable 0) .checkCancelled

/-- The loop is still there, and yet `__aexit__` is never started. -/
theorem cancelled_worker_skips_teardown :
    ∃ visit ∈ (noticing.exec plainThread idleObjects cancelledWorker).visits,
      visit.entered = true ∧ visit.begun.started = [.aenter 0] ∧
        visit.thrown = some (.of .threadCancelledError "Task was cancelled") ∧
        visit.left.target plainThread "" = .ok 0 ∧ visit.after.started = [.aenter 0] ∧
        ¬ visit.TornDown := by
  refine ⟨_, List.mem_cons_self, rfl, rfl, rfl, rfl, rfl, fun tornDown => ?_⟩
  cases tornDown rfl 0 rfl

end Koil.Managers
