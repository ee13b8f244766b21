import Koil.BlockEntries

namespace Koil.Managers

open Contexts Koils WithStatement

variable {τ α : Type} {env : Env} {objects : Objects τ α} {w : World τ} {koil loop : Nat}

def Block.exitsHeld (env : Env) (w : World τ) : Block → World τ
  | .withKoil koil => left (exitKoil env koil w)
  | .asyncWithKoil _ => w
  | .withKoilable object => left (exitIfAny env (w.field object) w)
  | .withCm cm => left (exitOwn env cm w)

/-- `__aexit__` is quiet, so that leaving a block is exiting the Koil it holds. A
`@koilable` object only gets there if its `unkoil` is accepted. -/
theorem exit_held {block : Block}
    (normal : ∀ loop, w.target env "" = .ok loop → block.NormalOn env objects loop)
    (sound : Sound env w) (sync : block.isAsync = false)
    (accepted : ∀ object, block = .withKoilable object → ∃ loop, w.target env "" = .ok loop)
    (exc : Option Exc) :
    ∃ mid, Quiet w mid ∧ left (block.exit env objects exc w) = block.exitsHeld env mid := by
  cases block with
  | asyncWithKoil koil => cases sync
  | withKoil koil => exact ⟨w, Quiet.refl w, left_bind_pure false⟩
  | withKoilable object =>
      obtain ⟨loop, got⟩ := accepted object rfl
      have returns := Manager.Normal.exits (normal loop got) exc
      obtain ⟨truthy, mid, ended, quiet⟩ := unkoil_returns returns sound
        (target_advice got (objects.koilable object).awaitExit) (.aexit object exc)
      refine ⟨mid, quiet, ?_⟩
      rw [Block.exit, koiledExit, bind_ok ended, get_bind]
      exact left_bind_pure false
  | withCm cm =>
      refine ⟨_, ?_, left_finally _ _ w⟩
      rcases unkoil_cases (fun loop got => Manager.Normal.exits (normal loop got) exc) sound
        (objects.cm cm).awaitExit (.aexit cm exc) with
        ⟨_, value, after, _, ended, quiet⟩ | ⟨_, raised, ended⟩
      · rw [ended]
        exact quiet
      · rw [ended]
        exact Quiet.refl w

theorem quiet_exitsHeld {block : Block}
    (idle : ∀ koil, block.held w = some koil → w.Idle koil) :
    Quiet w (block.exitsHeld env w) := by
  cases block with
  | asyncWithKoil koil => exact Quiet.refl w
  | withKoil koil => exact quiet_exitKoil env (idle koil rfl)
  | withKoilable object =>
      cases held : w.field object with
      | none =>
          rw [Block.exitsHeld, held]
          exact Quiet.refl w
      | some koil =>
          rw [Block.exitsHeld, held]
          exact quiet_exitKoil env (idle koil held)
  | withCm cm => exact quiet_exitOwn idle

theorem exitsHeld_stops (env : Env) {block : Block} (held : block.held w = some koil)
    (owns : (w.base.koils koil).loop = some loop) (isOpen : w.base.closed loop = false) :
    (block.exitsHeld env w).stopped = loop :: w.stopped := by
  have stops := exitKoil_stops env owns isOpen
  cases block with
  | asyncWithKoil other => cases held
  | withKoil other =>
      cases held
      exact stops
  | withKoilable object =>
      have field : w.field object = some koil := held
      rw [Block.exitsHeld, field]
      exact stops
  | withCm cm =>
      rw [Block.exitsHeld, exitOwn_some held]
      cases taken : exitKoil env koil w <;> simpa only [taken, left] using stops

theorem exitsHeld_outside {block : Block} (held : block.held w = some koil)
    (owns : (w.base.koils koil).loop = some loop) (isOpen : w.base.closed loop = false)
    (outside : env.running ≠ some loop) : Stopped w (block.exitsHeld env w) loop := by
  obtain ⟨after, taken, stopped⟩ := exitKoil_outside owns isOpen outside
  cases block with
  | asyncWithKoil other => cases held
  | withKoil other =>
      cases held
      simpa only [Block.exitsHeld, taken, left] using stopped
  | withKoilable object =>
      have field : w.field object = some koil := held
      simpa only [Block.exitsHeld, field, exitIfAny, taken, left] using stopped
  | withCm cm =>
      rw [Block.exitsHeld, exitOwn_some held, taken]
      exact ⟨stopped.ambient, stopped.ambientLoop, stopped.made, stopped.closed,
        stopped.stopped, stopped.isSet, stopped.seen⟩

theorem Quiet.held {w' : World τ} (quiet : Quiet w w') {block : Block}
    (held : block.held w = some koil) (busy : ¬ w.Idle koil) : block.held w' = some koil := by
  cases block with
  | asyncWithKoil other => cases held
  | withKoil other => exact held
  | withKoilable object => exact (congrFun quiet.field object).trans held
  | withCm cm =>
      rcases quiet.own cm with same | ⟨_, idle⟩
      · exact same.trans held
      · exact absurd (idle koil held) busy

theorem Quiet.held_back {w' : World τ} (quiet : Quiet w w') {block : Block}
    (held : block.held w' = some koil) : block.held w = some koil := by
  cases block with
  | asyncWithKoil other => cases held
  | withKoil other => exact held
  | withKoilable object => exact (congrFun quiet.field object).symm.trans held
  | withCm cm =>
      rcases quiet.own cm with same | ⟨dropped, _⟩
      · exact same.symm.trans held
      · rw [Block.held, dropped] at held
        cases held

end Koil.Managers
