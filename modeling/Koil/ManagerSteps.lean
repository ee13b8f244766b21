import Koil.Managers

namespace Koil.Managers

open Contexts Koils WithStatement

variable {τ α : Type} {env : Env} {w w' : World τ} {koil loop : Nat}

def World.ambientLoop (w : World τ) : Val := w.base.ctx.getD .globalKoilLoop

def World.seen (w : World τ) : τ × Vars := (w.user, w.base.ctx.vars)

def World.target (w : World τ) (env : Env) (advice : String) : Except Exc Nat :=
  w.base.getKoiledLoopOrRaise env.running advice

def World.Idle (w : World τ) (koil : Nat) : Prop :=
  ∀ loop, (w.base.koils koil).loop = some loop → w.base.closed loop = true

def World.RefusesSync (w : World τ) (env : Env) (koil : Nat) : Prop :=
  env.running.isSome = true ∧ (w.base.koils koil).syncInAsync = false

/-- No Koil has another loop than before, no loop was made, closed or stopped, and koil's
own variables are as they were. A manager may have dropped a Koil that has no open loop. -/
structure Quiet (w w' : World τ) : Prop where
  koils : ∀ koil, (w'.base.koils koil).loop = (w.base.koils koil).loop ∧
    (w'.base.koils koil).loopThread = (w.base.koils koil).loopThread ∧
    (w'.base.koils koil).syncInAsync = (w.base.koils koil).syncInAsync
  closed : w'.base.closed = w.base.closed
  made : w'.base.made = w.base.made
  internal : ∀ var, var.internal = true → w'.base.ctx var = w.base.ctx var
  field : w'.field = w.field
  own : ∀ cm, w'.own cm = w.own cm ∨
    w'.own cm = none ∧ ∀ koil, w.own cm = some koil → w.Idle koil
  stopped : w'.stopped = w.stopped
  uncancelled : (∀ look, w.isSet look = false) → ∀ look, w'.isSet look = false

theorem Quiet.refl (w : World τ) : Quiet w w :=
  ⟨fun _ => ⟨rfl, rfl, rfl⟩, rfl, rfl, fun _ _ => rfl, rfl, fun _ => .inl rfl, rfl, id⟩

theorem Quiet.idle_iff (quiet : Quiet w w') (koil : Nat) : w'.Idle koil ↔ w.Idle koil := by
  unfold World.Idle
  rw [(quiet.koils koil).1, quiet.closed]

theorem Quiet.trans {w'' : World τ} (first : Quiet w w') (next : Quiet w' w'') :
    Quiet w w'' where
  koils koil :=
    ⟨(next.koils koil).1.trans (first.koils koil).1,
      (next.koils koil).2.1.trans (first.koils koil).2.1,
      (next.koils koil).2.2.trans (first.koils koil).2.2⟩
  closed := next.closed.trans first.closed
  made := next.made.trans first.made
  internal var held := (next.internal var held).trans (first.internal var held)
  field := next.field.trans first.field
  own cm := by
    rcases next.own cm with same | ⟨dropped, idle⟩
    · rw [same]
      exact first.own cm
    · refine .inr ⟨dropped, fun koil held => ?_⟩
      rcases first.own cm with same | ⟨_, idle'⟩
      · exact (first.idle_iff koil).mp (idle koil (same.trans held))
      · exact idle' koil held
  stopped := next.stopped.trans first.stopped
  uncancelled unset := next.uncancelled (first.uncancelled unset)

theorem Quiet.ambient (quiet : Quiet w w') : w'.ambient = w.ambient := by
  rw [World.ambient, World.ambient, Context.getD, Context.getD, quiet.internal _ rfl]

theorem Quiet.ambientLoop (quiet : Quiet w w') : w'.ambientLoop = w.ambientLoop := by
  rw [World.ambientLoop, World.ambientLoop, Context.getD, Context.getD, quiet.internal _ rfl]

theorem Quiet.target (quiet : Quiet w w') (env : Env) (advice : String) :
    w'.target env advice = w.target env advice := by
  have sync : (fun koil => (w'.base.koils koil).syncInAsync) =
      fun koil => (w.base.koils koil).syncInAsync :=
    funext fun koil => (quiet.koils koil).2.2
  unfold World.target State.getKoiledLoopOrRaise
  rw [sync, quiet.closed]
  exact getKoiledLoopOrRaise_congr quiet.internal ..

theorem quiet_look (w : World τ) : Quiet w w.look :=
  { Quiet.refl w with uncancelled := fun unset look => unset (look + 1) }

/-- A coroutine that leaves koil's own variables alone, and stops no loop; under a foreign
cancel event, if `foreign` says so, and else where it does not lose its race. -/
def Tidy (coro : Coroutine τ α) (foreign : Bool) : Prop :=
  ∀ inside, inside.cancelled = false → (inside.loses = true → foreign = true) →
    match coro inside with
    | .ok _ after => ∀ var, var.internal = true → after.ctx var = inside.ctx var
    | .error exc _ => exc.stopsLoop = false

theorem tidy_raced {coro : Coroutine τ α} {foreign : Bool} (tidy : Tidy coro foreign) :
    Tidy (raced coro) foreign := by
  intro inside uncut fits
  have kept := tidy inside uncut fits
  unfold raced
  cases ended : coro inside with
  | ok value after =>
      simp only [ended] at kept ⊢
      cases inside.loses && after.cancelled with
      | true => rfl
      | false => exact kept
  | error exc after =>
      simp only [ended] at kept ⊢
      cases inside.loses && after.cancelled with
      | true =>
          refine Race.unwound_survives fun other same => ?_
          rw [← Except.error.inj same]
          exact kept
      | false => exact kept

theorem quiet_runs {call : Call} {coro : Coroutine τ α} {foreign : Bool}
    (tidy : Tidy coro foreign) (w : World τ) (fits : w.loses env loop = true → foreign = true) :
    Quiet w (left (runs env call coro loop w)) := by
  have kept := tidy_raced tidy (w.inside env loop) rfl fits
  unfold runs
  split
  · next value after ended =>
      simp only [ended] at kept
      refine { quiet_look w with internal := fun var internal => ?_ }
      refine (setItems_eq_iff _ _ _).mpr (.inr (kept var internal))
  · next exc after ended =>
      simp only [ended] at kept
      refine { quiet_look w with closed := ?_ }
      simp [left, kept]

theorem quiet_submits (env : Env) (advice : String) (w : World τ) :
    Quiet w (left (submits env advice w)) := by
  unfold submits
  split
  · exact Quiet.refl w
  · split <;> exact quiet_look w

theorem submits_ok {advice : String} {after : World τ}
    (taken : submits env advice w = .ok loop after) :
    w.target env advice = .ok loop ∧ after = w.look := by
  unfold submits at taken
  split at taken
  · cases taken
  · next other got =>
      split at taken
      · cases taken
      · obtain ⟨rfl, rfl⟩ := EStateM.Result.ok.inj taken
        exact ⟨got, rfl⟩

theorem quiet_unkoil (env : Env) (call : Call) {coro : Coroutine τ α} {foreign : Bool}
    (tidy : Tidy coro foreign) (advice : String) (w : World τ)
    (fits : ∀ loop, w.target env advice = .ok loop → w.look.loses env loop = true →
      foreign = true) : Quiet w (left (unkoil env advice call coro w)) := by
  have submitted := quiet_submits env advice w
  simp only [unkoil, bind, EStateM.bind]
  cases taken : submits env advice w with
  | error exc after =>
      simp only [taken, left] at submitted
      exact submitted
  | ok loop after =>
      simp only [taken, left] at submitted
      obtain ⟨got, rfl⟩ := submits_ok taken
      exact submitted.trans (quiet_runs tidy _ (fits loop got))

theorem quiet_setRunning (w : World τ) (koil : Nat) (running : Bool) :
    Quiet w { w with
      base := w.base.setKoil koil ({ w.base.koils koil with running := running }) } := by
  refine { Quiet.refl w with koils := fun other => ?_ }
  by_cases same : other = koil
  · subst same
    simp
  · simp [same]

theorem quiet_enterKoil (env : Env) (set : w.ambient ≠ .nothing) (koil : Nat) :
    Quiet w (left (enterKoil env koil w)) := by
  unfold enterKoil
  split
  · next base entered =>
      rcases enter_cases entered with ⟨unset, _⟩ | ⟨_, rfl⟩
      · exact absurd unset set
      · exact quiet_setRunning w koil true
  · exact Quiet.refl w

theorem enterKoil_refuses (refuses : w.RefusesSync env koil) :
    enterKoil env koil w = .error noSyncInAsync w := by
  unfold enterKoil Koils.State.enter
  simp [refuses.1, refuses.2]

structure Started (w begun : World τ) (koil : Nat) : Prop where
  ambient : begun.ambient = .koil koil
  ambientLoop : begun.ambientLoop = .loop w.base.made
  owns : (begun.base.koils koil).loop = some w.base.made
  sync : (begun.base.koils koil).syncInAsync = (w.base.koils koil).syncInAsync
  made : begun.base.made = w.base.made + 1
  closed : begun.base.closed = w.base.closed
  stopped : begun.stopped = w.stopped
  isSet : begun.isSet = w.isSet
  field : begun.field = w.field
  own : begun.own = w.own
  calls : begun.started = w.started
  seen : begun.seen = w.seen

theorem setAmbient_vars (s : Koils.State) (koil loop : Val) :
    (s.setAmbient koil loop).ctx.vars = s.ctx.vars := by
  rw [Koils.State.setAmbient, vars_set_internal _ _ rfl, vars_set_internal _ _ rfl]

theorem enterKoil_starts (unset : w.ambient = .nothing) (allowed : ¬ w.RefusesSync env koil) :
    ∃ begun, enterKoil env koil w = .ok () begun ∧ Started w begun koil := by
  have accepted : ¬ (env.running.isSome && !(w.base.koils koil).syncInAsync) = true := by
    simpa [World.RefusesSync] using allowed
  have unset' : w.base.ctx.getD .globalKoil = .nothing := unset
  refine ⟨_, by simp only [enterKoil, Koils.State.enter, if_neg accepted, unset']; rfl, ?_⟩
  exact ⟨setAmbient_koil .., setAmbient_loop .., by simp, by simp, rfl, rfl, rfl, rfl, rfl, rfl,
    rfl, congrArg (Prod.mk w.user) (setAmbient_vars ..)⟩

theorem enterKoil_given {begun : World τ} (entered : enterKoil env koil w = .ok () begun) :
    begun.given = w.given := by
  unfold enterKoil at entered
  split at entered
  · rw [← (EStateM.Result.ok.inj entered).2]
  · cases entered

theorem quiet_exitKoil (env : Env) (idle : w.Idle koil) :
    Quiet w (left (exitKoil env koil w)) := by
  simp only [exitKoil]
  cases owned : (w.base.koils koil).loop with
  | none =>
      rw [exit_shared owned]
      exact quiet_setRunning w koil false
  | some loop =>
      rw [exit_closed owned (idle loop owned)]
      exact Quiet.refl w

theorem exitKoil_stops (env : Env) (owns : (w.base.koils koil).loop = some loop)
    (isOpen : w.base.closed loop = false) :
    (left (exitKoil env koil w)).stopped = loop :: w.stopped := by
  simp only [exitKoil]
  cases inside : (w.base.koils koil).loopThread && env.running == some loop with
  | true =>
      rw [exit_inside owns isOpen inside]
      rfl
  | false =>
      obtain ⟨closed, exited, _⟩ := exit_open owns isOpen inside
      rw [exited]
      rfl

theorem exitKoil_made (env : Env) (koil : Nat) (w : World τ) :
    (left (exitKoil env koil w)).base.made = w.base.made := by
  have made := fun joined => (exit_ctx w.base env.running koil joined).1
  simp only [exitKoil]
  split <;> exact made _

structure Stopped (w after : World τ) (loop : Nat) : Prop where
  ambient : after.ambient = .nothing
  ambientLoop : after.ambientLoop = .nothing
  made : after.base.made = w.base.made
  closed : ∀ other, other ≠ loop → after.base.closed other = w.base.closed other
  stopped : after.stopped = loop :: w.stopped
  isSet : after.isSet = w.isSet
  seen : after.seen = w.seen

theorem exitKoil_outside (owns : (w.base.koils koil).loop = some loop)
    (isOpen : w.base.closed loop = false) (outside : env.running ≠ some loop) :
    ∃ after, exitKoil env koil w = .ok () after ∧ Stopped w after loop := by
  have elsewhere : ((w.base.koils koil).loopThread && env.running == some loop) = false := by
    simp [outside]
  obtain ⟨closed, exited, kept⟩ := exit_open owns isOpen elsewhere
  refine ⟨_, by simp only [exitKoil]; rw [exited], ?_⟩
  exact ⟨setAmbient_koil .., setAmbient_loop .., rfl, kept, rfl, rfl,
    congrArg (Prod.mk w.user) (setAmbient_vars ..)⟩

theorem exitOwn_none {cm : Nat} (unowned : w.own cm = none) :
    exitOwn env cm w = .ok () w := by
  rw [exitOwn, get_bind, unowned]
  rfl

theorem exitOwn_some {cm : Nat} (owned : w.own cm = some koil) :
    left (exitOwn env cm w) =
      match exitKoil env koil w with
      | .ok _ after => { after with own := Function.update after.own cm none }
      | .error _ after => after := by
  rw [exitOwn, get_bind, owned]
  simp only
  cases taken : exitKoil env koil w with
  | ok value after =>
      rw [bind_ok taken]
      rfl
  | error exc after =>
      rw [bind_error taken]
      rfl

theorem exitOwn_made (env : Env) (cm : Nat) (w : World τ) :
    (left (exitOwn env cm w)).base.made = w.base.made := by
  cases owned : w.own cm with
  | none => rw [exitOwn_none owned]; rfl
  | some koil =>
      have made := exitKoil_made env koil w
      rw [exitOwn_some owned]
      cases taken : exitKoil env koil w <;> simpa only [taken, left] using made

theorem quiet_exitOwn {cm : Nat} (idle : ∀ koil, w.own cm = some koil → w.Idle koil) :
    Quiet w (left (exitOwn env cm w)) := by
  cases owned : w.own cm with
  | none =>
      rw [exitOwn_none owned]
      exact Quiet.refl w
  | some koil =>
      have exited := quiet_exitKoil env (idle koil owned)
      rw [exitOwn_some owned]
      cases taken : exitKoil env koil w with
      | error exc after =>
          simp only [taken, left] at exited
          exact exited
      | ok value after =>
          simp only [taken, left] at exited
          refine exited.trans { Quiet.refl after with own := fun other => ?_ }
          by_cases same : other = cm
          · subst same
            refine .inr ⟨Function.update_self .., fun held owned' => ?_⟩
            rcases exited.own other with kept | ⟨dropped, _⟩
            · obtain rfl : koil = held := Option.some.inj (owned.symm.trans (kept ▸ owned'))
              exact (exited.idle_iff koil).mpr (idle koil owned)
            · rw [dropped] at owned'
              cases owned'
          · exact .inl (Function.update_of_ne same ..)

theorem unkoil_refused {β : Type} {coro : Coroutine τ β} {advice : String} {exc : Exc}
    (refused : w.target env advice = .error exc) (call : Call) :
    unkoil env advice call coro w = .error exc w := by
  have got : w.base.getKoiledLoopOrRaise env.running advice = .error exc := refused
  refine bind_error ?_
  simp [submits, got]

theorem target_advice {advice : String} (accepted : w.target env advice = .ok loop)
    (other : String) : w.target env other = .ok loop :=
  getKoiledLoopOrRaise_ok_iff.mpr (getKoiledLoopOrRaise_ok_iff.mp accepted)

end Koil.Managers
