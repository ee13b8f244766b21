import Koil.ManagerWrappers

namespace Koil.Managers

open Contexts Koils WithStatement

variable {τ α β : Type} {env : Env} {w w' : World τ} {koil loop : Nat}

theorem withVars_internal (ctx : Context) (vars : Vars) {var : Var}
    (internal : var.internal = true) : withVars ctx vars var = ctx var := by
  cases var with
  | user name => cases internal
  | globalKoil => rfl
  | globalKoilLoop => rfl
  | currentCancelEvent => rfl

theorem setSeen_seen (w : World τ) (seen : τ × Vars) : (w.setSeen seen).seen = seen := rfl

theorem quiet_setSeen (w : World τ) (seen : τ × Vars) : Quiet w (w.setSeen seen) :=
  { Quiet.refl w with internal := fun _ internal => withVars_internal _ _ internal }

def World.kill (w : World τ) (loop : Nat) : World τ :=
  { w with base := { w.base with closed := Function.update w.base.closed loop true } }

def Env.kills (env : Env) (exc : Exc) (loop : Nat) : Bool := exc.stopsLoop && env.dies loop

section unkoil

variable {advice : String} {method : Method τ α} {program : Program τ α}

theorem submits_accepted (accepted : w.target env advice = .ok loop)
    (unset : w.isSet 0 = false) : submits env advice w = .ok loop w.look := by
  have got : w.base.getKoiledLoopOrRaise env.running advice = .ok loop := accepted
  simp [submits, got, unset]

theorem unkoil_accepted_eq {coro : Coroutine τ α} {call : Call}
    (accepted : w.target env advice = .ok loop) :
    unkoil env advice call coro w =
      if w.isSet 0 then .error (.of .threadCancelledError "Thread was cancelled") w.look
      else runs env call coro loop w.look := by
  have got : w.base.getKoiledLoopOrRaise env.running advice = .ok loop := accepted
  cases cancelled : w.isSet 0 with
  | true =>
      refine bind_error ?_
      simp [submits, got, cancelled]
  | false => exact bind_ok (submits_accepted accepted cancelled)

theorem raced_onLoop (method : Method τ α) (inside : Inside τ) :
    ∃ cancelled, raced method.onLoop inside =
      match method.raced ⟨inside.site, inside.loses⟩ (inside.user, inside.ctx.vars) with
      | .ok value seen => .ok value { inside with
          user := seen.1, ctx := withVars inside.ctx seen.2, cancelled := cancelled }
      | .error exc seen => .error exc { inside with
          user := seen.1, ctx := withVars inside.ctx seen.2, cancelled := cancelled } := by
  cases cut : inside.loses && method.awaits inside.site (inside.user, inside.ctx.vars) with
  | false =>
      refine ⟨false, ?_⟩
      simp only [Managers.raced, Method.onLoop, Method.raced, cut, Bool.false_eq_true, if_false]
      cases method.run inside.site (inside.user, inside.ctx.vars) <;> simp
  | true =>
      have loses : inside.loses = true := (Bool.and_eq_true_iff.mp cut).1
      refine ⟨true, ?_⟩
      simp only [Managers.raced, Method.onLoop, Method.raced, cut, if_true]
      cases method.cancelled inside.site (inside.user, inside.ctx.vars) <;> simp [loses]

theorem loses_uncancelled (uncancelled : ∀ look, w.isSet look = false) (loop : Nat) :
    w.look.loses env loop = env.foreign loop := by
  simp [World.loses, World.look, uncancelled 1]

theorem unkoil_onLoop_ok (call : Call) (accepted : w.target env advice = .ok loop)
    (uncancelled : ∀ look, w.isSet look = false) {value : α} {seen : τ × Vars}
    (ran : method.raced ⟨.task w.started.length, env.foreign loop⟩ w.seen = .ok value seen) :
    ∃ after, unkoil env advice call method.onLoop w = .ok value after ∧ Quiet w after ∧
      after.seen = merge w.seen.2 seen ∧ after.started = call :: w.started := by
  obtain ⟨cancelled, ended⟩ := raced_onLoop method (w.look.inside env loop)
  have ran' : method.raced ⟨(w.look.inside env loop).site, (w.look.inside env loop).loses⟩
      ((w.look.inside env loop).user, (w.look.inside env loop).ctx.vars) = .ok value seen := by
    rw [World.inside, loses_uncancelled uncancelled]
    exact ran
  rw [ran'] at ended
  rw [unkoil, bind_ok (submits_accepted accepted (uncancelled 0))]
  simp only [runs, ended]
  refine ⟨_, rfl, { (quiet_look w).trans (quiet_look _) with internal := fun var internal => ?_ },
    rfl, rfl⟩
  exact (setItems_eq_iff _ _ var).mpr (.inr (withVars_internal _ _ internal))

theorem unkoil_onLoop_error (call : Call) (accepted : w.target env advice = .ok loop)
    (uncancelled : ∀ look, w.isSet look = false) {exc : Exc} {seen : τ × Vars}
    (ran : method.raced ⟨.task w.started.length, env.foreign loop⟩ w.seen = .error exc seen) :
    ∃ after, unkoil env advice call method.onLoop w = .error (Race.crossed exc) after ∧
      Quiet (if env.kills exc loop then w.kill loop else w) after ∧
      after.seen = (seen.1, w.seen.2) := by
  obtain ⟨cancelled, ended⟩ := raced_onLoop method (w.look.inside env loop)
  have ran' : method.raced ⟨(w.look.inside env loop).site, (w.look.inside env loop).loses⟩
      ((w.look.inside env loop).user, (w.look.inside env loop).ctx.vars) = .error exc seen := by
    rw [World.inside, loses_uncancelled uncancelled]
    exact ran
  rw [ran'] at ended
  rw [unkoil, bind_ok (submits_accepted accepted (uncancelled 0))]
  simp only [runs, ended]
  refine ⟨_, rfl, ?_, rfl⟩
  cases killed : env.kills exc loop with
  | true =>
      have killed' : (exc.stopsLoop && env.dies loop) = true := killed
      simp only [killed', if_true]
      exact { (quiet_look (w.kill loop)).trans (quiet_look _) with }
  | false =>
      have alive : (exc.stopsLoop && env.dies loop) = false := killed
      simp only [alive, Bool.false_eq_true, if_false]
      exact { (quiet_look w).trans (quiet_look _) with }

theorem inThread_ok {value : α} {seen : τ × Vars} (ran : program w.seen = .ok value seen) :
    program.inThread w = .ok value (w.setSeen seen) := by
  simp only [Program.inThread, ran]

theorem inThread_error {exc : Exc} {seen : τ × Vars} (ran : program w.seen = .error exc seen) :
    program.inThread w = .error exc (w.setSeen seen) := by
  simp only [Program.inThread, ran]

theorem left_inThread (program : Program τ α) (w : World τ) :
    left (program.inThread w) = w.setSeen (left (program w.seen)) := by
  unfold Program.inThread
  cases program w.seen <;> rfl

theorem thrown_inThread (program : Program τ α) (w : World τ) :
    thrown (program.inThread w) = thrown (program w.seen) := by
  unfold Program.inThread
  cases program w.seen <;> rfl

end unkoil

theorem Quiet.restored (quiet : Quiet w w') : Restored w w' where
  ambient := quiet.ambient
  exited loop beyond below := by
    rw [quiet.made] at below
    exact absurd below (Nat.not_lt.mpr beyond)

theorem Begins.restored {begun ended after : World τ} (begins : Begins env w begun koil)
    (unset : w.ambient = .nothing) (quiet : Quiet begun ended)
    (stopped : Stopped ended after w.base.made) : Restored w after where
  ambient := stopped.ambient.trans unset.symm
  exited loop beyond below := by
    rw [stopped.made, quiet.made, begins.made] at below
    obtain rfl : loop = w.base.made := Nat.le_antisymm (Nat.le_of_lt_succ below) beyond
    rw [stopped.stopped]
    exact List.mem_cons_self

theorem Begins.exits {begun ended : World τ} (begins : Begins env w begun koil)
    (sound : Sound env w) (quiet : Quiet begun ended) :
    ∃ after, exitKoil env koil ended = .ok () after ∧ Stopped ended after w.base.made := by
  refine exitKoil_outside ((quiet.koils koil).1.trans begins.owns) ?_ sound.outside
  rw [quiet.closed]
  exact begins.isOpen sound

def Play.outcome (suppresses : Bool) : Play τ β → Except Exc (Option β)
  | .failsEnter exc _ | .failsExit exc _ => .error (Race.crossed exc)
  | .completes (.ok value) _ _ => .ok (some value)
  | .completes (.error exc) truthy _ => if suppresses && truthy then .ok none else .error exc

def Play.seen : Play τ β → τ × Vars
  | .failsEnter _ seen | .failsExit _ seen | .completes _ _ seen => seen

/-- No loop of the block's own is left behind by a coroutine that raises. -/
def Play.Clean (env : Env) (w : World τ) : Play τ β → Prop
  | .failsEnter exc _ => w.ambient = .nothing → env.kills exc w.base.made = false
  | .failsExit _ _ => w.ambient ≠ .nothing
  | .completes _ _ _ => True

/-- The calls of a wrapper do what those of the manager do, and leave nothing behind. -/
structure Drives (env : Env) (parts : Parts τ α) (w : World τ) (enter : Sync τ α)
    (exit : Option Exc → Sync τ Bool) (suppresses : Bool) : Prop where
  enters : ∀ value seen, parts.aenter w.seen = .ok value seen →
    ∃ begun, enter w = .ok value begun ∧ begun.seen = merge w.seen.2 seen ∧
      ∀ ended exc, Quiet begun ended → ended.started = begun.started →
        (∀ truthy seen, parts.aexit exc ended.seen = .ok truthy seen →
          ∃ after, exit exc ended = .ok (suppresses && truthy) after ∧
            after.seen = merge ended.seen.2 seen ∧ Restored w after) ∧
        ∀ exc' seen, parts.aexit exc ended.seen = .error exc' seen → w.ambient ≠ .nothing →
          ∃ after, exit exc ended = .error (Race.crossed exc') after ∧
            after.seen = (seen.1, ended.seen.2) ∧ Restored w after
  fails : ∀ exc seen, parts.aenter w.seen = .error exc seen →
    (w.ambient = .nothing → env.kills exc w.base.made = false) →
      ∃ after, enter w = .error (Race.crossed exc) after ∧ after.seen = (seen.1, w.seen.2) ∧
        Restored w after

theorem Drives.ends {parts : Parts τ α} {enter : Sync τ α}
    {exit : Option Exc → Sync τ Bool} {suppresses : Bool}
    (drives : Drives env parts w enter exit suppresses) (body : α → Program τ β)
    (clean : (parts.play body w.seen).Clean env w) :
    result (withStatement enter exit (fun value => (body value).inThread) w) =
        (parts.play body w.seen).outcome suppresses ∧
      (left (withStatement enter exit (fun value => (body value).inThread) w)).seen =
        (parts.play body w.seen).seen ∧
      Restored w (left (withStatement enter exit (fun value => (body value).inThread) w)) := by
  unfold Parts.play at clean ⊢
  cases entered : parts.aenter w.seen with
  | error exc seen =>
      simp only [entered] at clean ⊢
      obtain ⟨after, raised, same, restored⟩ := drives.fails exc seen entered clean
      rw [withStatement_refused raised]
      exact ⟨rfl, same, restored⟩
  | ok value seen =>
      simp only [entered] at clean ⊢
      obtain ⟨begun, enters, same, exits⟩ := drives.enters value seen entered
      rw [withStatement_entered enters]
      rw [← same] at clean ⊢
      cases ran : body value begun.seen with
      | ok value seen =>
          rw [inThread_ok ran]
          simp only [ran, leave, left, thrown] at clean ⊢
          obtain ⟨returns, raises⟩ :=
            exits (begun.setSeen seen) none (quiet_setSeen begun seen) rfl
          rw [setSeen_seen] at returns raises
          cases exited : parts.aexit none seen with
          | ok truthy last =>
              obtain ⟨after, exit, same, restored⟩ := returns truthy last exited
              rw [exit]
              exact ⟨rfl, same, restored⟩
          | error exc last =>
              simp only [exited] at clean
              obtain ⟨after, exit, same, restored⟩ := raises exc last exited clean
              rw [exit]
              exact ⟨rfl, same, restored⟩
      | error raised seen =>
          rw [inThread_error ran]
          simp only [ran, leave, left, thrown] at clean ⊢
          obtain ⟨returns, raises⟩ :=
            exits (begun.setSeen seen) (some raised) (quiet_setSeen begun seen) rfl
          rw [setSeen_seen] at returns raises
          cases exited : parts.aexit (some raised) seen with
          | ok truthy last =>
              obtain ⟨after, exit, same, restored⟩ := returns truthy last exited
              rw [exit]
              cases suppressed : suppresses && truthy with
              | true => exact ⟨by simp [Play.outcome, result, suppressed], same, restored⟩
              | false => exact ⟨by simp [Play.outcome, result, suppressed], same, restored⟩
          | error exc last =>
              simp only [exited] at clean
              obtain ⟨after, exit, same, restored⟩ := raises exc last exited clean
              rw [exit]
              exact ⟨rfl, same, restored⟩

theorem Quiet.unowned (quiet : Quiet w w') {cm : Nat} (unowned : w.own cm = none) :
    w'.own cm = none := by
  rcases quiet.own cm with same | ⟨dropped, _⟩
  · exact same.trans unowned
  · exact dropped

theorem Prepared.seen (prepared : Prepared w w') : w'.seen = w.seen := by
  rw [World.seen, World.seen, prepared.user, prepared.ctx]

section drives

variable {manager : UserManager τ α} {object cm : Nat}

theorem cm_starts (env : Env) (manager : UserManager τ α) (unset : w.ambient = .nothing)
    (allows : ∀ koil, w.given cm = some koil → ¬ w.RefusesSync env koil) :
    ∃ koil begun, Begins env w begun koil ∧ begun.seen = w.seen ∧ begun.started = w.started ∧
      begun.own cm = some koil ∧
      cmEnter env manager.manager cm w =
        reraising (unkoil env manager.awaitEnter (.aenter cm) manager.aenter.onLoop)
          (exitOwn env cm) begun ∧
      koil = (w.given cm).getD w.koilsMade ∧ begun.given = w.given ∧
      (w.given cm = some koil →
        (begun.base.koils koil).syncInAsync = (w.base.koils koil).syncInAsync) := by
  obtain ⟨koil, mid, found, prepared, held, refuses⟩ := ownKoil_spec env w cm
  obtain ⟨given, kept⟩ := ownKoil_given found
  have allowed : ¬ mid.RefusesSync env koil := by
    intro refused
    obtain ⟨given, refused⟩ := refuses refused
    exact allows koil given refused
  obtain ⟨begun, entered, started, begins⟩ := prepared.starts unset allowed
  refine ⟨koil, begun, begins, started.seen.trans prepared.seen,
    started.calls.trans prepared.calls, (congrFun started.own cm).trans held, ?_,
    (ownKoil_found env found).1, (enterKoil_given entered).trans given,
    fun chosen => started.sync.trans (by rw [kept chosen])⟩
  rw [cm_alone env manager.manager unset found, bind_ok entered]
  rfl

theorem Unused.allows (unused : Unused w object cm) (koil : Nat) (given : w.given cm = some koil) :
    ¬ w.RefusesSync env koil := by
  rw [unused.given] at given
  cases given

variable {body : α → Program τ β}

variable {parts : Parts τ α}

end drives

def returning (truthy : Bool) : UserManager Unit Unit where
  aenter := .prompt (pure ())
  aexit _ := .prompt (pure truthy)
  awaitEnter := ""
  awaitExit := ""

def failing : Unit → Program Unit Unit := fun _ => throw (.of .valueError "boom")

theorem fresh_sound : Sound plainThread (World.fresh 0 ()) :=
  ⟨fun _ _ => rfl, nofun, fun _ => rfl⟩

end Koil.Managers
