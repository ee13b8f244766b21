import Koil.ManagerAgreement

namespace Koil.Managers

open Contexts Koils WithStatement

variable {τ α β : Type} {env : Env} {manager : UserManager τ α} {parts : Parts τ α}
  {body : α → Program τ β} {w w' : World τ} {koil loop cm : Nat}

/-- What `await` raises where a coroutine raises. -/
def awaitError (exc : Exc) : Exc :=
  if exc.isA .stopIteration then .of .runtimeError "coroutine raised StopIteration" else exc

def Program.awaited (program : Program τ α) : Program τ α := fun seen =>
  match program seen with
  | .ok value seen => .ok value seen
  | .error exc seen => .error (awaitError exc) seen

/-- `async with acm as value: body`, with the methods of `acm` ending like these. -/
def Parts.natively (parts : Parts τ α) (body : α → Program τ β) : Program τ (Option β) :=
  withStatement parts.aenter.awaited (fun exc => (parts.aexit exc).awaited) body

def UserManager.alone (manager : UserManager τ α) (first second : Site) : Parts τ α :=
  manager.parts ⟨first, false⟩ ⟨second, false⟩

def UserManager.aloneAt (manager : UserManager τ α) (w : World τ) : Parts τ α :=
  manager.alone (.task w.started.length) (.task (w.started.length + 1))

/-- The manager and the body do the same wherever they run: neither resets a token of a
ContextVar that another part got, or leaves a scope of the running task that another entered. -/
structure UserManager.Anywhere (manager : UserManager τ α) (body : Site → α → Program τ β) :
    Prop where
  aenter : ∀ site site', manager.aenter.run site = manager.aenter.run site'
  aexit : ∀ exc site site', (manager.aexit exc).run site = (manager.aexit exc).run site'
  body : ∀ site site', body site = body site'

/-- The methods end without an await that outlasts a race which is lost at once. -/
structure UserManager.Prompt (manager : UserManager τ α) : Prop where
  aenter : ∀ site seen, manager.aenter.awaits site seen = false
  aexit : ∀ exc site seen, (manager.aexit exc).awaits site seen = false

def Play.native : Play τ β → Except Exc (Option β)
  | .failsEnter exc _ | .failsExit exc _ => .error (awaitError exc)
  | .completes (.ok value) _ _ => .ok (some value)
  | .completes (.error exc) truthy _ => if truthy then .ok none else .error exc

/-- No class of `concurrent.futures` that asyncio replaces, and nothing that ends a task or
a loop in a way of its own. -/
def plain (exc : Exc) : Bool :=
  !exc.isConverted && !exc.isA .asyncioCancelledError && !exc.stopsLoop

/-- What the manager's methods raise, if anything, is an exception like any other. -/
def Play.Plain : Play τ β → Prop
  | .failsEnter exc _ | .failsExit exc _ => plain exc = true
  | .completes _ _ _ => True

/-- A coroutine on the loop cannot unset a variable that was set when it was started. -/
def Program.Assigns (program : Program τ α) : Prop :=
  ∀ seen value after, program seen = .ok value after →
    ∀ name, (seen.2 name).isSome = true → (after.2 name).isSome = true

/-- The `koiled_cm` is not in use, the loop is unset if the Koil is, nothing is cancelled, also
not for a cancel event of another loop, and neither `unkoil` nor the Koil given to it is
refused here. -/
structure Ready (env : Env) (manager : UserManager τ α) (w : World τ) (cm : Nat) : Prop where
  unowned : w.own cm = none
  sound : Sound env w
  event : ∀ bound, env.event = some bound → bound < w.base.made
  undisturbed : manager.Prompt ∨ ∀ loop, w.runsOn env = some loop → env.foreign loop = false
  unpaired : w.ambient = .nothing → w.ambientLoop = .nothing
  accepts : w.ambient ≠ .nothing → ∃ loop, w.target env "" = .ok loop
  allows : w.ambient = .nothing → ∀ koil, w.given cm = some koil → ¬ w.RefusesSync env koil

/-- The `with` statement ends as the `async with` does, starts a Koil of its own if none is
ambient, exits that one alone, and leaves koil's variables and the wrapper as it found them. -/
structure Serves (env : Env) (manager : UserManager τ α) (cm : Nat)
    (body : Site → α → Program τ β) (w : World τ) : Prop where
  ends : result (viaCm env manager cm (body .thread) w) =
    ((manager.aloneAt w).play (body .thread) w.seen).native
  natively : manager.Anywhere body → ∀ site, (manager.aenter.run site).Assigns →
    result (viaCm env manager cm (body .thread) w) =
      result ((manager.alone site site).natively (body site) w.seen)
  ambient : (left (viaCm env manager cm (body .thread) w)).ambient = w.ambient
  ambientLoop : (left (viaCm env manager cm (body .thread) w)).ambientLoop = w.ambientLoop
  shares : w.ambient ≠ .nothing →
    (left (viaCm env manager cm (body .thread) w)).base.koils = w.base.koils ∧
      (left (viaCm env manager cm (body .thread) w)).base.made = w.base.made ∧
      (left (viaCm env manager cm (body .thread) w)).stopped = w.stopped
  starts : w.ambient = .nothing →
    ∀ value begun, cmEnter env manager.manager cm w = .ok value begun →
      begun.ambient = .koil ((w.given cm).getD w.koilsMade) ∧
        begun.ambientLoop = .loop w.base.made
  exits : w.ambient = .nothing →
    (left (viaCm env manager cm (body .thread) w)).base.made = w.base.made + 1 ∧
      (left (viaCm env manager cm (body .thread) w)).stopped = w.base.made :: w.stopped
  again : Ready env manager (left (viaCm env manager cm (body .thread) w)) cm

/-- One `with` statement after the other with the same wrapper, as long as its manager raises
exceptions like any other. -/
def Served (env : Env) (manager : UserManager τ α) (cm : Nat) :
    List (Site → α → Program τ β) → World τ → Prop
  | [], _ => True
  | body :: rest, w =>
      ((manager.aloneAt w).play (body .thread) w.seen).Plain →
        Serves env manager cm body w ∧
          Served env manager cm rest (left (viaCm env manager cm (body .thread) w))

section endings

theorem crossed_plain {exc : Exc} (usual : plain exc = true) :
    Race.crossed exc = awaitError exc := by
  simp only [plain, Bool.and_eq_true, Bool.not_eq_true'] at usual
  obtain ⟨⟨kept, notCancel⟩, survives⟩ := usual
  unfold awaitError
  cases stop : exc.isA .stopIteration with
  | true => exact Race.crossed_stopIteration exc survives stop
  | false =>
      rw [Race.crossed_raised exc survives stop notCancel,
        convertFutureExc_of_not_converted exc kept]
      rfl

theorem plain_survives {exc : Exc} (usual : plain exc = true) : exc.stopsLoop = false := by
  simp only [plain, Bool.and_eq_true, Bool.not_eq_true'] at usual
  exact usual.2

theorem Play.Plain.outcome {played : Play τ β} (usual : played.Plain) :
    played.outcome true = played.native := by
  cases played with
  | failsEnter exc seen => exact congrArg Except.error (crossed_plain usual)
  | failsExit exc seen => exact congrArg Except.error (crossed_plain usual)
  | completes ended truthy seen => cases ended <;> rfl

theorem enters_plain {seen : τ × Vars} (usual : (parts.play body seen).Plain) (exc : Exc)
    (raised : thrown (parts.aenter seen) = some exc) : plain exc = true := by
  unfold Parts.play at usual
  cases entered : parts.aenter seen with
  | ok value after =>
      rw [entered] at raised
      cases raised
  | error other after =>
      rw [entered] at raised usual
      exact Option.some.inj raised ▸ usual

theorem exits_plain {seen last : τ × Vars} {value : α}
    (usual : (parts.play body seen).Plain) (entered : parts.aenter seen = .ok value last)
    (exc : Exc)
    (raised : thrown (parts.aexit (thrown (body value (merge seen.2 last)))
      (left (body value (merge seen.2 last)))) = some exc) : plain exc = true := by
  simp only [Parts.play, entered] at usual
  cases exited : parts.aexit (thrown (body value (merge seen.2 last)))
      (left (body value (merge seen.2 last))) with
  | ok truthy final =>
      rw [exited] at raised
      cases raised
  | error other final =>
      rw [exited] at raised usual
      exact Option.some.inj raised ▸ usual

theorem merge_assigned {vars : Vars} {seen : τ × Vars}
    (stays : ∀ name, (vars name).isSome = true → (seen.2 name).isSome = true) :
    merge vars seen = seen := by
  refine Prod.ext rfl (funext fun name => ?_)
  show (seen.2 name).or (vars name) = seen.2 name
  cases held : seen.2 name with
  | some value => rfl
  | none =>
      cases before : vars name with
      | none => rfl
      | some value =>
          have kept := stays name (by rw [before]; rfl)
          rw [held] at kept
          cases kept

theorem result_natively (assigns : parts.aenter.Assigns) (body : α → Program τ β)
    (seen : τ × Vars) :
    result (parts.natively body seen) = (parts.play body seen).native := by
  unfold Parts.natively Parts.play withStatement Program.awaited
  cases entered : parts.aenter seen with
  | error exc after => rfl
  | ok value after =>
      simp only [merge_assigned (assigns seen value after entered)]
      cases ran : body value after with
      | ok value last =>
          simp only [leave, thrown, left]
          cases parts.aexit none last <;> rfl
      | error exc last =>
          simp only [leave, thrown, left]
          cases parts.aexit (some exc) last with
          | ok truthy final => cases truthy <;> rfl
          | error raised final => rfl

theorem Method.raced_alone (method : Method τ α) (site : Site) (loses : Bool)
    (undisturbed : loses = true → ∀ seen, method.awaits site seen = false) :
    method.raced ⟨site, loses⟩ = method.run site := by
  funext seen
  cases loses with
  | false => simp [Method.raced]
  | true => simp [Method.raced, undisturbed rfl seen]

theorem parts_alone (manager : UserManager τ α) (first second : Site) (loses : Bool)
    (undisturbed : loses = true → manager.Prompt) :
    manager.parts ⟨first, loses⟩ ⟨second, loses⟩ =
      ⟨manager.aenter.run first, fun exc => (manager.aexit exc).run second⟩ := by
  have enters := manager.aenter.raced_alone first loses fun lost => (undisturbed lost).aenter first
  have exits : ∀ exc, (manager.aexit exc).raced ⟨second, loses⟩ = (manager.aexit exc).run second :=
    fun exc => (manager.aexit exc).raced_alone second loses fun lost =>
      (undisturbed lost).aexit exc second
  simp only [UserManager.parts, enters, exits]

end endings

/-- Nothing but the user's own state and variables has changed. -/
structure Aside (w w' : World τ) : Prop where
  koils : w'.base.koils = w.base.koils
  closed : w'.base.closed = w.base.closed
  made : w'.base.made = w.base.made
  internal : ∀ var, var.internal = true → w'.base.ctx var = w.base.ctx var
  given : w'.given = w.given
  own : w'.own = w.own
  stopped : w'.stopped = w.stopped
  uncancelled : (∀ look, w.isSet look = false) → ∀ look, w'.isSet look = false

namespace Aside

theorem refl (w : World τ) : Aside w w :=
  ⟨rfl, rfl, rfl, fun _ _ => rfl, rfl, rfl, rfl, id⟩

theorem trans {w'' : World τ} (first : Aside w w') (next : Aside w' w'') : Aside w w'' where
  koils := next.koils.trans first.koils
  closed := next.closed.trans first.closed
  made := next.made.trans first.made
  internal var held := (next.internal var held).trans (first.internal var held)
  given := next.given.trans first.given
  own := next.own.trans first.own
  stopped := next.stopped.trans first.stopped
  uncancelled unset := next.uncancelled (first.uncancelled unset)

theorem getD (aside : Aside w w') {var : Var} (internal : var.internal = true) :
    w'.base.ctx.getD var = w.base.ctx.getD var := by
  rw [Context.getD, Context.getD, aside.internal var internal]

theorem ambient (aside : Aside w w') : w'.ambient = w.ambient := aside.getD rfl

theorem ambientLoop (aside : Aside w w') : w'.ambientLoop = w.ambientLoop := aside.getD rfl

theorem target (aside : Aside w w') (env : Env) (advice : String) :
    w'.target env advice = w.target env advice := by
  unfold World.target State.getKoiledLoopOrRaise
  rw [aside.koils, aside.closed]
  exact getKoiledLoopOrRaise_congr aside.internal ..

theorem setSeen (w : World τ) (seen : τ × Vars) : Aside w (w.setSeen seen) :=
  { refl w with internal := fun _ internal => withVars_internal _ _ internal }

/-- A coroutine on the loop, unless it stops the loop. -/
theorem unkoil {method : Method τ α} (env : Env) (advice : String) (call : Call) (w : World τ)
    (survives : ∀ loop, w.target env advice = .ok loop → ∀ exc,
      thrown (method.raced ⟨.task w.started.length, w.look.loses env loop⟩ w.seen) = some exc →
        exc.stopsLoop = false) :
    Aside w (left (Managers.unkoil env advice call method.onLoop w)) := by
  cases got : w.target env advice with
  | error exc =>
      rw [unkoil_refused got]
      exact refl w
  | ok loop =>
      rw [unkoil_accepted_eq got]
      cases cancelled : w.isSet 0 with
      | true =>
          rw [if_pos rfl]
          exact { refl w with uncancelled := fun unset look => unset (look + 1) }
      | false =>
          rw [if_neg Bool.false_ne_true]
          obtain ⟨cancelled, ended⟩ := raced_onLoop method (w.look.inside env loop)
          have alive := survives loop got
          cases ran : method.raced ⟨.task w.started.length, w.look.loses env loop⟩ w.seen with
          | ok value after =>
              have ran' : method.raced ⟨(w.look.inside env loop).site,
                  (w.look.inside env loop).loses⟩ ((w.look.inside env loop).user,
                    (w.look.inside env loop).ctx.vars) = .ok value after := ran
              rw [ran'] at ended
              simp only [runs, ended, left]
              refine { refl w with internal := fun var internal => ?_, uncancelled := ?_ }
              · exact (setItems_eq_iff _ _ var).mpr (.inr (withVars_internal _ _ internal))
              · exact fun unset look => unset (look + 2)
          | error exc after =>
              have ran' : method.raced ⟨(w.look.inside env loop).site,
                  (w.look.inside env loop).loses⟩ ((w.look.inside env loop).user,
                    (w.look.inside env loop).ctx.vars) = .error exc after := ran
              have survivor : exc.stopsLoop = false := alive exc (by rw [ran]; rfl)
              rw [ran'] at ended
              simp only [runs, ended, left, survivor, Bool.false_and, Bool.false_eq_true, if_false]
              exact { refl w with uncancelled := fun unset look => unset (look + 2) }

end Aside

theorem unkoil_plain (method : Method τ α) (accepted : w.target env "" = .ok loop)
    (uncancelled : ∀ look, w.isSet look = false)
    (usual : ∀ exc, thrown (method.raced ⟨.task w.started.length, env.foreign loop⟩ w.seen) =
      some exc → plain exc = true) (advice : String) (call : Call) :
    match method.raced ⟨.task w.started.length, env.foreign loop⟩ w.seen with
    | .ok value seen => ∃ after, unkoil env advice call method.onLoop w = .ok value after ∧
        Aside w after ∧ after.seen = merge w.seen.2 seen ∧ after.started = call :: w.started
    | .error exc _ => ∃ after, unkoil env advice call method.onLoop w =
        .error (awaitError exc) after ∧ Aside w after := by
  have aside := Aside.unkoil env advice call w fun other got exc raised => by
    obtain rfl : loop = other :=
      Except.ok.inj ((target_advice accepted advice).symm.trans got)
    rw [loses_uncancelled uncancelled] at raised
    exact plain_survives (usual exc raised)
  cases ran : method.raced ⟨.task w.started.length, env.foreign loop⟩ w.seen with
  | ok value seen =>
      obtain ⟨after, ended, _, same, started⟩ :=
        unkoil_onLoop_ok call (target_advice accepted advice) uncancelled ran
      rw [ended] at aside
      exact ⟨after, ended, aside, same, started⟩
  | error exc seen =>
      obtain ⟨after, ended, _⟩ :=
        unkoil_onLoop_error call (target_advice accepted advice) uncancelled ran
      rw [ended] at aside
      rw [crossed_plain (usual exc (by rw [ran]; rfl))] at ended
      exact ⟨after, ended, aside⟩

theorem cmExit_ends (manager : UserManager τ α) {begun : World τ} (exc : Option Exc)
    {exits : Program τ Bool}
    (method : (manager.aexit exc).raced ⟨.task begun.started.length, env.foreign loop⟩ = exits)
    (accepted : begun.target env "" = .ok loop) (uncancelled : ∀ look, begun.isSet look = false)
    (cleans : ∀ ended, Aside begun ended → ∃ after, exitOwn env cm ended = .ok () after)
    (usual : ∀ other, thrown (exits begun.seen) = some other → plain other = true) :
    ∃ ended after, Aside begun ended ∧ exitOwn env cm ended = .ok () after ∧
      cmExit env manager.manager cm exc begun =
        match exits begun.seen with
        | .ok truthy _ => .ok truthy after
        | .error raised _ => .error (awaitError raised) after := by
  subst method
  have method :=
    unkoil_plain (manager.aexit exc) accepted uncancelled usual manager.awaitExit (.aexit cm exc)
  cases exited : (manager.aexit exc).raced ⟨.task begun.started.length, env.foreign loop⟩
      begun.seen with
  | ok truthy seen =>
      rw [exited] at method
      obtain ⟨ended, returned, aside, _⟩ := method
      obtain ⟨after, cleaned⟩ := cleans ended aside
      exact ⟨ended, after, aside, cleaned, finally_ok returned cleaned⟩
  | error raised seen =>
      rw [exited] at method
      obtain ⟨ended, failed, aside⟩ := method
      obtain ⟨after, cleaned⟩ := cleans ended aside
      exact ⟨ended, after, aside, cleaned, finally_error failed cleaned⟩

/-- The `with` statement ends as its parts do, and then runs `exitOwn` once, where its parts
have changed nothing but the user's own. -/
theorem viaCm_ends {begun : World τ}
    (enter : cmEnter env manager.manager cm w =
      reraising (unkoil env manager.awaitEnter (.aenter cm) manager.aenter.onLoop)
        (exitOwn env cm) begun)
    (same : begun.seen = w.seen)
    (used : manager.parts ⟨.task begun.started.length, env.foreign loop⟩
      ⟨.task (begun.started.length + 1), env.foreign loop⟩ = parts)
    (accepted : begun.target env "" = .ok loop)
    (uncancelled : ∀ look, begun.isSet look = false)
    (cleans : ∀ ended, Aside begun ended → ∃ after, exitOwn env cm ended = .ok () after)
    (usual : (parts.play body w.seen).Plain) :
    result (viaCm env manager cm body w) = (parts.play body w.seen).native ∧
      ∃ ended, Aside begun ended ∧
        exitOwn env cm ended = .ok () (left (viaCm env manager cm body w)) := by
  rw [← same] at usual ⊢
  have enters : manager.aenter.raced ⟨.task begun.started.length, env.foreign loop⟩ =
      parts.aenter := congrArg Parts.aenter used
  have exitsAs : ∀ exc, (manager.aexit exc).raced
      ⟨.task (begun.started.length + 1), env.foreign loop⟩ = parts.aexit exc :=
    fun exc => congrFun (congrArg Parts.aexit used) exc
  have method := unkoil_plain manager.aenter accepted uncancelled
    (enters ▸ enters_plain usual) manager.awaitEnter (.aenter cm)
  rw [enters] at method
  cases entered : parts.aenter begun.seen with
  | error exc seen =>
      rw [entered] at method
      obtain ⟨ended, failed, aside⟩ := method
      obtain ⟨after, cleaned⟩ := cleans ended aside
      rw [viaCm, withStatement_refused (enter.trans (reraising_error failed cleaned)),
        Parts.play, entered]
      exact ⟨rfl, ended, aside, cleaned⟩
  | ok value seen =>
      rw [entered] at method
      obtain ⟨inside, returned, aside, same', started⟩ := method
      have exits_usual := exits_plain usual entered
      rw [viaCm, withStatement_entered (enter.trans (reraising_ok returned)), Parts.play, entered]
      simp only
      rw [← same'] at exits_usual ⊢
      have whole := aside.trans (Aside.setSeen inside (left (body value inside.seen)))
      have next : (inside.setSeen (left (body value inside.seen))).started.length =
          begun.started.length + 1 := congrArg List.length started
      obtain ⟨ended, after, later, cleaned, exits⟩ :=
        cmExit_ends manager (thrown (body value inside.seen)) (next ▸ exitsAs _)
          ((whole.target env "").trans accepted) (whole.uncancelled uncancelled)
          (fun ended later => cleans ended (whole.trans later)) exits_usual
      rw [setSeen_seen] at exits
      have last : left (leave (cmExit env manager.manager cm) ((body value).inThread inside)) =
          after := by
        rw [left_leave, left_inThread, thrown_inThread, exits]
        cases parts.aexit _ (left (body value inside.seen)) <;> rfl
      refine ⟨?_, ended, whole.trans later, by rw [last, cleaned]⟩
      cases ran : body value inside.seen with
      | ok value seen =>
          simp only [ran, thrown, left] at exits ⊢
          rw [inThread_ok ran, leave, exits]
          cases parts.aexit none seen <;> rfl
      | error raised seen =>
          simp only [ran, thrown, left] at exits ⊢
          rw [inThread_error ran, leave, exits]
          cases parts.aexit (some raised) seen with
          | ok truthy last => cases truthy <;> rfl
          | error other last => rfl

theorem exitOwn_outside (owned : w.own cm = some koil)
    (owns : (w.base.koils koil).loop = some loop) (isOpen : w.base.closed loop = false)
    (outside : env.running ≠ some loop) :
    ∃ after, exitOwn env cm w = .ok () after ∧ Stopped w after loop ∧ after.own cm = none ∧
      after.given = w.given ∧ ∀ other,
        (after.base.koils other).syncInAsync = (w.base.koils other).syncInAsync := by
  have elsewhere : ((w.base.koils koil).loopThread && env.running == some loop) = false := by
    simp [outside]
  obtain ⟨closed, exited, kept⟩ :=
    @exit_open w.base env.running koil loop ((w.base.koils koil).loop.any env.joins) owns isOpen
      elsewhere
  have left_ : exitKoil env koil w = .ok () { w with
      base := ({ w.base with closed := closed }.setKoil koil
        (.fresh (w.base.koils koil).syncInAsync)).setAmbient .nothing .nothing
      stopped := loop :: w.stopped } := by
    simp only [exitKoil]
    rw [exited]
    rfl
  refine ⟨_, (by rw [exitOwn, get_bind, owned]; exact bind_ok left_), ?_⟩
  refine ⟨⟨setAmbient_koil .., setAmbient_loop .., rfl, kept, rfl, rfl,
    congrArg (Prod.mk w.user) (setAmbient_vars ..)⟩, Function.update_self .., rfl, fun other => ?_⟩
  by_cases same : other = koil
  · subst same
    simp [KoilObject.fresh]
  · simp [setKoil_other _ _ same]

theorem Aside.runsOn (aside : Aside w w') (env : Env) : w'.runsOn env = w.runsOn env := by
  unfold World.runsOn
  rw [aside.ambient, aside.made, aside.target]

theorem Ready.aside (ready : Ready env manager w cm) (aside : Aside w w') :
    Ready env manager w' cm where
  unowned := (congrFun aside.own cm).trans ready.unowned
  sound :=
    { unmade := fun loop beyond => by
        rw [aside.made] at beyond
        rw [aside.closed]
        exact ready.sound.unmade loop beyond
      running := fun loop running => by
        rw [aside.made]
        exact ready.sound.running loop running
      uncancelled := aside.uncancelled ready.sound.uncancelled }
  event bound held := by
    rw [aside.made]
    exact ready.event bound held
  undisturbed := by
    rw [aside.runsOn]
    exact ready.undisturbed
  unpaired unset := by
    rw [aside.ambient] at unset
    rw [aside.ambientLoop]
    exact ready.unpaired unset
  accepts set := by
    rw [aside.ambient] at set
    rw [aside.target]
    exact ready.accepts set
  allows unset koil given := by
    rw [aside.ambient] at unset
    rw [aside.given] at given
    rw [World.RefusesSync, aside.koils]
    exact ready.allows unset koil given

theorem Ready.used (ready : Ready env manager w cm) (runs : w.runsOn env = some loop) :
    manager.parts ⟨.task w.started.length, env.foreign loop⟩
      ⟨.task (w.started.length + 1), env.foreign loop⟩ = manager.aloneAt w := by
  have nothing : false = true → manager.Prompt := fun absurd => by cases absurd
  rw [UserManager.aloneAt, UserManager.alone, parts_alone manager _ _ false nothing]
  refine parts_alone manager _ _ _ fun lost => ?_
  rcases ready.undisturbed with prompt | own
  · exact prompt
  · rw [own loop runs] at lost
    cases lost

theorem Ready.foreign_unmade (ready : Ready env manager w cm) (unmade : w.base.made ≤ loop) :
    env.foreign loop = env.event.isSome := by
  cases event : env.event with
  | none => simp [Env.foreign, event]
  | some bound =>
      have other : bound ≠ loop :=
        Nat.ne_of_lt (Nat.lt_of_lt_of_le (ready.event bound event) unmade)
      simp [Env.foreign, event, other]

theorem UserManager.Anywhere.native_of_ends {body : Site → α → Program τ β}
    (anywhere : manager.Anywhere body) (site : Site) (assigns : (manager.aenter.run site).Assigns)
    {ended : Except Exc (Option β)}
    (ends : ended = ((manager.aloneAt w).play (body .thread) w.seen).native) :
    ended = result ((manager.alone site site).natively (body site) w.seen) := by
  have nothing : false = true → manager.Prompt := fun absurd => by cases absurd
  have same : manager.aloneAt w = manager.alone site site := by
    unfold UserManager.aloneAt UserManager.alone
    rw [parts_alone manager _ _ false nothing, parts_alone manager _ _ false nothing,
      anywhere.aenter _ site]
    congr 1
    exact funext fun exc => anywhere.aexit exc _ site
  have assigns' : (manager.alone site site).aenter.Assigns := by
    rw [UserManager.alone, parts_alone manager _ _ false nothing]
    exact assigns
  rw [ends, same, anywhere.body .thread site, result_natively assigns']

theorem serves_shared {body : Site → α → Program τ β} (ready : Ready env manager w cm)
    (set : w.ambient ≠ .nothing)
    (usual : ((manager.aloneAt w).play (body .thread) w.seen).Plain) :
    Serves env manager cm body w := by
  obtain ⟨loop, accepted⟩ := ready.accepts set
  have clean : ∀ ended, Aside w ended → exitOwn env cm ended = .ok () ended := fun ended aside =>
    exitOwn_none ((congrFun aside.own cm).trans ready.unowned)
  obtain ⟨ends, ended, aside, cleaned⟩ :=
    viaCm_ends (cm_ambient env manager.manager cm set) rfl
      (ready.used (runsOn_shared set accepted)) accepted ready.sound.uncancelled
      (fun ended aside => ⟨ended, clean ended aside⟩) usual
  rw [clean ended aside] at cleaned
  obtain rfl : ended = left (viaCm env manager cm (body .thread) w) :=
    (EStateM.Result.ok.inj cleaned).2
  exact
    { ends
      natively := fun anywhere site assigns => anywhere.native_of_ends site assigns ends
      ambient := aside.ambient
      ambientLoop := aside.ambientLoop
      shares := fun _ => ⟨aside.koils, aside.made, aside.stopped⟩
      starts := fun unset => absurd unset set
      exits := fun unset => absurd unset set
      again := ready.aside aside }

theorem Ready.exited {begun ended after : World τ} (ready : Ready env manager w cm)
    (unset : w.ambient = .nothing) (begins : Begins env w begun koil)
    (chosen : koil = (w.given cm).getD w.koilsMade) (given : begun.given = w.given)
    (sync : w.given cm = some koil →
      (begun.base.koils koil).syncInAsync = (w.base.koils koil).syncInAsync)
    (aside : Aside begun ended) (stopped : Stopped ended after w.base.made)
    (dropped : after.own cm = none) (given' : after.given = ended.given)
    (sync' : ∀ other,
      (after.base.koils other).syncInAsync = (ended.base.koils other).syncInAsync) :
    Ready env manager after cm := by
  have made : after.base.made = w.base.made + 1 := by
    rw [stopped.made, aside.made, begins.made]
  exact
    { unowned := dropped
      sound :=
        { unmade := fun later beyond => by
            rw [made] at beyond
            rw [stopped.closed later (Nat.ne_of_gt beyond), aside.closed, begins.closed]
            exact ready.sound.unmade later (Nat.le_of_succ_le beyond)
          running := fun here running => by
            rw [made]
            exact Nat.lt_succ_of_lt (ready.sound.running here running)
          uncancelled := by
            rw [stopped.isSet]
            exact aside.uncancelled (begins.uncancelled ready.sound.uncancelled) }
      event := fun bound held => by
        rw [made]
        exact Nat.lt_succ_of_lt (ready.event bound held)
      undisturbed := ready.undisturbed.imp_right fun own later runs => by
        obtain rfl : after.base.made = later :=
          Option.some.inj ((runsOn_alone stopped.ambient).symm.trans runs)
        rw [ready.foreign_unmade (made ▸ Nat.le_succ _), ← ready.foreign_unmade (Nat.le_refl _)]
        exact own _ (runsOn_alone unset)
      unpaired := fun _ => stopped.ambientLoop
      accepts := fun set => absurd stopped.ambient set
      allows := fun _ other held => by
        rw [given', aside.given, given] at held
        obtain rfl : koil = other := by rw [chosen, held]; rfl
        rw [World.RefusesSync, sync', aside.koils, sync held]
        exact ready.allows unset koil held }

theorem serves_own {body : Site → α → Program τ β} (ready : Ready env manager w cm)
    (unset : w.ambient = .nothing)
    (usual : ((manager.aloneAt w).play (body .thread) w.seen).Plain) :
    Serves env manager cm body w := by
  obtain ⟨koil, begun, begins, seen, calls, owned, enter, chosen, given, sync⟩ :=
    cm_starts env manager unset (ready.allows unset)
  have clean : ∀ ended, Aside begun ended → ∃ after, exitOwn env cm ended = .ok () after ∧
      Stopped ended after w.base.made ∧ after.own cm = none ∧ after.given = ended.given ∧
        ∀ other, (after.base.koils other).syncInAsync = (ended.base.koils other).syncInAsync := by
    intro ended aside
    apply exitOwn_outside ((congrFun aside.own cm).trans owned)
    · rw [aside.koils]
      exact begins.owns
    · rw [aside.closed]
      exact begins.isOpen ready.sound
    · exact ready.sound.outside
  have used := ready.used (runsOn_alone unset)
  rw [← calls] at used
  obtain ⟨ends, ended, aside, cleaned⟩ :=
    viaCm_ends enter seen used (begins.target ready.sound "")
      (begins.uncancelled ready.sound.uncancelled)
      (fun ended aside => (clean ended aside).imp fun _ cleaned => cleaned.1) usual
  obtain ⟨after, same, stopped, dropped, given', sync'⟩ := clean ended aside
  rw [cleaned] at same
  obtain rfl : left (viaCm env manager cm (body .thread) w) = after :=
    (EStateM.Result.ok.inj same).2
  exact
    { ends
      natively := fun anywhere site assigns => anywhere.native_of_ends site assigns ends
      ambient := stopped.ambient.trans unset.symm
      ambientLoop := stopped.ambientLoop.trans (ready.unpaired unset).symm
      shares := fun set => absurd unset set
      starts := fun _ value inside entered => by
        rw [enter] at entered
        have enters : manager.aenter.raced ⟨.task begun.started.length,
            env.foreign w.base.made⟩ = (manager.aloneAt w).aenter := congrArg Parts.aenter used
        have began := Aside.unkoil env manager.awaitEnter (.aenter cm) begun
          fun loop got exc raised => by
            obtain rfl : w.base.made = loop :=
              Except.ok.inj ((begins.target ready.sound manager.awaitEnter).symm.trans got)
            rw [loses_uncancelled (begins.uncancelled ready.sound.uncancelled), enters] at raised
            exact plain_survives (enters_plain usual exc (seen ▸ raised))
        rw [reraising_eq_ok entered] at began
        rw [← chosen]
        exact ⟨began.ambient.trans begins.ambient, began.ambientLoop.trans begins.ambientLoop⟩
      exits := fun _ =>
        ⟨by rw [stopped.made, aside.made, begins.made],
          by rw [stopped.stopped, aside.stopped, begins.stopped]⟩
      again := ready.exited unset begins chosen given sync aside stopped dropped given' sync' }

/-- A `with` statement on a `koiled_cm` that is not in use and may run here ends as the
`async with` does, with a Koil of its own where none is ambient, and so does every later one. -/
theorem cm_serves (manager : UserManager τ α) (bodies : List (Site → α → Program τ β))
    (ready : Ready env manager w cm) : Served env manager cm bodies w := by
  induction bodies generalizing w with
  | nil => trivial
  | cons body rest ih =>
      intro usual
      have serves : Serves env manager cm body w := by
        by_cases unset : w.ambient = .nothing
        · exact serves_own ready unset usual
        · exact serves_shared ready unset usual
      exact ⟨serves, ih serves.again⟩

theorem fresh_ready {manager : UserManager Unit α} : Ready plainThread manager (World.fresh 0 ()) 0
    where
  unowned := rfl
  sound := fresh_sound
  event bound held := by cases held
  undisturbed := .inr fun _ _ => rfl
  unpaired _ := rfl
  accepts set := absurd rfl set
  allows _ _ given := nomatch given

theorem cm_serves_suppressing :
    Served plainThread (returning true) 0 [fun _ => failing, fun _ => failing]
      (World.fresh 0 ()) :=
  cm_serves (returning true) [fun _ => failing, fun _ => failing] fresh_ready

def insideLoop : World Unit := left (enterKoil plainThread 0 (.fresh 1 ()))

def loopThread : Env := ⟨some 0, fun _ => true, fun _ => false, none⟩

/-- A manager whose `__aenter__` raises an `Exception` that is an `asyncio.CancelledError`. -/
def cancelling : UserManager Unit Unit where
  aenter := .prompt (throw ⟨.user ⟨0, [], [.exception, .asyncioCancelledError], true⟩, "stop"⟩)
  aexit _ := .prompt (pure false)
  awaitEnter := ""
  awaitExit := ""

/-- The worker of a `run_threaded` that was awaited in a plain asyncio loop. -/
def workerThread : Env := ⟨none, fun _ => true, fun _ => false, some 0⟩

def asyncioWorker : World Unit :=
  let w := World.fresh 1 ()
  left (enterKoil workerThread 0
    { w with base := { w.base with made := 1, ctx := Context.empty.forWorker 0 0 } })

def sleeping : UserManager Unit Unit where
  aenter := ⟨fun _ => pure (), fun _ _ => true, fun _ => throw (.of .asyncioCancelledError "")⟩
  aexit _ := .prompt (pure false)
  awaitEnter := ""
  awaitExit := ""

/-- A manager that resets in `__aexit__` the token that its `__aenter__` got, which works in the
Context only where the token was created. -/
def resetting : UserManager (Option Site) Unit where
  aenter := ⟨fun site seen => .ok () (some site, seen.2), fun _ _ => false, fun _ => pure ()⟩
  aexit _ := ⟨fun site seen =>
      if seen.1 = some site then .ok false (none, seen.2)
      else .error (.of .valueError "<Token> was created in a different Context") seen,
    fun _ _ => false, fun _ => pure false⟩
  awaitEnter := ""
  awaitExit := ""

/-- On the koil loop itself `unkoil` is refused; an exception that is a cancellation turns into
the one of `concurrent.futures`; where the cancel event is one of another loop, a method that
suspends is cancelled; and `__aexit__` runs in another Context than `__aenter__`. -/
theorem cm_differs_from_native :
    (insideLoop.own 0 = none ∧ Sound loopThread insideLoop ∧ insideLoop.ambient ≠ .nothing ∧
      result (viaCm loopThread (returning false) 0 (fun _ => (pure () : Program Unit Unit))
        insideLoop) = .error (.of .koilError ("Calling unkoil() from within the koil loop " ++
          "itself, which would deadlock. ")) ∧
      result (((returning false).alone .thread .thread).natively
        (fun _ => (pure () : Program Unit Unit)) insideLoop.seen) = .ok (some ())) ∧
    (Ready plainThread cancelling (World.fresh 0 ()) 0 ∧
      result (viaCm plainThread cancelling 0 failing (.fresh 0 ())) =
        .error (.of .futuresCancelledError "") ∧
      result ((cancelling.alone .thread .thread).natively failing (World.fresh 0 ()).seen) =
        .error ⟨.user ⟨0, [], [.exception, .asyncioCancelledError], true⟩, "stop"⟩) ∧
    (asyncioWorker.own 0 = none ∧ Sound workerThread asyncioWorker ∧
      asyncioWorker.target workerThread "" = .ok 1 ∧
      result (viaCm workerThread sleeping 0 (fun _ => (pure () : Program Unit Unit))
        asyncioWorker) = .error (.of .futuresCancelledError "") ∧
      result ((sleeping.alone .thread .thread).natively
        (fun _ => (pure () : Program Unit Unit)) asyncioWorker.seen) = .ok (some ())) ∧
    result (viaCm plainThread resetting 0 (fun _ => (pure () : Program (Option Site) Unit))
        (.fresh 0 none)) =
      .error (.of .valueError "<Token> was created in a different Context") ∧
    result ((resetting.alone (.task 0) (.task 0)).natively
        (fun _ => (pure () : Program (Option Site) Unit)) (World.fresh 0 none).seen) =
      .ok (some ()) := by
  refine ⟨⟨rfl, ⟨fun _ _ => rfl, fun loop running => ?_, fun _ => rfl⟩, by decide, rfl,
    rfl⟩, ⟨fresh_ready, rfl, rfl⟩, ⟨rfl, ⟨fun _ _ => rfl, fun loop running => ?_, fun _ => rfl⟩,
    rfl, rfl, rfl⟩, rfl, rfl⟩
  · obtain rfl : 0 = loop := Option.some.inj running
    decide
  · cases running

end Koil.Managers
