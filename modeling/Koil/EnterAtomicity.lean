import Koil.ManagerAgreement

namespace Koil.Managers

open Contexts Koils WithStatement

variable {τ α : Type} {env : Env} {w : World τ} {koil loop : Nat}

/-- What `QtKoil.__enter__` finds: whether it has a parent, what `WrappedObject` raises with
it, whether the wrapped object has a parent, and whether there is a `QApplication`. -/
structure QtSetup where
  parent : Bool
  wrapping : Option Exc
  wrappedParent : Bool
  application : Bool

def assertionError (message : String) : Exc := ⟨.user ⟨0, [], [.exception], true⟩, message⟩

def notImplementedError (message : String) : Exc :=
  ⟨.user ⟨1, [], [.runtimeError], true⟩, message⟩

/-- What `QtKoil.__enter__` raises after it has entered the Koil. -/
def QtSetup.check (qt : QtSetup) : Option Exc :=
  if !qt.parent then some (assertionError "Parent must be set before entering the loop")
  else if qt.wrapping.isSome then qt.wrapping
  else if !qt.wrappedParent then
    some (assertionError "No parent found. Please provide a parent")
  else if !qt.application then some (notImplementedError "Qt Application not found")
  else none

def qtEnter (env : Env) (qt : QtSetup) (koil : Nat) : Sync τ Unit := do
  enterKoil env koil
  match qt.check with
  | none => pure ()
  | some exc => throw exc

inductive Entry (τ α : Type)
  | koil (koil : Nat)
  | qtKoil (koil : Nat) (qt : QtSetup)
  | koilable (manager : Manager τ α) (object : Nat)
  | koiledCm (manager : Manager τ α) (cm : Nat)

def Entry.enter (env : Env) : Entry τ α → Sync τ Unit
  | .koil koil => enterKoil env koil
  | .qtKoil koil qt => qtEnter env qt koil
  | .koilable manager object => do
      let _ ← koiledEnter env manager object
  | .koiledCm manager cm => do
      let _ ← cmEnter env manager cm

/-- Both of koil's variables are as before, and the loops made since are closed. -/
structure Undone (s after : Koils.State) : Prop where
  ambient : after.ctx.getD .globalKoil = s.ctx.getD .globalKoil
  ambientLoop : after.ctx.getD .globalKoilLoop = s.ctx.getD .globalKoilLoop
  ended : ∀ loop, s.made ≤ loop → loop < after.made → after.closed loop = true

def Atomic (w : World τ) : EStateM.Result Exc (World τ) α → Prop
  | .ok _ _ => True
  | .error _ after => Undone w.base after.base

/-- An `unkoil` returns: it finds a loop, it is not refused for the cancel event, and the
coroutine returns without having been cancelled. -/
def World.Returns (w : World τ) (env : Env) (advice : String) (coro : Coroutine τ α) : Prop :=
  ∃ loop, w.target env advice = .ok loop ∧ w.isSet 0 = false ∧
    thrown (raced coro (w.look.inside env loop)) = none

/-- The loops that are closed after an `unkoil`, with the one its exception has stopped. -/
def World.closedAfter (w : World τ) (env : Env) (advice : String) (coro : Coroutine τ α) :
    Nat → Bool :=
  match w.target env advice, w.isSet 0 with
  | .ok loop, false =>
      if (thrown (raced coro (w.look.inside env loop))).any (env.kills · loop) then
        Function.update w.base.closed loop true
      else w.base.closed
  | _, _ => w.base.closed

def World.insideOwn (w : World τ) (env : Env) (koil : Nat) : Inside τ :=
  { w.look.inside env w.base.made with
    ctx := (w.base.setAmbient (.koil koil) (.loop w.base.made)).ctx }

/-- Where a Koil has been started for it, `__aenter__` returns without having been cancelled; or
it does not, on a loop that survives this, or `unkoil` is refused, where no loop was ambient. -/
def World.StartsCleanly (w : World τ) (env : Env) (coro : Coroutine τ α) (koil : Nat) : Prop :=
  if w.isSet 0 then w.ambientLoop = .nothing
  else
    match thrown (raced coro (w.insideOwn env koil)) with
    | none => True
    | some exc => w.ambientLoop = .nothing ∧ env.kills exc w.base.made = false

/-- `exit` changes nothing: the Koil has no loop, or one that is closed, or is exited on it. -/
def World.ExitsInVain (w : World τ) (env : Env) (closed : Nat → Bool) (koil : Nat) : Prop :=
  ∀ loop, (w.base.koils koil).loop = some loop →
    closed loop = true ∨ (w.base.koils koil).loopThread = true ∧ env.running = some loop

def Entry.Undoes (env : Env) (w : World τ) : Entry τ α → Prop
  | .koil _ => True
  | .qtKoil koil qt =>
      w.ambient ≠ .nothing ∨ w.RefusesSync env koil ∨ qt.check = none
  | .koilable manager object =>
      w.ambient ≠ .nothing ∨
        (∃ koil, w.field object = some koil ∧ w.RefusesSync env koil) ∨
        w.StartsCleanly env manager.aenter ((w.field object).getD w.koilsMade)
  | .koiledCm manager cm =>
      if w.ambient = .nothing then
        (∃ koil, w.given cm = some koil ∧ w.RefusesSync env koil) ∨
          w.StartsCleanly env manager.aenter ((w.given cm).getD w.koilsMade)
      else
        w.Returns env manager.awaitEnter manager.aenter ∨
          ∀ koil, w.own cm = some koil →
            w.ExitsInVain env (w.closedAfter env manager.awaitEnter manager.aenter) koil

theorem Undone.refl (s : Koils.State) : Undone s s :=
  ⟨rfl, rfl, fun _ beyond below => absurd below (Nat.not_lt.mpr beyond)⟩

theorem Undone.of_same {s after : Koils.State} (ctx : after.ctx = s.ctx)
    (made : after.made = s.made) : Undone s after where
  ambient := by rw [ctx]
  ambientLoop := by rw [ctx]
  ended loop beyond below := by
    rw [made] at below
    exact absurd below (Nat.not_lt.mpr beyond)

theorem atomic_discard (first : Sync τ α) :
    Atomic w ((do let _ ← first : Sync τ Unit) w) ↔ Atomic w (first w) := by
  cases ran : first w with
  | ok value after =>
      have whole : (do let _ ← first : Sync τ Unit) w = .ok () after := bind_ok ran
      rw [whole]
      exact Iff.rfl
  | error exc after =>
      have whole : (do let _ ← first : Sync τ Unit) w = .error exc after := bind_error ran
      rw [whole]
      exact Iff.rfl

theorem atomic_error_iff {result : EStateM.Result Exc (World τ) α} {exc : Exc}
    (raised : thrown result = some exc) : Atomic w result ↔ Undone w.base (left result).base := by
  cases result with
  | ok value after => cases raised
  | error exc after => exact Iff.rfl

theorem thrown_reraising {body : Sync τ α} (cleanup : Sync τ Unit) {exc : Exc}
    {begun after : World τ} (raised : body begun = .error exc after) :
    ∃ exc, thrown (reraising body cleanup begun) = some exc := by
  simp only [reraising, raised]
  cases cleanup after with
  | ok value last => exact ⟨exc, rfl⟩
  | error other last => exact ⟨other, rfl⟩

theorem atomic_reraising_iff {body : Sync τ α} {cleanup : Sync τ Unit} {exc : Exc}
    {begun after : World τ} (raised : body begun = .error exc after) :
    Atomic w (reraising body cleanup begun) ↔ Undone w.base (left (cleanup after)).base := by
  obtain ⟨other, thrown⟩ := thrown_reraising cleanup raised
  rw [atomic_error_iff thrown, left_reraising_error raised]

structure Failed (w after : World τ) (closed : Nat → Bool) : Prop where
  koils : after.base.koils = w.base.koils
  made : after.base.made = w.base.made
  ctx : after.base.ctx = w.base.ctx
  closed : after.base.closed = closed
  own : after.own = w.own

section unkoil

variable {advice : String} {coro : Coroutine τ α} {call : Call}

theorem unkoil_ends (env : Env) (w : World τ) (advice : String) (coro : Coroutine τ α)
    (call : Call) :
    (w.Returns env advice coro ∧ ∃ value after, unkoil env advice call coro w = .ok value after) ∨
      ¬ w.Returns env advice coro ∧ ∃ exc after, unkoil env advice call coro w = .error exc after ∧
        Failed w after (w.closedAfter env advice coro) := by
  cases got : w.target env advice with
  | error exc =>
      refine .inr ⟨fun returns => ?_, exc, w, unkoil_refused got call, rfl, rfl, rfl, ?_, rfl⟩
      · obtain ⟨loop, accepted, _⟩ := returns
        rw [got] at accepted
        cases accepted
      · simp only [World.closedAfter, got]
  | ok loop =>
      rw [unkoil_accepted_eq got]
      cases cancelled : w.isSet 0 with
      | true =>
          refine .inr ⟨fun returns => ?_, _, _, if_pos rfl, rfl, rfl, rfl, ?_, rfl⟩
          · obtain ⟨_, _, unset, _⟩ := returns
            rw [cancelled] at unset
            cases unset
          · simp only [World.closedAfter, got, cancelled]
            rfl
      | false =>
          rw [if_neg Bool.false_ne_true]
          cases ran : raced coro (w.look.inside env loop) with
          | ok value after =>
              refine .inl ⟨⟨loop, got, cancelled, by rw [ran]; rfl⟩, value, ?_⟩
              simp only [runs, ran]
              exact ⟨_, rfl⟩
          | error exc after =>
              refine .inr ⟨fun returns => ?_, Race.crossed exc, ?_⟩
              · obtain ⟨other, accepted, _, returned⟩ := returns
                obtain rfl : loop = other := Except.ok.inj (got.symm.trans accepted)
                rw [ran] at returned
                cases returned
              · simp only [runs, ran]
                refine ⟨_, rfl, rfl, rfl, rfl, ?_, rfl⟩
                simp only [World.closedAfter, got, cancelled, ran, thrown]
                rfl

end unkoil

theorem left_exitKoil (env : Env) (koil : Nat) (w : World τ) :
    (left (exitKoil env koil w)).base =
      (w.base.exit env.running koil ((w.base.koils koil).loop.any env.joins)).state := by
  simp only [exitKoil]
  split <;> rfl

theorem left_exitOwn {cm : Nat} (owned : w.own cm = some koil) :
    (left (exitOwn env cm w)).base = (left (exitKoil env koil w)).base := by
  rw [exitOwn_some owned]
  cases exitKoil env koil w <;> rfl

section begun

variable {s after : Koils.State} {running : Option Nat}

/-- Exiting the Koil that a call has started undoes what that did, unless the loop is closed
already or the call has replaced an ambient loop. -/
theorem exit_undone_iff (unset : s.ctx.getD .globalKoil = .nothing)
    (owns : (after.koils koil).loop = some s.made)
    (thread : (after.koils koil).loopThread = true) (made : after.made = s.made + 1)
    (ambient : after.ctx.getD .globalKoil = .koil koil) (outside : running ≠ some s.made) :
    Undone s (after.exit running koil true).state ↔
      s.ctx.getD .globalKoilLoop = .nothing ∧ after.closed s.made = false := by
  cases closed : after.closed s.made with
  | true =>
      rw [exit_closed owns closed]
      refine iff_of_false (fun undone => ?_) (fun both => nomatch both.2)
      have same := undone.ambient
      rw [ambient, unset] at same
      cases same
  | false =>
      have elsewhere : (running == some s.made) = false := by simpa using outside
      have exited : (after.exit running koil true).state =
          ({ after with closed := Function.update after.closed s.made true }.setKoil koil
            (.fresh (after.koils koil).syncInAsync)).setAmbient .nothing .nothing := by
        simp [Koils.State.exit, owns, closed, thread, elsewhere]
      rw [exited, eq_self_iff_true, and_true]
      refine ⟨fun undone => ?_, fun loop => ⟨?_, ?_, fun other beyond below => ?_⟩⟩
      · rw [← undone.ambientLoop, setAmbient_loop]
      · rw [setAmbient_koil, unset]
      · rw [setAmbient_loop, loop]
      · rw [setAmbient_made, setKoil_made] at below
        have last : other < s.made + 1 := made ▸ below
        obtain rfl : other = s.made := by omega
        exact Function.update_self ..

/-- Exiting a Koil that a call has found takes the ambient Koil away, unless it is in vain. -/
theorem exit_found_undone_iff {joined : Bool} (set : s.ctx.getD .globalKoil ≠ .nothing)
    (ctx : after.ctx = s.ctx) (made : after.made = s.made) :
    Undone s (after.exit running koil joined).state ↔
      ∀ loop, (after.koils koil).loop = some loop →
        after.closed loop = true ∨ (after.koils koil).loopThread = true ∧ running = some loop := by
  cases owned : (after.koils koil).loop with
  | none =>
      rw [exit_shared owned]
      exact iff_of_true (.of_same ctx made) nofun
  | some loop =>
      simp only [Option.some.injEq, forall_eq']
      cases closed : after.closed loop with
      | true =>
          rw [exit_closed owned closed]
          exact iff_of_true (.of_same ctx made) (.inl rfl)
      | false =>
          cases inside : (after.koils koil).loopThread && running == some loop with
          | true =>
              rw [exit_inside owned closed inside]
              refine iff_of_true (.of_same ctx made) (.inr ?_)
              simpa using inside
          | false =>
              obtain ⟨closed', exited, _⟩ := exit_open owned closed inside
              rw [exited]
              refine iff_of_false (fun undone => set ?_) ?_
              · rw [← undone.ambient, setAmbient_koil]
              · simpa using inside

end begun

structure Opened (env : Env) (w begun : World τ) (koil : Nat) : Prop
    extends Begins env w begun koil where
  thread : (begun.base.koils koil).loopThread = true
  ctx : begun.base.ctx = (w.base.setAmbient (.koil koil) (.loop w.base.made)).ctx
  user : begun.user = w.user
  isSet : begun.isSet = w.isSet
  calls : begun.started = w.started

theorem Opened.inside {begun : World τ} (opened : Opened env w begun koil) :
    begun.look.inside env w.base.made = w.insideOwn env koil := by
  simp only [World.inside, World.insideOwn, World.loses, World.look, opened.ctx, opened.user,
    opened.isSet, opened.calls]

theorem Prepared.opens {mid : World τ} (prepared : Prepared w mid) (unset : w.ambient = .nothing)
    (allowed : ¬ mid.RefusesSync env koil) :
    ∃ begun, enterKoil env koil mid = .ok () begun ∧ begun.own = mid.own ∧
      Opened env w begun koil := by
  obtain ⟨begun, entered, started, begins⟩ := prepared.starts unset allowed
  have raw : mid.base.enter env.running koil = .ok begun.base := by
    unfold enterKoil at entered
    split at entered
    · next base taken =>
        rw [taken, ← (EStateM.Result.ok.inj entered).2]
    · cases entered
  have unset' : mid.base.ctx.getD .globalKoil = .nothing := by
    rw [prepared.ctx]
    exact unset
  obtain ⟨_, base⟩ | ⟨set, _⟩ := Koils.enter_cases raw
  · refine ⟨begun, entered, started.own, begins, ?_, ?_, ?_, ?_, ?_⟩
    · simp [base]
    · rw [base, Koils.State.setAmbient, Koils.State.setAmbient, setKoil_ctx, prepared.ctx,
        prepared.made]
    · exact (congrArg Prod.fst started.seen).trans prepared.user
    · exact started.isSet.trans prepared.isSet
    · exact started.calls.trans prepared.calls
  · exact absurd unset' set

/-- The next loop is open, and is not the one that runs in the thread. -/
structure Numbered (env : Env) (w : World τ) : Prop where
  isOpen : w.base.closed w.base.made = false
  outside : env.running ≠ some w.base.made

section entries

variable {advice : String} {coro : Coroutine τ α} {call : Call}

theorem Opened.atomic_iff {begun : World τ} (opened : Opened env w begun koil)
    (unset : w.ambient = .nothing) (numbered : Numbered env w)
    (joins : ∀ loop, env.joins loop = true) {cleanup : Sync τ Unit}
    (cleans : ∀ after, after.own = begun.own →
      (left (cleanup after)).base = (left (exitKoil env koil after)).base) :
    Atomic w (reraising (unkoil env advice call coro) cleanup begun) ↔
      w.StartsCleanly env coro koil := by
  have isOpen : begun.base.closed w.base.made = false := by
    rw [opened.closed]
    exact numbered.isOpen
  have accepted := opened.target_of_open isOpen numbered.outside advice
  unfold World.StartsCleanly
  rw [← opened.inside, ← opened.isSet]
  rcases unkoil_ends env begun advice coro call with
    ⟨⟨other, got, unset, returned⟩, value, after, ended⟩ | ⟨raises, exc, after, ended, failed⟩
  · obtain rfl : w.base.made = other := Except.ok.inj (accepted.symm.trans got)
    rw [reraising_ok ended, unset, returned]
    exact iff_of_true trivial trivial
  · have owns : (after.base.koils koil).loop = some w.base.made := by
      rw [failed.koils, opened.owns]
    have thread : (after.base.koils koil).loopThread = true := by
      rw [failed.koils, opened.thread]
    have made := failed.made.trans opened.made
    have ambient : after.base.ctx.getD .globalKoil = .koil koil := by
      rw [failed.ctx]
      exact opened.ambient
    have joined : ((after.base.koils koil).loop.any env.joins) = true := by
      rw [owns]
      exact joins w.base.made
    rw [atomic_reraising_iff ended, cleans after failed.own, left_exitKoil, joined,
      exit_undone_iff unset owns thread made ambient numbered.outside, failed.closed]
    unfold World.closedAfter
    rw [accepted]
    cases cancelled : begun.isSet 0 with
    | true => simp [isOpen, World.ambientLoop]
    | false =>
        cases thrown_ : thrown (raced coro (begun.look.inside env w.base.made)) with
        | none => exact absurd ⟨_, accepted, cancelled, thrown_⟩ raises
        | some exc =>
            cases killed : env.kills exc w.base.made <;>
              simp [thrown_, killed, isOpen, World.ambientLoop]

theorem shared_atomic_iff {cm : Nat} (set : w.ambient ≠ .nothing) :
    Atomic w (reraising (unkoil env advice call coro) (exitOwn env cm) w) ↔
      w.Returns env advice coro ∨
        ∀ koil, w.own cm = some koil → w.ExitsInVain env (w.closedAfter env advice coro) koil := by
  rcases unkoil_ends env w advice coro call with
    ⟨returns, value, after, ended⟩ | ⟨raises, exc, after, ended, failed⟩
  · rw [reraising_ok ended]
    exact iff_of_true trivial (.inl returns)
  · rw [atomic_reraising_iff ended, or_iff_right raises, ← failed.own]
    cases owned : after.own cm with
    | none =>
        rw [exitOwn_none owned]
        exact iff_of_true (.of_same failed.ctx failed.made) nofun
    | some koil =>
        simp only [Option.some.injEq, forall_eq']
        rw [left_exitOwn owned, left_exitKoil, exit_found_undone_iff set failed.ctx failed.made,
          World.ExitsInVain, failed.koils, failed.closed]

theorem atomic_enterKoil (env : Env) (koil : Nat) (w : World τ) :
    Atomic w (enterKoil env koil w) := by
  cases entered : enterKoil env koil w with
  | ok value begun => trivial
  | error exc begun =>
      obtain ⟨_, rfl⟩ := enterKoil_error entered
      exact Undone.refl _

theorem atomic_refused {next : Sync τ α} {mid : World τ} (ctx : mid.base.ctx = w.base.ctx)
    (made : mid.base.made = w.base.made) (refuses : mid.RefusesSync env koil) :
    Atomic w ((do enterKoil env koil; next : Sync τ α) mid) := by
  have raised : (do enterKoil env koil; next : Sync τ α) mid = .error noSyncInAsync mid :=
    bind_error (enterKoil_refuses refuses)
  rw [raised]
  exact Undone.of_same ctx made

theorem atomic_qtEnter_iff (qt : QtSetup) (koil : Nat) :
    Atomic w (qtEnter env qt koil w) ↔
      w.ambient ≠ .nothing ∨ w.RefusesSync env koil ∨ qt.check = none := by
  by_cases refuses : w.RefusesSync env koil
  · exact iff_of_true (atomic_refused rfl rfl refuses) (.inr (.inl refuses))
  cases entered : enterKoil env koil w with
  | error exc begun => exact absurd (enterKoil_error entered).1 refuses
  | ok value begun =>
      rw [qtEnter, bind_ok entered]
      cases check : qt.check with
      | none => exact iff_of_true trivial (.inr (.inr rfl))
      | some exc =>
          rw [or_iff_left (by simp [refuses])]
          refine ⟨fun undone unset => ?_, fun set => ?_⟩
          · obtain ⟨begun', same, started⟩ := enterKoil_starts unset refuses
            rw [entered] at same
            have begun_eq : begun = begun' := (EStateM.Result.ok.inj same).2
            have restored : begun'.ambient = w.ambient := begun_eq ▸ undone.ambient
            rw [started.ambient, unset] at restored
            cases restored
          · have quiet := quiet_enterKoil env set koil
            rw [entered] at quiet
            refine ⟨quiet.ambient, quiet.ambientLoop, fun loop beyond below => ?_⟩
            exact absurd (quiet.made ▸ below) (Nat.not_lt.mpr beyond)

end entries

theorem koilable_atomic_iff (manager : Manager τ α) {object : Nat} (unset : w.ambient = .nothing)
    (numbered : Numbered env w) (joins : ∀ loop, env.joins loop = true) :
    Atomic w (koiledEnter env manager object w) ↔
      (∃ koil, w.field object = some koil ∧ w.RefusesSync env koil) ∨
        w.StartsCleanly env manager.aenter ((w.field object).getD w.koilsMade) := by
  obtain ⟨koil, mid, found, prepared, _⟩ := fieldKoil_spec env w object
  obtain ⟨chosen, refused⟩ := fieldKoil_found env found
  rw [koilable_alone env manager unset found, ← refused, ← chosen]
  by_cases refuses : mid.RefusesSync env koil
  · exact iff_of_true (atomic_refused prepared.ctx prepared.made refuses) (.inl refuses)
  obtain ⟨begun, entered, _, opened⟩ := prepared.opens unset refuses
  rw [bind_ok entered, or_iff_right refuses]
  exact opened.atomic_iff unset numbered joins fun _ _ => rfl

theorem cm_atomic_iff (manager : Manager τ α) {cm : Nat} (unset : w.ambient = .nothing)
    (numbered : Numbered env w) (joins : ∀ loop, env.joins loop = true) :
    Atomic w (cmEnter env manager cm w) ↔
      (∃ koil, w.given cm = some koil ∧ w.RefusesSync env koil) ∨
        w.StartsCleanly env manager.aenter ((w.given cm).getD w.koilsMade) := by
  obtain ⟨koil, mid, found, prepared, owned, _⟩ := ownKoil_spec env w cm
  obtain ⟨chosen, refused⟩ := ownKoil_found env found
  rw [cm_alone env manager unset found, ← refused, ← chosen]
  by_cases refuses : mid.RefusesSync env koil
  · exact iff_of_true (atomic_refused prepared.ctx prepared.made refuses) (.inl refuses)
  obtain ⟨begun, entered, own, opened⟩ := prepared.opens unset refuses
  rw [bind_ok entered, or_iff_right refuses]
  refine opened.atomic_iff unset numbered joins fun after kept => left_exitOwn ?_
  rw [kept, own, owned]

/-- Entering is atomic exactly where `QtKoil` finds what it needs or has started nothing,
and where the Koils of the wrappers are exited after a failed `__aenter__` if they were
started for it. -/
theorem enter_atomic_iff (entry : Entry τ α) (numbered : Numbered env w)
    (joins : ∀ loop, env.joins loop = true) :
    Atomic w (entry.enter env w) ↔ entry.Undoes env w := by
  cases entry with
  | koil koil => exact iff_of_true (atomic_enterKoil env koil w) trivial
  | qtKoil koil qt => exact atomic_qtEnter_iff qt koil
  | koilable manager object =>
      rw [Entry.enter, atomic_discard, Entry.Undoes]
      by_cases unset : w.ambient = .nothing
      · rw [or_iff_right (not_not.mpr unset)]
        exact koilable_atomic_iff manager unset numbered joins
      · rw [koilable_ambient env manager object unset]
        refine iff_of_true ?_ (.inl unset)
        rcases unkoil_ends env w manager.awaitEnter manager.aenter (.aenter object) with
          ⟨_, value, after, ended⟩ | ⟨_, exc, after, ended, failed⟩
        · rw [ended]
          trivial
        · rw [ended]
          exact Undone.of_same failed.ctx failed.made
  | koiledCm manager cm =>
      rw [Entry.enter, atomic_discard, Entry.Undoes]
      by_cases unset : w.ambient = .nothing
      · rw [if_pos unset]
        exact cm_atomic_iff manager unset numbered joins
      · rw [if_neg unset, cm_ambient env manager cm unset]
        exact shared_atomic_iff unset

def unopened : Manager Unit Unit where
  aenter := throw (.of .valueError "boom")
  aexit _ := pure false
  awaitEnter := ""
  awaitExit := ""

theorem fresh_numbered : Numbered plainThread (World.fresh 0 ()) := ⟨rfl, nofun⟩

theorem enter_atomic_iff_unopened :
    Atomic (World.fresh 0 ()) ((Entry.koilable unopened 0).enter plainThread (.fresh 0 ())) :=
  (enter_atomic_iff (Entry.koilable unopened 0) fresh_numbered fun _ => rfl).mpr
    (.inr (.inr ⟨rfl, rfl⟩))

/-- A `QtKoil` without a parent raises where its loop runs and it is the ambient Koil. -/
theorem qt_enter_leaves_koil_entered :
    thrown ((Entry.qtKoil 0 ⟨false, none, false, true⟩ : Entry Unit Unit).enter plainThread
        (.fresh 0 ())) = some (assertionError "Parent must be set before entering the loop") ∧
      (left ((Entry.qtKoil 0 ⟨false, none, false, true⟩ : Entry Unit Unit).enter plainThread
        (.fresh 0 ()))).ambient = .koil 0 ∧
      ¬ Atomic (World.fresh 0 ()) ((Entry.qtKoil 0 ⟨false, none, false, true⟩ :
        Entry Unit Unit).enter plainThread (.fresh 0 ())) :=
  ⟨rfl, rfl, fun undone => absurd (show Val.koil 0 = .nothing from undone.ambient) nofun⟩

end Koil.Managers
