import Koil.BlockEntries
import Koil.Composition

namespace Koil.Composition

open Contexts Managers WithStatement

theorem left_ends (raised : Option Exc) (inside : Inside Log) :
    left (ends raised inside) = inside := by
  cases raised <;> rfl

def Fields.enteredLog (fields : Fields) (loses : Bool) : Log :=
  ⟨returned (outcomes loses (fields.enterCalls 0)), []⟩

theorem aenter_ends (fields : Fields) (awaitEnter awaitExit : String) {inside : Inside Log}
    (unused : inside.user = .empty) (uncut : inside.cancelled = false) :
    (fields.asManager awaitEnter awaitExit).aenter inside =
      ends ((outcomes inside.loses (fields.enterCalls 0)).findSome? Prod.snd) { inside with
        user := fields.enteredLog inside.loses
        cancelled := cut inside.loses (fields.enterCalls 0) } := by
  have ended := (congrFun (aenter_eq fields 0) inside).trans (enterAll_ends _ inside)
  simpa [armed, uncut, unused, Log.empty, Fields.asManager, Fields.enteredLog] using ended

theorem aenter_ok {fields : Fields} (awaitEnter awaitExit : String) {inside : Inside Log}
    (unused : inside.user = .empty) (uncut : inside.cancelled = false)
    (enters : fields.Enters inside.loses) :
    raced (fields.asManager awaitEnter awaitExit).aenter inside =
      .ok () { inside with user := fields.enteredLog inside.loses, cancelled := false } := by
  obtain ⟨returns, uncut'⟩ := (fields.enters_iff _).mp enters
  have ended := aenter_ends fields awaitEnter awaitExit unused uncut
  rw [returns, uncut'] at ended
  simp [raced, ended, ends]

theorem aenter_error {fields : Fields} (awaitEnter awaitExit : String) {inside : Inside Log}
    (unused : inside.user = .empty) (uncut : inside.cancelled = false)
    (fails : ¬ fields.Enters inside.loses) :
    ∃ exc after, raced (fields.asManager awaitEnter awaitExit).aenter inside = .error exc after ∧
      after.user = fields.enteredLog inside.loses := by
  have ended := aenter_ends fields awaitEnter awaitExit unused uncut
  cases raises : (outcomes inside.loses (fields.enterCalls 0)).findSome? Prod.snd with
  | some exc =>
      rw [raises] at ended
      simp only [raced, ended, ends]
      split <;> exact ⟨_, _, rfl, rfl⟩
  | none =>
      have hit : cut inside.loses (fields.enterCalls 0) = true := by
        by_contra missed
        exact fails ((fields.enters_iff _).mpr ⟨raises, Bool.eq_false_iff.mpr missed⟩)
      have loses : inside.loses = true := by
        by_contra wins
        rw [Bool.eq_false_iff.mpr wins, cut_false] at hit
        cases hit
      rw [raises, hit] at ended
      simp only [raced, ended, ends, loses, Bool.and_true, if_true]
      exact ⟨_, _, rfl, rfl⟩

theorem left_raced {τ α : Type} (coro : Coroutine τ α) (inside : Inside τ) :
    left (raced coro inside) = left (coro inside) := by
  unfold raced
  cases coro inside <;> simp only <;> split <;> rfl

theorem aexit_user (fields : Fields) (awaitEnter awaitExit : String) (exc : Option Exc)
    (inside : Inside Log) :
    (left ((fields.asManager awaitEnter awaitExit).aexit exc inside)).user =
      ⟨inside.user.entered,
        inside.user.exited ++ called (outcomes (armed inside) (fields.exitCalls exc 0))⟩ := by
  simp only [Fields.asManager, left_bind_pure]
  rw [aexit_eq, exitAll_ends, left_ends]

theorem enteredLog_paired_iff {fields : Fields} {loses : Bool} :
    (fields.enteredLog loses).Paired ↔ fields.EntersNone loses :=
  (paired_unexited_iff _).trans (fields.entersNone_iff loses).symm

theorem exits_of_entersNone {fields : Fields} {loses : Bool} (none_ : fields.EntersNone loses)
    (enters : fields.Enters loses) (later : Bool) (exc : Option Exc) :
    fields.Exits later exc := by
  refine (paired_exited_iff enters later exc).mp ?_
  have noEntry : fields.enterCalls 0 = [] := by
    have nothing := (fields.entersNone_iff loses).mp none_
    rw [returned_eq ((enters_all_iff loses _).mp enters).1, outcomes_names] at nothing
    exact List.map_eq_nil_iff.mp nothing
  have names := enterCalls_names fields 0
  rw [noEntry] at names
  have noChild : List.range' 0 fields.children = [] := List.nil_perm.mp names
  have noExit : fields.exitCalls exc 0 = [] :=
    List.map_eq_nil_iff.mp ((exitCalls_names exc fields 0).trans noChild)
  rw [noEntry, noExit]
  exact ⟨nofun, nofun⟩

/-- `async with` pairs the calls exactly when no child's `__aenter__` returns, or when all
return and all children but the last also return from `__aexit__`. -/
theorem asyncWith_paired_iff {β : Type} (fields : Fields) (awaitEnter awaitExit : String)
    (body : EStateM Exc Context β) (ctx : Context) (site : Site) :
    (left (fields.asyncWith awaitEnter awaitExit body
        ⟨.empty, ctx, site, false, false⟩)).user.Paired ↔
      fields.EntersNone false ∨
        fields.Enters false ∧ fields.Exits false (thrown (body ctx)) := by
  let inside : Inside Log := ⟨.empty, ctx, site, false, false⟩
  let begun : Inside Log := ⟨fields.enteredLog false, ctx, site, false, false⟩
  have ended : (fields.asManager awaitEnter awaitExit).aenter inside =
      ends ((outcomes false (fields.enterCalls 0)).findSome? Prod.snd) begun := by
    have ended := aenter_ends fields awaitEnter awaitExit (rfl : inside.user = .empty) rfl
    rwa [cut_false] at ended
  show (left (fields.asyncWith awaitEnter awaitExit body inside)).user.Paired ↔ _
  rw [Fields.asyncWith]
  by_cases enters : fields.Enters false
  · rw [((fields.enters_iff false).mp enters).1] at ended
    have entered : (fields.asManager awaitEnter awaitExit).aenter inside = .ok () begun := ended
    have bodyLeft : left (bodyOnLoop body begun) = { begun with ctx := left (body ctx) } := by
      cases ran : body ctx <;> simp [bodyOnLoop, begun, ran, left]
    have bodyThrown : thrown (bodyOnLoop body begun) = thrown (body ctx) := by
      cases ran : body ctx <;> simp [bodyOnLoop, begun, ran, thrown]
    rw [withStatement_entered entered, left_leave, aexit_user, bodyLeft, bodyThrown]
    refine (paired_exited_iff enters false (thrown (body ctx))).trans ?_
    exact ⟨fun exits => .inr ⟨enters, exits⟩, fun held =>
      held.elim (fun none_ => exits_of_entersNone none_ enters _ _) And.right⟩
  · obtain ⟨exc, raises⟩ : ∃ exc,
        (outcomes false (fields.enterCalls 0)).findSome? Prod.snd = some exc := by
      refine Option.ne_none_iff_exists'.mp fun none_ => enters ?_
      exact (fields.enters_iff false).mpr ⟨none_, cut_false _⟩
    rw [raises] at ended
    rw [withStatement_refused ended]
    refine enteredLog_paired_iff.trans ?_
    exact ⟨.inl, fun held => held.elim id fun both => absurd both.1 enters⟩

section inThread

variable {τ τ' α : Type} {env : Env} {w : World τ}

/-- Whether a coroutine that starts here, and does not end at once, loses its race. -/
def lost (env : Env) (w : World τ) : Bool :=
  match w.target env "" with
  | .ok loop => w.look.loses env loop
  | .error _ => false

def starting (env : Env) (w : World τ) : Inside τ :=
  ⟨w.user, w.base.ctx, .task w.started.length, lost env w, false⟩

theorem inside_eq_starting {loop : Nat} (got : w.target env "" = .ok loop) :
    w.look.inside env loop = starting env w := by
  simp only [starting, lost, got]
  rfl

theorem unkoil_user (env : Env) (advice : String) (call : Call) (coro : Coroutine τ α)
    (w : World τ) :
    (w.Accepts env ∧ (left (unkoil env advice call coro w)).user =
        (left (coro (starting env w))).user) ∨
      (¬ w.Accepts env ∧ (left (unkoil env advice call coro w)).user = w.user ∧
        ∃ exc after, unkoil env advice call coro w = .error exc after) := by
  rcases unkoil_split env advice call coro w with
    ⟨accepts, loop, got, ran⟩ | ⟨refused, exc, after, raised, same⟩
  · refine .inl ⟨accepts, ?_⟩
    rw [← left_raced, ran, runs, inside_eq_starting got]
    cases raced coro (starting env w) <;> rfl
  · refine .inr ⟨refused, ?_, exc, after, raised⟩
    rw [raised]
    rcases same with rfl | rfl <;> rfl

theorem exitKoil_user (env : Env) (koil : Nat) (w : World τ) :
    (left (exitKoil env koil w)).user = w.user := by
  simp only [exitKoil]
  split <;> rfl

theorem koiledExit_user (env : Env) (manager : Manager τ α) (object : Nat)
    (exc : Option Exc) (w : World τ) :
    (w.Accepts env ∧ (left (koiledExit env manager object exc w)).user =
        (left (manager.aexit exc (starting env w))).user) ∨
      (¬ w.Accepts env ∧ (left (koiledExit env manager object exc w)).user = w.user) := by
  have same : (left (koiledExit env manager object exc w)).user =
      (left (unkoil env manager.awaitExit (.aexit object exc) (manager.aexit exc) w)).user := by
    cases ran : unkoil env manager.awaitExit (.aexit object exc) (manager.aexit exc) w with
    | ok _ mid =>
        rw [koiledExit, bind_ok ran, get_bind, left_bind_pure]
        cases mid.field object with
        | none => rfl
        | some koil => exact exitKoil_user env koil mid
    | error _ mid => rw [koiledExit, bind_error ran]
  rw [same]
  rcases unkoil_user env manager.awaitExit (.aexit object exc) (manager.aexit exc) w with
    accepted | ⟨refused, kept, _⟩
  · exact .inl accepted
  · exact .inr ⟨refused, kept⟩

/-- `koiled_enter` up to its `unkoil`: without an ambient Koil the object's own one is
entered first. -/
def readied (env : Env) (object : Nat) : Sync τ Unit := do
  let w ← get
  if w.ambient ≠ .nothing then
    pure ()
  else
    let koil ← fieldKoil object
    enterKoil env koil

theorem koiledEnter_readied (manager : Manager τ α) {object : Nat} {mid : World τ}
    (ready : readied env object w = .ok () mid) :
    (left (koiledEnter env manager object w)).user =
        (left (unkoil env manager.awaitEnter (.aenter object) manager.aenter mid)).user ∧
      (∀ value begun, unkoil env manager.awaitEnter (.aenter object) manager.aenter mid =
          .ok value begun → koiledEnter env manager object w = .ok value begun) ∧
      ∀ exc after, unkoil env manager.awaitEnter (.aenter object) manager.aenter mid =
          .error exc after → ∃ exc' after', koiledEnter env manager object w =
            .error exc' after' := by
  rw [readied, get_bind] at ready
  split at ready
  · next set =>
      cases ready
      rw [koilable_ambient env manager object set]
      exact ⟨rfl, fun _ _ ran => ran, fun exc after raised => ⟨exc, after, raised⟩⟩
  · next unset =>
      cases found : fieldKoil object w with
      | error exc after =>
          rw [bind_error found] at ready
          cases ready
      | ok koil prepared =>
          rw [bind_ok found] at ready
          rw [koilable_alone env manager (not_not.mp unset) found, bind_ok ready]
          cases ran : unkoil env manager.awaitEnter (.aenter object) manager.aenter mid with
          | ok value begun =>
              rw [reraising_ok ran]
              exact ⟨rfl, fun _ _ same => same, nofun⟩
          | error exc after =>
              rw [left_reraising_error ran]
              refine ⟨exitKoil_user env koil after, nofun, fun _ _ _ => ?_⟩
              simp only [reraising, ran]
              cases exitKoil env koil after <;> exact ⟨_, _, rfl⟩

theorem koiledEnter_unready {manager : Manager τ α} {object : Nat} {exc : Exc}
    {after : World τ} (refused : readied env object w = .error exc after) :
    koiledEnter env manager object w = .error exc after := by
  rw [readied, get_bind] at refused
  split at refused
  · cases refused
  · next unset =>
      cases found : fieldKoil object w with
      | error exc' after' =>
          simp only [fieldKoil] at found
          split at found <;> cases found
      | ok koil prepared =>
          rw [bind_ok found] at refused
          rw [koilable_alone env manager (not_not.mp unset) found, bind_error refused]

def logged (log : Log) : EStateM.Result Exc (World Unit) α → EStateM.Result Exc (World Log) α
  | .ok value w => .ok value (withUser w log)
  | .error exc w => .error exc (withUser w log)

theorem fieldKoil_logged (object : Nat) (log : Log) (w : World Unit) :
    fieldKoil object (withUser w log) = logged log (fieldKoil object w) := by
  simp only [fieldKoil]
  cases held : w.field object with
  | none => simp only [withUser, held]; rfl
  | some koil => simp only [withUser, held]; rfl

theorem enterKoil_logged (koil : Nat) (log : Log) (w : World Unit) :
    enterKoil env koil (withUser w log) = logged log (enterKoil env koil w) := by
  simp only [enterKoil]
  cases entered : w.base.enter env.running koil with
  | ok base => simp only [withUser, entered]; rfl
  | error exc => simp only [withUser, entered]; rfl

theorem readied_logged (env : Env) (object : Nat) (log : Log) (w : World Unit) :
    readied env object (withUser w log) = logged log (readied env object w) := by
  have same : (withUser w log).ambient = w.ambient := rfl
  rw [readied, readied, get_bind, get_bind, same]
  split
  · rfl
  · have found := fieldKoil_logged object log w
    cases held : fieldKoil object w with
    | ok koil prepared =>
        rw [held] at found
        rw [bind_ok found, bind_ok held]
        exact enterKoil_logged koil log prepared
    | error exc after =>
        rw [held] at found
        rw [bind_error found, bind_error held]
        rfl

def begins (object : Nat) (mid : World Unit) : World Unit :=
  { mid.look.look with started := .aenter object :: mid.started }

end inThread

section block

variable {β : Type} {fields : Fields} {awaitEnter awaitExit : String} {env : Env} {object : Nat}
  {mid w : World Unit}

theorem bodyInThread_left (body : Sync Unit β) (log : Log) (w : World Unit) :
    left (bodyInThread body (withUser w log)) = withUser (left (body w)) log := by
  have same : withUser (withUser w log) () = w := rfl
  rw [bodyInThread, same]
  cases body w <;> rfl

theorem bodyInThread_thrown (body : Sync Unit β) (log : Log) (w : World Unit) :
    thrown (bodyInThread body (withUser w log)) = thrown (body w) := by
  have same : withUser (withUser w log) () = w := rfl
  rw [bodyInThread, same]
  cases body w <;> rfl

theorem unkoil_aenter (fields : Fields) (awaitEnter awaitExit : String) (object : Nat)
    (accepts : mid.Accepts env) :
    ∃ loop, mid.look.inside env loop = starting env mid ∧
      unkoil env (fields.asManager awaitEnter awaitExit).awaitEnter (.aenter object)
        (fields.asManager awaitEnter awaitExit).aenter (withUser mid .empty) =
      runs env (.aenter object) (fields.asManager awaitEnter awaitExit).aenter loop
        (withUser mid.look .empty) := by
  have accepts' : (withUser mid Log.empty).Accepts env := accepts
  obtain ⟨loop, got, ran⟩ := unkoil_accepted _ _ _ accepts'
  exact ⟨loop, inside_eq_starting got, ran⟩

theorem unkoil_enters (enters : fields.Enters (lost env mid)) (accepts : mid.Accepts env) :
    unkoil env (fields.asManager awaitEnter awaitExit).awaitEnter (.aenter object)
        (fields.asManager awaitEnter awaitExit).aenter (withUser mid .empty) =
      .ok () (withUser (begins object mid) (fields.enteredLog (lost env mid))) := by
  obtain ⟨loop, same, ran⟩ := unkoil_aenter fields awaitEnter awaitExit object accepts
  have loses : ((withUser mid.look Log.empty).inside env loop).loses = lost env mid :=
    congrArg Inside.loses same
  have entered := @aenter_ok fields awaitEnter awaitExit
    ((withUser mid.look Log.empty).inside env loop) rfl rfl (loses ▸ enters)
  rw [ran, runs, entered, loses]
  simp only [withUser, World.look, World.inside, setItems_same, begins]

theorem unkoil_fails (awaitEnter awaitExit : String) (object : Nat)
    (fails : ¬ fields.Enters (lost env mid)) (accepts : mid.Accepts env) :
    ∃ exc after, unkoil env (fields.asManager awaitEnter awaitExit).awaitEnter (.aenter object)
        (fields.asManager awaitEnter awaitExit).aenter (withUser mid .empty) =
      .error exc after ∧ after.user = fields.enteredLog (lost env mid) := by
  obtain ⟨loop, same, ran⟩ := unkoil_aenter fields awaitEnter awaitExit object accepts
  have loses : ((withUser mid.look Log.empty).inside env loop).loses = lost env mid :=
    congrArg Inside.loses same
  obtain ⟨exc, after, raised, user⟩ := @aenter_error fields awaitEnter awaitExit
    ((withUser mid.look Log.empty).inside env loop) rfl rfl (loses ▸ fails)
  rw [ran, runs, raised]
  exact ⟨_, _, rfl, user.trans (congrArg fields.enteredLog loses)⟩

theorem empty_paired : Log.empty.Paired := ⟨nofun, nofun⟩

theorem exit_paired_iff {loses : Bool} (enters : fields.Enters loses) (exc : Option Exc) :
    (left (koiledExit env (fields.asManager awaitEnter awaitExit) object exc
        (withUser w (fields.enteredLog loses)))).user.Paired ↔
      fields.EntersNone loses ∨ w.Accepts env ∧ fields.Exits (lost env w) exc := by
  rcases koiledExit_user env (fields.asManager awaitEnter awaitExit) object exc
      (withUser w (fields.enteredLog loses)) with ⟨accepts, user⟩ | ⟨refused, user⟩
  · have open_ : armed (starting env (withUser w (fields.enteredLog loses))) = lost env w :=
      Bool.and_true _
    rw [user, aexit_user, open_]
    refine (paired_exited_iff enters (lost env w) exc).trans ?_
    exact ⟨fun exits => .inr ⟨accepts, exits⟩, fun held =>
      held.elim (fun none_ => exits_of_entersNone none_ enters _ exc) And.right⟩
  · rw [user]
    refine enteredLog_paired_iff.trans ?_
    exact ⟨.inl, fun held => held.elim id fun both => absurd both.1 refused⟩

/-- `with` pairs the calls exactly when, if the block is entered at all, no child's `__aenter__`
returns, or all return without being cancelled, the block is left where `unkoil` is accepted,
and all children but the last also return from `__aexit__`. -/
theorem syncWith_paired_iff (fields : Fields) (awaitEnter awaitExit : String) (env : Env)
    (object : Nat) (body : Sync Unit β) (w : World Unit) :
    (left (fields.syncWith awaitEnter awaitExit env object body
        (withUser w .empty))).user.Paired ↔
      ∀ mid, readied env object w = .ok () mid → mid.Accepts env →
        fields.EntersNone (lost env mid) ∨
          fields.Enters (lost env mid) ∧ (left (body (begins object mid))).Accepts env ∧
            fields.Exits (lost env (left (body (begins object mid))))
              (thrown (body (begins object mid))) := by
  have ready := readied_logged env object .empty w
  cases reached : readied env object w with
  | error exc after =>
      rw [reached] at ready
      rw [Fields.syncWith, withStatement_refused (koiledEnter_unready ready)]
      exact iff_of_true empty_paired nofun
  | ok _ mid =>
      rw [reached] at ready
      obtain ⟨user, entered, raised⟩ :=
        koiledEnter_readied (fields.asManager awaitEnter awaitExit) ready
      have one : ∀ held : World Unit → Prop,
          (∀ mid', (EStateM.Result.ok () mid : EStateM.Result Exc (World Unit) Unit) =
            .ok () mid' → held mid') ↔ held mid :=
        fun held => ⟨fun all => all mid rfl, fun holds _ same =>
          (EStateM.Result.ok.inj same).2 ▸ holds⟩
      rw [one]
      by_cases accepts : mid.Accepts env
      · rw [forall_prop_of_true accepts]
        by_cases enters : fields.Enters (lost env mid)
        · rw [Fields.syncWith,
            withStatement_entered (entered _ _ (unkoil_enters enters accepts)), left_leave,
            bodyInThread_left, bodyInThread_thrown]
          refine (exit_paired_iff enters _).trans (or_congr_right ?_)
          exact ⟨fun both => ⟨enters, both⟩, And.right⟩
        · obtain ⟨exc, after, failed, log⟩ :=
            unkoil_fails awaitEnter awaitExit object enters accepts
          obtain ⟨exc', after', refused⟩ := raised exc after failed
          rw [refused, failed] at user
          rw [Fields.syncWith, withStatement_refused refused]
          refine (iff_of_eq (congrArg Log.Paired (user.trans log))).trans ?_
          refine enteredLog_paired_iff.trans ?_
          exact ⟨.inl, fun held => held.elim id fun all => absurd all.1 enters⟩
      · rcases unkoil_user env (fields.asManager awaitEnter awaitExit).awaitEnter
            (.aenter object) (fields.asManager awaitEnter awaitExit).aenter
            (withUser mid .empty) with ⟨accepts', _⟩ | ⟨_, kept, exc, after, failed⟩
        · exact absurd accepts' accepts
        · obtain ⟨exc', after', refused⟩ := raised exc after failed
          rw [refused] at user
          rw [Fields.syncWith, withStatement_refused refused]
          refine iff_of_true ?_ fun accepts' => absurd accepts' accepts
          have log : after'.user = Log.empty := user.trans kept
          exact (congrArg Log.Paired log).mpr empty_paired

end block

/-- Entered and exited together, by either `with` statement, exactly under the conditions
of that statement. -/
theorem composition_pairs_iff (fields : Fields) (awaitEnter awaitExit : String) :
    (∀ (β : Type) (body : EStateM Exc Context β) (ctx : Context) (site : Site),
      (left (fields.asyncWith awaitEnter awaitExit body
          ⟨.empty, ctx, site, false, false⟩)).user.Paired ↔
        fields.EntersNone false ∨
          fields.Enters false ∧ fields.Exits false (thrown (body ctx))) ∧
      ∀ (β : Type) (env : Env) (object : Nat) (body : Sync Unit β) (w : World Unit),
        (left (fields.syncWith awaitEnter awaitExit env object body
            (withUser w .empty))).user.Paired ↔
          ∀ mid, readied env object w = .ok () mid → mid.Accepts env →
            fields.EntersNone (lost env mid) ∨
              fields.Enters (lost env mid) ∧ (left (body (begins object mid))).Accepts env ∧
                fields.Exits (lost env (left (body (begins object mid))))
                  (thrown (body (begins object mid))) :=
  ⟨fun _ => asyncWith_paired_iff fields awaitEnter awaitExit,
    fun _ => syncWith_paired_iff fields awaitEnter awaitExit⟩

def refusal : Ending := ⟨some (.of .valueError "refused"), none⟩

def failingEntry : Fields :=
  .manager ⟨.returns, fun _ => .returns⟩ (.manager ⟨refusal, fun _ => .returns⟩ .done)

def failingExit : Fields :=
  .manager ⟨.returns, fun _ => refusal⟩ (.manager ⟨.returns, fun _ => .returns⟩ .done)

/-- The one is left entered by either statement, and so is the last one of the other. -/
theorem composition_leaves_child_entered :
    (left (failingEntry.asyncWith "" "" (pure ())
        ⟨.empty, .empty, .thread, false, false⟩)).user = ⟨[0], []⟩ ∧
      (left (failingEntry.syncWith "" "" plainThread 0 (pure ())
        (withUser (World.fresh 0 ()) .empty))).user = ⟨[0], []⟩ ∧
      (left (failingExit.asyncWith "" "" (pure ())
        ⟨.empty, .empty, .thread, false, false⟩)).user = ⟨[0, 1], [0]⟩ ∧
      (left (failingExit.syncWith "" "" plainThread 0 (pure ())
        (withUser (World.fresh 0 ()) .empty))).user = ⟨[0, 1], [0]⟩ ∧
      ¬ (⟨[0], []⟩ : Log).Paired ∧ ¬ (⟨[0, 1], [0]⟩ : Log).Paired := by
  refine ⟨rfl, rfl, rfl, rfl, fun paired => ?_, fun paired => ?_⟩
  · cases paired.once 0 List.mem_cons_self
  · cases paired.once 1 (List.mem_cons_of_mem 0 List.mem_cons_self)

/-- A child whose `__aenter__` swallows a cancellation is left entered under a foreign event. -/
example :
    (left ((Fields.manager ⟨⟨none, some none⟩, fun _ => .returns⟩ .done).syncWith "" ""
      ⟨none, fun _ => true, fun _ => false, some 7⟩ 0 (pure ())
      (withUser (World.fresh 0 ()) .empty))).user = ⟨[0], []⟩ := rfl

end Koil.Composition
