import Koil.Blocks
import Koil.ManagerSteps

namespace Koil.Managers

open Contexts Koils WithStatement

variable {τ α : Type} {env : Env} {objects : Objects τ α} {w w' : World τ} {koil loop : Nat}

/-- A coroutine returns and leaves koil's own variables as they are; under a foreign cancel
event, if there is one, without an await at which it would be cancelled. -/
def Returns {β : Type} (coro : Coroutine τ β) (foreign : Bool) : Prop :=
  ∀ inside, inside.cancelled = false → (inside.loses = true → foreign = true) →
    ∃ value after, coro inside = .ok value after ∧
      (∀ var, var.internal = true → after.ctx var = inside.ctx var) ∧
      (inside.loses && after.cancelled) = false

structure Manager.Normal (manager : Manager τ α) (foreign : Bool) : Prop where
  enters : Returns manager.aenter foreign
  exits : ∀ exc, Returns (manager.aexit exc) foreign

/-- The methods of the block's manager, if it has one, return on the loop. -/
def Block.NormalOn (env : Env) (objects : Objects τ α) (loop : Nat) : Block → Prop
  | .withKoilable object => (objects.koilable object).Normal (env.foreign loop)
  | .withCm cm => (objects.cm cm).Normal (env.foreign loop)
  | _ => True

def World.runsOn (w : World τ) (env : Env) : Option Nat :=
  if w.ambient = .nothing then some w.base.made else (w.target env "").toOption

/-- The loops not made yet are open, the running one was made, and nothing is cancelled. -/
structure Sound (env : Env) (w : World τ) : Prop where
  unmade : ∀ loop, w.base.made ≤ loop → w.base.closed loop = false
  running : ∀ loop, env.running = some loop → loop < w.base.made
  uncancelled : ∀ look, w.isSet look = false

theorem Sound.of_quiet (sound : Sound env w) (quiet : Quiet w w') : Sound env w' where
  unmade loop beyond := by
    rw [quiet.made] at beyond
    rw [quiet.closed]
    exact sound.unmade loop beyond
  running loop running := by
    rw [quiet.made]
    exact sound.running loop running
  uncancelled := quiet.uncancelled sound.uncancelled

theorem Returns.tidy {β : Type} {coro : Coroutine τ β} {foreign : Bool}
    (returns : Returns coro foreign) : Tidy coro foreign := by
  intro inside uncut fits
  obtain ⟨value, after, ended, kept, _⟩ := returns inside uncut fits
  simp only [ended]
  exact kept

theorem Returns.raced {β : Type} {coro : Coroutine τ β} {foreign : Bool}
    (returns : Returns coro foreign) (inside : Inside τ) (uncut : inside.cancelled = false)
    (fits : inside.loses = true → foreign = true) :
    ∃ value after, raced coro inside = .ok value after := by
  obtain ⟨value, after, ended, _, kept⟩ := returns inside uncut fits
  exact ⟨value, after, by simp [Managers.raced, ended, kept]⟩

theorem Sound.fits (sound : Sound env w) (loop : Nat) (loses : w.look.loses env loop = true) :
    env.foreign loop = true := by
  simpa [World.loses, World.look, sound.uncancelled 1] using loses

theorem unkoil_returns {β : Type} {coro : Coroutine τ β} (returns : Returns coro (env.foreign loop))
    (sound : Sound env w) {advice : String} (accepted : w.target env advice = .ok loop)
    (call : Call) :
    ∃ value after, unkoil env advice call coro w = .ok value after ∧ Quiet w after := by
  have submitted : submits env advice w = .ok loop w.look := by
    have got : w.base.getKoiledLoopOrRaise env.running advice = .ok loop := accepted
    simp [submits, got, sound.uncancelled 0]
  obtain ⟨value, after, ended⟩ := returns.raced (w.look.inside env loop) rfl (sound.fits loop)
  have returned : ∃ last, unkoil env advice call coro w = .ok value last := by
    rw [unkoil, bind_ok submitted]
    simp only [runs, ended]
    exact ⟨_, rfl⟩
  obtain ⟨last, returned⟩ := returned
  have quiet := quiet_unkoil env call returns.tidy advice w fun other got loses => by
    obtain rfl : loop = other := Except.ok.inj (accepted.symm.trans got)
    exact sound.fits loop loses
  rw [returned] at quiet
  exact ⟨value, last, returned, quiet⟩

/-- A Koil is at hand, with nothing but the Koils and where they are kept changed. -/
structure Prepared (w w' : World τ) : Prop where
  ctx : w'.base.ctx = w.base.ctx
  made : w'.base.made = w.base.made
  closed : w'.base.closed = w.base.closed
  stopped : w'.stopped = w.stopped
  isSet : w'.isSet = w.isSet
  calls : w'.started = w.started
  user : w'.user = w.user

theorem makeKoil_allows (w : World τ) : ¬ w.makeKoil.RefusesSync env w.koilsMade := by
  simp [World.RefusesSync, World.makeKoil, KoilObject.fresh]

theorem fieldKoil_spec (env : Env) (w : World τ) (object : Nat) :
    ∃ koil w', fieldKoil object w = .ok koil w' ∧ Prepared w w' ∧ w'.field object = some koil ∧
      (w'.RefusesSync env koil → w.field object = some koil ∧ w.RefusesSync env koil ∧ w' = w) := by
  unfold fieldKoil
  cases held : w.field object with
  | some koil =>
      exact ⟨koil, w, rfl, ⟨rfl, rfl, rfl, rfl, rfl, rfl, rfl⟩, held,
        fun refuses => ⟨rfl, refuses, rfl⟩⟩
  | none =>
      exact ⟨_, _, rfl, ⟨rfl, rfl, rfl, rfl, rfl, rfl, rfl⟩, Function.update_self ..,
        fun refuses => absurd refuses (makeKoil_allows w)⟩

theorem ownKoil_spec (env : Env) (w : World τ) (cm : Nat) :
    ∃ koil w', ownKoil cm w = .ok koil w' ∧ Prepared w w' ∧ w'.own cm = some koil ∧
      (w'.RefusesSync env koil → w.given cm = some koil ∧ w.RefusesSync env koil) := by
  unfold ownKoil
  cases held : w.given cm with
  | some koil =>
      exact ⟨koil, _, rfl, ⟨rfl, rfl, rfl, rfl, rfl, rfl, rfl⟩, Function.update_self ..,
        fun refuses => ⟨rfl, refuses⟩⟩
  | none =>
      exact ⟨_, _, rfl, ⟨rfl, rfl, rfl, rfl, rfl, rfl, rfl⟩, Function.update_self ..,
        fun refuses => absurd refuses (makeKoil_allows w)⟩

theorem fieldKoil_found (env : Env) {object : Nat} {mid : World τ}
    (found : fieldKoil object w = .ok koil mid) :
    koil = (w.field object).getD w.koilsMade ∧ (mid.RefusesSync env koil ↔
      ∃ koil, w.field object = some koil ∧ w.RefusesSync env koil) := by
  unfold fieldKoil at found
  cases held : w.field object with
  | none =>
      rw [held] at found
      obtain ⟨rfl, rfl⟩ := EStateM.Result.ok.inj found
      exact ⟨rfl, iff_of_false (makeKoil_allows w) nofun⟩
  | some other =>
      rw [held] at found
      obtain ⟨rfl, rfl⟩ := EStateM.Result.ok.inj found
      exact ⟨rfl, by simp⟩

theorem ownKoil_found (env : Env) {cm : Nat} {mid : World τ}
    (found : ownKoil cm w = .ok koil mid) :
    koil = (w.given cm).getD w.koilsMade ∧ (mid.RefusesSync env koil ↔
      ∃ koil, w.given cm = some koil ∧ w.RefusesSync env koil) := by
  unfold ownKoil at found
  cases held : w.given cm with
  | none =>
      rw [held] at found
      obtain ⟨rfl, rfl⟩ := EStateM.Result.ok.inj found
      exact ⟨rfl, iff_of_false (makeKoil_allows w) nofun⟩
  | some other =>
      rw [held] at found
      obtain ⟨rfl, rfl⟩ := EStateM.Result.ok.inj found
      simp only [Option.getD_some, Option.some.injEq, exists_eq_left', true_and]
      exact Iff.rfl

theorem ownKoil_given {cm : Nat} {mid : World τ} (found : ownKoil cm w = .ok koil mid) :
    mid.given = w.given ∧ (w.given cm = some koil → mid.base = w.base) := by
  unfold ownKoil at found
  cases held : w.given cm with
  | none =>
      rw [held] at found
      obtain ⟨_, rfl⟩ := EStateM.Result.ok.inj found
      exact ⟨rfl, nofun⟩
  | some other =>
      rw [held] at found
      obtain ⟨_, rfl⟩ := EStateM.Result.ok.inj found
      exact ⟨rfl, fun _ => rfl⟩

/-- A Koil has started a loop for a block where none was ambient, and still runs it. -/
structure Begins (env : Env) (w begun : World τ) (koil : Nat) : Prop where
  ambient : begun.ambient = .koil koil
  ambientLoop : begun.ambientLoop = .loop w.base.made
  owns : (begun.base.koils koil).loop = some w.base.made
  allowed : ¬ begun.RefusesSync env koil
  made : begun.base.made = w.base.made + 1
  closed : begun.base.closed = w.base.closed
  stopped : begun.stopped = w.stopped
  uncancelled : (∀ look, w.isSet look = false) → ∀ look, begun.isSet look = false

theorem Started.begins (prepared : Prepared w w') {begun : World τ}
    (started : Started w' begun koil) (allowed : ¬ w'.RefusesSync env koil) :
    Begins env w begun koil where
  ambient := started.ambient
  ambientLoop := by rw [started.ambientLoop, prepared.made]
  owns := by rw [started.owns, prepared.made]
  allowed := by
    rw [World.RefusesSync, started.sync]
    exact allowed
  made := by rw [started.made, prepared.made]
  closed := by rw [started.closed, prepared.closed]
  stopped := by rw [started.stopped, prepared.stopped]
  uncancelled unset look := by
    rw [started.isSet, prepared.isSet]
    exact unset look

theorem Prepared.starts (prepared : Prepared w w') (unset : w.ambient = .nothing)
    (allowed : ¬ w'.RefusesSync env koil) :
    ∃ begun, enterKoil env koil w' = .ok () begun ∧ Started w' begun koil ∧
      Begins env w begun koil := by
  have unset' : w'.ambient = .nothing := by
    rw [World.ambient, prepared.ctx]
    exact unset
  obtain ⟨begun, entered, started⟩ := enterKoil_starts unset' allowed
  exact ⟨begun, entered, started, started.begins prepared allowed⟩

theorem Begins.quiet {mid begun : World τ} (begins : Begins env w mid koil)
    (quiet : Quiet mid begun) : Begins env w begun koil where
  ambient := quiet.ambient.trans begins.ambient
  ambientLoop := quiet.ambientLoop.trans begins.ambientLoop
  owns := (quiet.koils koil).1.trans begins.owns
  allowed := by
    rw [World.RefusesSync, (quiet.koils koil).2.2]
    exact begins.allowed
  made := quiet.made.trans begins.made
  closed := quiet.closed.trans begins.closed
  stopped := quiet.stopped.trans begins.stopped
  uncancelled unset := quiet.uncancelled (begins.uncancelled unset)

theorem Sound.outside (sound : Sound env w) : env.running ≠ some w.base.made :=
  fun running => Nat.lt_irrefl _ (sound.running _ running)

theorem Begins.isOpen {begun : World τ} (begins : Begins env w begun koil)
    (sound : Sound env w) : begun.base.closed w.base.made = false := by
  rw [begins.closed]
  exact sound.unmade _ (Nat.le_refl _)

theorem Begins.busy {begun : World τ} (begins : Begins env w begun koil)
    (sound : Sound env w) : ¬ begun.Idle koil := by
  intro idle
  have closed := idle _ begins.owns
  rw [begins.isOpen sound] at closed
  cases closed

theorem Begins.sound {begun : World τ} (begins : Begins env w begun koil)
    (sound : Sound env w) : Sound env begun where
  unmade loop beyond := by
    rw [begins.closed]
    rw [begins.made] at beyond
    exact sound.unmade loop (Nat.le_of_succ_le beyond)
  running loop running := by
    rw [begins.made]
    exact Nat.lt_succ_of_lt (sound.running loop running)
  uncancelled := begins.uncancelled sound.uncancelled

theorem Begins.target_of_open {begun : World τ} (begins : Begins env w begun koil)
    (isOpen : begun.base.closed w.base.made = false) (outside : env.running ≠ some w.base.made)
    (advice : String) : begun.target env advice = .ok w.base.made := by
  refine getKoiledLoopOrRaise_ok_iff.mpr ⟨begins.ambientLoop, isOpen, fun here running => ⟨?_, ?_⟩⟩
  · rintro rfl
    exact outside running
  · have ambient : begun.base.ctx.getD .globalKoil = .koil koil := begins.ambient
    have allowed := begins.allowed
    simpa [Context.allowsSyncInAsync, ambient, World.RefusesSync, running] using allowed

theorem Begins.target {begun : World τ} (begins : Begins env w begun koil)
    (sound : Sound env w) (advice : String) : begun.target env advice = .ok w.base.made :=
  begins.target_of_open (begins.isOpen sound) sound.outside advice

theorem Begins.unkoils {β : Type} {begun : World τ} {coro : Coroutine τ β}
    (begins : Begins env w begun koil) (sound : Sound env w)
    (returns : Returns coro (env.foreign w.base.made)) (advice : String) (call : Call) :
    ∃ value after, unkoil env advice call coro begun = .ok value after ∧ Quiet begun after :=
  unkoil_returns returns (begins.sound sound) (begins.target sound advice) call

def Block.held (w : World τ) : Block → Option Nat
  | .withKoil koil => some koil
  | .asyncWithKoil _ => none
  | .withKoilable object => w.field object
  | .withCm cm => w.own cm

def Block.isAsync : Block → Bool
  | .asyncWithKoil _ => true
  | _ => false

/-- A sync block has started a loop for itself, or has found a Koil and changed nothing. -/
inductive Enters (env : Env) (w begun : World τ) (block : Block) : Prop
  | starts (koil : Nat) (unset : w.ambient = .nothing) (begins : Begins env w begun koil)
      (held : block.held begun = some koil)
  | shares (set : w.ambient ≠ .nothing) (quiet : Quiet w begun)
      (accepted : ∀ object, block = .withKoilable object →
        ∃ loop, begun.target env "" = .ok loop)

/-- Refused blocks: where the Koil does not allow sync code in the running loop, or where
`unkoil` finds no loop under an ambient Koil; `koiled_cm` then exits a Koil it owns. -/
inductive Refused (env : Env) (w begun : World τ) : Block → Prop
  | koil (koil : Nat) (refuses : w.RefusesSync env koil) (same : begun = w) :
      Refused env w begun (.withKoil koil)
  | fieldKoil (object koil : Nat) (unset : w.ambient = .nothing)
      (held : w.field object = some koil) (refuses : w.RefusesSync env koil) (same : begun = w) :
      Refused env w begun (.withKoilable object)
  | givenKoil (cm koil : Nat) (unset : w.ambient = .nothing) (held : w.given cm = some koil)
      (refuses : w.RefusesSync env koil) (prepared : Prepared w begun) :
      Refused env w begun (.withCm cm)
  | koilable (object : Nat) (set : w.ambient ≠ .nothing)
      (noTarget : ∀ loop, w.target env "" ≠ .ok loop) (same : begun = w) :
      Refused env w begun (.withKoilable object)
  | cm (cm : Nat) (set : w.ambient ≠ .nothing)
      (exited : begun = left (exitOwn env cm w)) :
      Refused env w begun (.withCm cm)

theorem enterKoil_error {exc : Exc} {begun : World τ}
    (raised : enterKoil env koil w = .error exc begun) :
    w.RefusesSync env koil ∧ begun = w := by
  by_cases refuses : w.RefusesSync env koil
  · rw [enterKoil_refuses refuses] at raised
    exact ⟨refuses, (EStateM.Result.error.inj raised).2.symm⟩
  · have accepted : ¬ (env.running.isSome && !(w.base.koils koil).syncInAsync) = true := by
      simpa [World.RefusesSync] using refuses
    simp only [enterKoil, Koils.State.enter, if_neg accepted] at raised
    split at raised
    · cases raised
    · next entered => split at entered <;> cases entered

theorem enters_koil {begun : World τ} (entered : enterKoil env koil w = .ok () begun) :
    Enters env w begun (.withKoil koil) := by
  by_cases set : w.ambient = .nothing
  · have allowed : ¬ w.RefusesSync env koil := by
      intro refuses
      rw [enterKoil_refuses refuses] at entered
      cases entered
    obtain ⟨_, same, started⟩ := enterKoil_starts set allowed
    obtain ⟨_, rfl⟩ := EStateM.Result.ok.inj (same.symm.trans entered)
    exact .starts koil set (started.begins ⟨rfl, rfl, rfl, rfl, rfl, rfl, rfl⟩ allowed) rfl
  · have quiet := quiet_enterKoil env set koil
    rw [entered] at quiet
    exact .shares set quiet nofun

theorem unkoil_cases {β : Type} {coro : Coroutine τ β}
    (returns : ∀ loop, w.target env "" = .ok loop → Returns coro (env.foreign loop))
    (sound : Sound env w) (advice : String) (call : Call) :
    (∃ loop value after, w.target env advice = .ok loop ∧
      unkoil env advice call coro w = .ok value after ∧ Quiet w after) ∨
    (∀ loop, w.target env "" ≠ .ok loop) ∧
      ∃ exc, unkoil env advice call coro w = .error exc w := by
  cases got : w.target env advice with
  | ok loop =>
      obtain ⟨value, after, ended, quiet⟩ :=
        unkoil_returns (returns loop (target_advice got "")) sound got call
      exact .inl ⟨loop, value, after, rfl, ended, quiet⟩
  | error exc =>
      refine .inr ⟨fun loop accepted => ?_, exc, unkoil_refused got call⟩
      rw [target_advice accepted advice] at got
      cases got

theorem koilable_ambient (env : Env) (manager : Manager τ α) (object : Nat)
    (set : w.ambient ≠ .nothing) :
    koiledEnter env manager object w =
      unkoil env manager.awaitEnter (.aenter object) manager.aenter w := by
  rw [koiledEnter, get_bind, if_pos set]

theorem koilable_alone (env : Env) (manager : Manager τ α) {object : Nat}
    (unset : w.ambient = .nothing) {mid : World τ} (found : fieldKoil object w = .ok koil mid) :
    koiledEnter env manager object w =
      (do
        enterKoil env koil
        reraising (unkoil env manager.awaitEnter (.aenter object) manager.aenter)
          (exitKoil env koil) : Sync τ α) mid := by
  rw [koiledEnter, get_bind, if_neg (not_not.mpr unset), bind_ok found]

theorem runsOn_alone (unset : w.ambient = .nothing) : w.runsOn env = some w.base.made :=
  if_pos unset

theorem runsOn_shared (set : w.ambient ≠ .nothing) (got : w.target env "" = .ok loop) :
    w.runsOn env = some loop := by
  rw [World.runsOn, if_neg set, got]
  rfl

theorem enters_koilable {manager : Manager τ α} {object : Nat}
    (normal : ∀ loop, w.runsOn env = some loop → manager.Normal (env.foreign loop))
    (sound : Sound env w) :
    (∃ value begun, koiledEnter env manager object w = .ok value begun ∧
      Enters env w begun (.withKoilable object)) ∨
    ∃ exc begun, koiledEnter env manager object w = .error exc begun ∧
      Refused env w begun (.withKoilable object) := by
  by_cases set : w.ambient = .nothing
  · obtain ⟨koil, mid, found, prepared, held, refuses⟩ := fieldKoil_spec env w object
    rw [koilable_alone env manager set found]
    by_cases allowed : mid.RefusesSync env koil
    · obtain ⟨held, refuses, rfl⟩ := refuses allowed
      exact .inr ⟨_, _, bind_error (enterKoil_refuses allowed),
        .fieldKoil object koil set held refuses rfl⟩
    · obtain ⟨begun, entered, started, begins⟩ := prepared.starts set allowed
      obtain ⟨value, after, ended, quiet⟩ :=
        begins.unkoils sound (normal _ (runsOn_alone set)).enters manager.awaitEnter
          (.aenter object)
      refine .inl ⟨value, after, ?_, .starts koil set (begins.quiet quiet) ?_⟩
      · rw [bind_ok entered, reraising_ok ended]
      · exact (congrFun quiet.field object).trans ((congrFun started.field object).trans held)
  · rw [koilable_ambient env manager object set]
    rcases unkoil_cases (fun loop got => (normal loop (runsOn_shared set got)).enters) sound
      manager.awaitEnter (.aenter object) with
      ⟨loop, value, after, got, ended, quiet⟩ | ⟨noTarget, exc, ended⟩
    · refine .inl ⟨value, after, ended, .shares set quiet fun _ _ => ⟨loop, ?_⟩⟩
      exact (quiet.target env "").trans (target_advice got "")
    · exact .inr ⟨exc, w, ended, .koilable object set noTarget rfl⟩

theorem cm_ambient (env : Env) (manager : Manager τ α) (cm : Nat)
    (set : w.ambient ≠ .nothing) :
    cmEnter env manager cm w =
      reraising (unkoil env manager.awaitEnter (.aenter cm) manager.aenter) (exitOwn env cm)
        w := by
  rw [cmEnter, get_bind, if_neg set]

theorem cm_alone (env : Env) (manager : Manager τ α) {cm : Nat}
    (unset : w.ambient = .nothing) {mid : World τ} (found : ownKoil cm w = .ok koil mid) :
    cmEnter env manager cm w =
      (do
        enterKoil env koil
        reraising (unkoil env manager.awaitEnter (.aenter cm) manager.aenter)
          (exitOwn env cm) : Sync τ α) mid := by
  rw [cmEnter, get_bind, if_pos unset]
  exact bind_ok found

theorem enters_cm {manager : Manager τ α} {cm : Nat}
    (normal : ∀ loop, w.runsOn env = some loop → manager.Normal (env.foreign loop))
    (sound : Sound env w) :
    (∃ value begun, cmEnter env manager cm w = .ok value begun ∧
      Enters env w begun (.withCm cm)) ∨
    ∃ exc begun, cmEnter env manager cm w = .error exc begun ∧
      Refused env w begun (.withCm cm) := by
  by_cases set : w.ambient = .nothing
  · obtain ⟨koil, mid, found, prepared, held, refuses⟩ := ownKoil_spec env w cm
    rw [cm_alone env manager set found]
    by_cases allowed : mid.RefusesSync env koil
    · obtain ⟨held, refuses⟩ := refuses allowed
      exact .inr ⟨_, _, bind_error (enterKoil_refuses allowed),
        .givenKoil cm koil set held refuses prepared⟩
    · obtain ⟨begun, entered, started, begins⟩ := prepared.starts set allowed
      obtain ⟨value, after, ended, quiet⟩ :=
        begins.unkoils sound (normal _ (runsOn_alone set)).enters manager.awaitEnter (.aenter cm)
      refine .inl ⟨value, after, ?_, .starts koil set (begins.quiet quiet) ?_⟩
      · rw [bind_ok entered, reraising_ok ended]
      · have owned : begun.own cm = some koil := (congrFun started.own cm).trans held
        rcases quiet.own cm with same | ⟨_, idle⟩
        · exact same.trans owned
        · exact absurd (idle koil owned) (begins.busy sound)
  · rw [cm_ambient env manager cm set]
    rcases unkoil_cases (fun loop got => (normal loop (runsOn_shared set got)).enters) sound
      manager.awaitEnter (.aenter cm) with
      ⟨loop, value, after, _, ended, quiet⟩ | ⟨_, exc, ended⟩
    · exact .inl ⟨value, after, reraising_ok ended, .shares set quiet nofun⟩
    · simp only [reraising, ended]
      cases taken : exitOwn env cm w with
      | ok _ after => exact .inr ⟨exc, after, rfl, .cm cm set (by rw [taken]; rfl)⟩
      | error raised after => exact .inr ⟨raised, after, rfl, .cm cm set (by rw [taken]; rfl)⟩

theorem enter_cases {block : Block}
    (normal : ∀ loop, w.runsOn env = some loop → block.NormalOn env objects loop)
    (sound : Sound env w) (sync : block.isAsync = false) :
    (∃ begun, block.enter env objects w = .ok () begun ∧ Enters env w begun block) ∨
    ∃ exc begun, block.enter env objects w = .error exc begun ∧ Refused env w begun block := by
  cases block with
  | asyncWithKoil koil => cases sync
  | withKoil koil =>
      cases entered : enterKoil env koil w with
      | ok _ begun => exact .inl ⟨begun, entered, enters_koil entered⟩
      | error exc begun =>
          obtain ⟨refuses, same⟩ := enterKoil_error entered
          exact .inr ⟨exc, begun, entered, .koil koil refuses same⟩
  | withKoilable object =>
      rcases enters_koilable normal sound with
        ⟨value, begun, entered, enters⟩ | ⟨exc, begun, raised, refused⟩
      · exact .inl ⟨begun, bind_ok entered, enters⟩
      · exact .inr ⟨exc, begun, bind_error raised, refused⟩
  | withCm cm =>
      rcases enters_cm normal sound with
        ⟨value, begun, entered, enters⟩ | ⟨exc, begun, raised, refused⟩
      · exact .inl ⟨begun, bind_ok entered, enters⟩
      · exact .inr ⟨exc, begun, bind_error raised, refused⟩

end Koil.Managers
