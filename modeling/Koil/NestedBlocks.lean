import Koil.BlockExits

namespace Koil.Managers

open Contexts Koils WithStatement

variable {τ α : Type} {env : Env} {objects : Objects τ α} {w w' : World τ} {koil loop : Nat}

def Visit.stops (visit : Visit τ) : List Nat :=
  newer visit.entry.stopped visit.begun.stopped ++ newer visit.left.stopped visit.after.stopped

/-- What was ambient is so again, and only a loop that the block has started was stopped. -/
structure Visit.Good (visit : Visit τ) : Prop where
  koil : visit.after.ambient = visit.entry.ambient
  koilLoop : visit.after.ambientLoop = visit.entry.ambientLoop
  stops : ∀ loop ∈ visit.stops,
    visit.entry.base.made ≤ loop ∧ loop < visit.begun.base.made

theorem Visit.Good.not_stops {visit : Visit τ} (good : visit.Good)
    (made : visit.begun.base.made = visit.entry.base.made) (loop : Nat) :
    loop ∉ visit.stops := by
  intro member
  have fresh := good.stops loop member
  rw [made] at fresh
  exact absurd fresh.2 (Nat.not_lt.mpr fresh.1)

/-- The block is refused by a Koil that does not allow sync code in the running loop, or
because `unkoil` has no loop under the ambient Koil. -/
def Block.Refuses (env : Env) (w : World τ) : Block → Prop
  | .withKoil koil => w.RefusesSync env koil
  | .asyncWithKoil _ => False
  | .withKoilable object =>
      if w.ambient = .nothing then
        ∃ koil, w.field object = some koil ∧ w.RefusesSync env koil
      else ∀ loop, w.target env "" ≠ .ok loop
  | .withCm cm =>
      w.ambient = .nothing ∧ ∃ koil, w.given cm = some koil ∧ w.RefusesSync env koil

/-- An `async with` is entered where no Koil is ambient and its own loop already is. Another
block is refused, or nothing is ambient where it is entered, or a Koil is and the one
that the block's object holds has no open loop. -/
def Block.WellPlaced (env : Env) (w : World τ) (block : Block) : Prop :=
  if block.isAsync then
    w.ambient = .nothing ∧ ∀ loop, env.running = some loop → w.ambientLoop = .loop loop
  else
    block.Refuses env w ∨ (w.ambient = .nothing ∧ w.ambientLoop = .nothing) ∨
      (w.ambient ≠ .nothing ∧ ∀ koil, block.held w = some koil → w.Idle koil)

/-- The methods of the block's manager return where they are run, and leave koil's own
variables alone. -/
def Visit.Calm (env : Env) (objects : Objects τ α) (visit : Visit τ) : Prop :=
  ∀ loop, visit.entry.runsOn env = some loop → visit.block.NormalOn env objects loop

/-- The coroutines that the code runs itself leave koil's own variables alone. -/
def Code.Tidy : Code τ → Prop
  | .unkoil _ coro => Managers.Tidy coro true
  | .seq first next => first.Tidy ∧ next.Tidy
  | .attempt body handler => body.Tidy ∧ handler.Tidy
  | .within _ body => body.Tidy
  | _ => True

/-- What was ambient is so again; under an ambient Koil nothing else has changed either. -/
structure Kept (w w' : World τ) : Prop where
  ambient : w'.ambient = w.ambient
  ambientLoop : w'.ambientLoop = w.ambientLoop
  made : w.base.made ≤ w'.base.made
  quiet : w.ambient ≠ .nothing → Quiet w w'

theorem Quiet.kept (quiet : Quiet w w') : Kept w w' :=
  ⟨quiet.ambient, quiet.ambientLoop, Nat.le_of_eq quiet.made.symm, fun _ => quiet⟩

theorem Kept.trans {w'' : World τ} (first : Kept w w') (next : Kept w' w'') : Kept w w'' where
  ambient := next.ambient.trans first.ambient
  ambientLoop := next.ambientLoop.trans first.ambientLoop
  made := Nat.le_trans first.made next.made
  quiet set := by
    have set' : w'.ambient ≠ .nothing := by rwa [first.ambient]
    exact (first.quiet set).trans (next.quiet set')

theorem refuses_enter (objects : Objects τ α) {block : Block} (refuses : block.Refuses env w) :
    ∃ exc begun, block.enter env objects w = .error exc begun := by
  cases block with
  | withKoil koil => exact ⟨_, _, enterKoil_refuses refuses⟩
  | asyncWithKoil koil => cases refuses
  | withKoilable object =>
      by_cases set : w.ambient = .nothing
      · rw [Block.Refuses, if_pos set] at refuses
        obtain ⟨koil, held, refuses⟩ := refuses
        have found : fieldKoil object w = .ok koil w := by simp [fieldKoil, held]
        have raised := koilable_alone env (objects.koilable object) set found
        rw [bind_error (enterKoil_refuses refuses)] at raised
        exact ⟨_, _, bind_error raised⟩
      · rw [Block.Refuses, if_neg set] at refuses
        cases got : w.target env (objects.koilable object).awaitEnter with
        | ok loop => exact absurd (target_advice got "") (refuses loop)
        | error exc =>
            have raised := koilable_ambient env (objects.koilable object) object set
            rw [unkoil_refused got] at raised
            exact ⟨_, _, bind_error raised⟩
  | withCm cm =>
      obtain ⟨unset, koil, held, refuses⟩ := refuses
      have found : ownKoil cm w =
          .ok koil { w with own := Function.update w.own cm (some koil) } := by
        simp [ownKoil, held]
      have raised := cm_alone env (objects.cm cm) unset found
      have refuses' : World.RefusesSync
          { w with own := Function.update w.own cm (some koil) } env koil := refuses
      rw [bind_error (enterKoil_refuses refuses')] at raised
      exact ⟨_, _, bind_error raised⟩

section visits

variable {begun ended after : World τ} {block : Block} {thrown : Option Exc}

theorem stopped_of_begins (normal : block.NormalOn env objects w.base.made) (sound : Sound env w)
    (sync : block.isAsync = false) (begins : Begins env w begun koil)
    (held : block.held begun = some koil) (quiet : Quiet begun ended) (exc : Option Exc) :
    ∃ mid, Quiet begun mid ∧
      Stopped mid (left (block.exit env objects exc ended)) w.base.made := by
  have soundEnded := (begins.sound sound).of_quiet quiet
  have accepted : ended.target env "" = .ok w.base.made :=
    (quiet.target env "").trans (begins.target sound "")
  obtain ⟨mid, quietly, exited⟩ :=
    exit_held (fun loop got => Except.ok.inj (accepted.symm.trans got) ▸ normal) soundEnded sync
      (fun _ _ => ⟨_, accepted⟩) exc
  have kept := quiet.trans quietly
  refine ⟨mid, kept, ?_⟩
  rw [exited]
  refine exitsHeld_outside (kept.held held (begins.busy sound))
    ((kept.koils koil).1.trans begins.owns) ?_ sound.outside
  rw [kept.closed]
  exact begins.isOpen sound

theorem good_starts (normal : block.NormalOn env objects w.base.made) (sound : Sound env w)
    (sync : block.isAsync = false) (unset : w.ambient = .nothing)
    (begins : Begins env w begun koil) (held : block.held begun = some koil)
    (quiet : Quiet begun ended) (exc : Option Exc)
    (exits : after = left (block.exit env objects exc ended)) :
    ((⟨block, w, begun, true, thrown, ended, after⟩ : Visit τ).Good ↔
      w.ambientLoop = .nothing) ∧
    (w.ambientLoop = .nothing → Kept w after ∧ Sound env after) := by
  obtain ⟨mid, kept, stopped⟩ := stopped_of_begins normal sound sync begins held quiet exc
  rw [← exits] at stopped
  have newest : newer ended.stopped after.stopped = [w.base.made] := by
    rw [stopped.stopped, kept.stopped, ← quiet.stopped, newer_cons]
  have made : after.base.made = w.base.made + 1 := by
    rw [stopped.made, kept.made, begins.made]
  constructor
  · constructor
    · intro good
      exact good.koilLoop.symm.trans stopped.ambientLoop
    · intro alone
      refine ⟨stopped.ambient.trans unset.symm, stopped.ambientLoop.trans alone.symm, ?_⟩
      intro loop member
      simp only [Visit.stops, begins.stopped, newer_self, newest, List.nil_append,
        List.mem_singleton] at member
      subst member
      exact ⟨Nat.le_refl _, begins.made ▸ Nat.lt_succ_self _⟩
  · intro alone
    refine ⟨⟨stopped.ambient.trans unset.symm, stopped.ambientLoop.trans alone.symm,
      made ▸ Nat.le_succ _, fun set => absurd unset set⟩, ?_, ?_, ?_⟩
    · intro loop beyond
      have past : w.base.made < loop :=
        Nat.lt_of_succ_le (Nat.le_trans (Nat.le_of_eq made.symm) beyond)
      rw [stopped.closed loop (Nat.ne_of_gt past), kept.closed, begins.closed]
      exact sound.unmade loop (Nat.le_of_lt past)
    · intro loop running
      rw [made]
      exact Nat.lt_succ_of_lt (sound.running loop running)
    · rw [stopped.isSet]
      exact kept.uncancelled (begins.uncancelled sound.uncancelled)

theorem good_shares
    (normal : ∀ loop, w.target env "" = .ok loop → block.NormalOn env objects loop)
    (sound : Sound env w) (sync : block.isAsync = false) (quiet : Quiet w begun)
    (accepted : ∀ object, block = .withKoilable object → ∃ loop, begun.target env "" = .ok loop)
    (body : Quiet begun ended) (exc : Option Exc)
    (exits : after = left (block.exit env objects exc ended)) :
    ((⟨block, w, begun, true, thrown, ended, after⟩ : Visit τ).Good ↔
      ∀ koil, block.held w = some koil → w.Idle koil) ∧
    ((∀ koil, block.held w = some koil → w.Idle koil) → Kept w after ∧ Sound env after) := by
  have whole := quiet.trans body
  obtain ⟨mid, quietly, exited⟩ := exit_held
    (fun loop got => normal loop ((whole.target env "").symm.trans got)) (sound.of_quiet whole) sync
    (fun object same => (accepted object same).imp fun loop got =>
      (body.target env "").trans got) exc
  have kept := whole.trans quietly
  rw [exited] at exits
  have idle_quiet : (∀ koil, block.held w = some koil → w.Idle koil) → Quiet w after := by
    intro idle
    rw [exits]
    refine kept.trans (quiet_exitsHeld fun koil held => ?_)
    exact (kept.idle_iff koil).mpr (idle koil (kept.held_back held))
  refine ⟨⟨fun good koil held => ?_, fun idle => ?_⟩, fun idle =>
    ⟨(idle_quiet idle).kept, sound.of_quiet (idle_quiet idle)⟩⟩
  · intro loop owns
    by_contra isOpen
    have isOpen' : w.base.closed loop = false := by simpa using isOpen
    have busy : ¬ w.Idle koil := fun idle => isOpen (idle loop owns)
    have stops := exitsHeld_stops env (kept.held held busy)
      ((kept.koils koil).1.trans owns) ((congrFun kept.closed loop).trans isOpen')
    refine good.not_stops quiet.made loop ?_
    rw [Visit.stops, exits, stops, quietly.stopped, newer_cons]
    simp
  · have whole' := idle_quiet idle
    refine ⟨whole'.ambient, whole'.ambientLoop, fun loop member => ?_⟩
    simp [Visit.stops, quiet.stopped, whole'.stopped, body.stopped] at member

/-- A refused block has changed nothing, unless it is a `koiled_cm` that owns a Koil with
an open loop. -/
theorem good_refused (sound : Sound env w) (refused : Refused env w begun block) :
    ((⟨block, w, begun, false, none, begun, begun⟩ : Visit τ).Good ↔ block.WellPlaced env w) ∧
    (block.WellPlaced env w → Kept w begun ∧ Sound env begun) := by
  have unchanged : begun = w →
      (⟨block, w, begun, false, none, begun, begun⟩ : Visit τ).Good ∧ Kept w begun ∧
        Sound env begun := by
    rintro rfl
    exact ⟨⟨rfl, rfl, by simp [Visit.stops]⟩, (Quiet.refl _).kept, sound⟩
  cases refused with
  | koil koil refuses same =>
      obtain ⟨good, kept⟩ := unchanged same
      exact ⟨iff_of_true good (.inl refuses), fun _ => kept⟩
  | fieldKoil object koil unset held refuses same =>
      obtain ⟨good, kept⟩ := unchanged same
      refine ⟨iff_of_true good (.inl ?_), fun _ => kept⟩
      rw [Block.Refuses, if_pos unset]
      exact ⟨koil, held, refuses⟩
  | koilable object set noTarget same =>
      obtain ⟨good, kept⟩ := unchanged same
      refine ⟨iff_of_true good (.inl ?_), fun _ => kept⟩
      rw [Block.Refuses, if_neg set]
      exact noTarget
  | givenKoil cm koil unset held refuses prepared =>
      have ambient : begun.ambient = w.ambient := by
        rw [World.ambient, World.ambient, prepared.ctx]
      have ambientLoop : begun.ambientLoop = w.ambientLoop := by
        rw [World.ambientLoop, World.ambientLoop, prepared.ctx]
      refine ⟨iff_of_true ⟨ambient, ambientLoop, ?_⟩ (.inl ⟨unset, koil, held, refuses⟩),
        fun _ => ⟨⟨ambient, ambientLoop, Nat.le_of_eq prepared.made.symm,
          fun set => absurd unset set⟩, ?_, ?_, ?_⟩⟩
      · simp [Visit.stops, prepared.stopped]
      · rw [prepared.made, prepared.closed]
        exact sound.unmade
      · rw [prepared.made]
        exact sound.running
      · rw [prepared.isSet]
        exact sound.uncancelled
  | cm cm set exited =>
      have idle_quiet : (∀ koil, w.own cm = some koil → w.Idle koil) → Quiet w begun := by
        intro idle
        rw [exited]
        exact quiet_exitOwn idle
      have placed : (Block.withCm cm).WellPlaced env w ↔
          ∀ koil, w.own cm = some koil → w.Idle koil := by
        simp [Block.WellPlaced, Block.isAsync, Block.Refuses, set, Block.held]
      rw [placed]
      refine ⟨⟨fun good koil held loop owns => ?_, fun idle => ?_⟩, fun idle =>
        ⟨(idle_quiet idle).kept, sound.of_quiet (idle_quiet idle)⟩⟩
      · by_contra isOpen
        have isOpen' : w.base.closed loop = false := by simpa using isOpen
        have stops := exitsHeld_stops env
          (show (Block.withCm cm).held _ = _ from held) owns isOpen'
        rw [Block.exitsHeld, ← exited] at stops
        refine good.not_stops (exited ▸ exitOwn_made env cm w) loop ?_
        simp [Visit.stops, stops]
      · have whole := idle_quiet idle
        exact ⟨whole.ambient, whole.ambientLoop, by simp [Visit.stops, whole.stopped]⟩

theorem good_async {koil : Nat} {exc : Option Exc}
    (enters : begun = { w with base := w.base.aenter env.running koil })
    (body : Kept begun ended) (soundEnded : Sound env ended)
    (exits : after = { ended with base := ended.base.aexit }) :
    ((⟨.asyncWithKoil koil, w, begun, true, exc, ended, after⟩ : Visit τ).Good ↔
      (Block.asyncWithKoil koil).WellPlaced env w) ∧
    ((Block.asyncWithKoil koil).WellPlaced env w → Kept w after ∧ Sound env after) := by
  have cleared : after.ambient = .nothing := by
    rw [exits]
    exact aexit_koil ended.base
  have ambientLoop : after.ambientLoop = begun.ambientLoop := by
    rw [← body.ambientLoop, exits]
    exact aexit_loop ended.base
  have loop_iff : after.ambientLoop = w.ambientLoop ↔
      ∀ loop, env.running = some loop → w.ambientLoop = .loop loop := by
    rw [ambientLoop, enters]
    exact aenter_loop_iff w.base env.running koil
  have made : begun.base.made = w.base.made := enters ▸ aenter_made w.base env.running koil
  have placed : (Block.asyncWithKoil koil).WellPlaced env w ↔
      w.ambient = .nothing ∧ ∀ loop, env.running = some loop → w.ambientLoop = .loop loop := .rfl
  rw [placed]
  refine ⟨⟨fun good => ⟨good.koil.symm.trans cleared, loop_iff.mp good.koilLoop⟩,
    fun held => ⟨cleared.trans held.1.symm, loop_iff.mpr held.2, ?_⟩⟩, fun held =>
    ⟨⟨cleared.trans held.1.symm, loop_iff.mpr held.2, ?_, fun set => absurd held.1 set⟩, ?_⟩⟩
  · simp [Visit.stops, enters, exits]
  · rw [exits, ← made]
    exact body.made
  · rw [exits]
    exact ⟨soundEnded.unmade, soundEnded.running, soundEnded.uncancelled⟩

/-- A block that was entered is good if and only if it is well placed, where its body has
kept what was ambient. -/
theorem good_entered
    (normal : ∀ loop, w.runsOn env = some loop → block.NormalOn env objects loop)
    (sound : Sound env w)
    (enters : block.enter env objects w = .ok () begun) (exc : Option Exc)
    (exits : after = left (block.exit env objects exc ended)) :
    Sound env begun ∧ (Kept begun ended → Sound env ended →
      ((⟨block, w, begun, true, exc, ended, after⟩ : Visit τ).Good ↔ block.WellPlaced env w) ∧
        (block.WellPlaced env w → Kept w after ∧ Sound env after)) := by
  have allowed : ¬ block.Refuses env w := by
    intro refuses
    obtain ⟨_, _, raised⟩ := refuses_enter objects refuses
    rw [enters] at raised
    cases raised
  cases sync : block.isAsync with
  | true =>
      cases block with
      | asyncWithKoil koil =>
          obtain ⟨_, rfl⟩ := EStateM.Result.ok.inj enters
          refine ⟨⟨?_, ?_, sound.uncancelled⟩, fun body soundEnded =>
            good_async rfl body soundEnded exits⟩
          · simpa using sound.unmade
          · simpa using sound.running
      | withKoil koil => cases sync
      | withKoilable object => cases sync
      | withCm cm => cases sync
  | false =>
      rcases enter_cases normal sound sync with ⟨begun', entered, how⟩ | ⟨_, _, raised, _⟩
      · obtain ⟨_, rfl⟩ := EStateM.Result.ok.inj (enters.symm.trans entered)
        have placed : block.WellPlaced env w ↔ (w.ambient = .nothing ∧ w.ambientLoop = .nothing) ∨
            (w.ambient ≠ .nothing ∧ ∀ koil, block.held w = some koil → w.Idle koil) := by
          simp [Block.WellPlaced, sync, allowed]
        rw [placed]
        cases how with
        | starts koil unset begins held =>
            refine ⟨begins.sound sound, fun body _ => ?_⟩
            have set : begun.ambient ≠ .nothing := by simp [begins.ambient]
            simpa [unset] using
              good_starts (normal _ (runsOn_alone unset)) sound sync unset begins held
                (body.quiet set) exc exits
        | shares set quiet accepted =>
            refine ⟨sound.of_quiet quiet, fun body _ => ?_⟩
            have set' : begun.ambient ≠ .nothing := by rwa [quiet.ambient]
            simpa [set] using
              good_shares (fun loop got => normal loop (runsOn_shared set got)) sound sync quiet
                accepted (body.quiet set') exc exits
      · rw [enters] at raised
        cases raised

end visits

theorem refused_enter {block : Block}
    (normal : ∀ loop, w.runsOn env = some loop → block.NormalOn env objects loop)
    (sound : Sound env w) {begun : World τ} {exc : Exc}
    (raised : block.enter env objects w = .error exc begun) :
    Refused env w begun block := by
  cases sync : block.isAsync with
  | true =>
      cases block with
      | asyncWithKoil koil => cases raised
      | withKoil koil => cases sync
      | withKoilable object => cases sync
      | withCm cm => cases sync
  | false =>
      rcases enter_cases normal sound sync with ⟨_, entered, _⟩ | ⟨_, begun', raised', refused⟩
      · rw [raised] at entered
        cases entered
      · obtain ⟨_, rfl⟩ := EStateM.Result.error.inj (raised.symm.trans raised')
        exact refused

/-- All blocks of the runs are good exactly when they are well placed, and if they are, what
is ambient is kept. -/
structure Runs (env : Env) (w : World τ) (run : Run τ) : Prop where
  good_iff : (∀ visit ∈ run.visits, visit.Good) ↔
    ∀ visit ∈ run.visits, visit.block.WellPlaced env visit.entry
  kept : (∀ visit ∈ run.visits, visit.Good) → Kept w (left run.ended)
  sound : (∀ visit ∈ run.visits, visit.Good) → Sound env (left run.ended)

theorem Runs.of_quiet (sound : Sound env w) {ended : EStateM.Result Exc (World τ) Unit}
    (quiet : Quiet w (left ended)) : Runs env w ⟨ended, []⟩ :=
  ⟨by simp, fun _ => quiet.kept, fun _ => sound.of_quiet quiet⟩

theorem Runs.ending {run : Run τ} (ran : Runs env w run)
    {ended : EStateM.Result Exc (World τ) Unit} (same : left ended = left run.ended) :
    Runs env w ⟨ended, run.visits⟩ :=
  ⟨ran.good_iff, fun good => same ▸ ran.kept good, fun good => same ▸ ran.sound good⟩

theorem Runs.append {first next : Run τ} (ran : Runs env w first)
    (then_ : Sound env (left first.ended) → Runs env (left first.ended) next) :
    Runs env w ⟨next.ended, first.visits ++ next.visits⟩ := by
  refine ⟨?_, fun good => ?_, fun good => ?_⟩
  · simp only [List.forall_mem_append]
    constructor
    · rintro ⟨good, good'⟩
      exact ⟨ran.good_iff.mp good, (then_ (ran.sound good)).good_iff.mp good'⟩
    · rintro ⟨placed, placed'⟩
      have good := ran.good_iff.mpr placed
      exact ⟨good, (then_ (ran.sound good)).good_iff.mpr placed'⟩
  · rw [List.forall_mem_append] at good
    exact (ran.kept good.1).trans ((then_ (ran.sound good.1)).kept good.2)
  · rw [List.forall_mem_append] at good
    exact (then_ (ran.sound good.1)).sound good.2

theorem Runs.refused (sound : Sound env w) {block : Block} {begun : World τ} {exc : Exc}
    (refused : Refused env w begun block) :
    Runs env w ⟨.error exc begun, [⟨block, w, begun, false, none, begun, begun⟩]⟩ := by
  obtain ⟨good_iff, kept⟩ := good_refused sound refused
  refine ⟨by simpa only [List.forall_mem_singleton] using good_iff, fun good => ?_,
    fun good => ?_⟩
  · exact (kept (good_iff.mp (List.forall_mem_singleton.mp good))).1
  · exact (kept (good_iff.mp (List.forall_mem_singleton.mp good))).2

theorem Runs.entered {block : Block}
    (normal : ∀ loop, w.runsOn env = some loop → block.NormalOn env objects loop)
    (sound : Sound env w) {begun : World τ} (enters : block.enter env objects w = .ok () begun)
    {run : Run τ} (body : Sound env begun → Runs env begun run) :
    Runs env w ⟨block.leave env objects run.ended,
      run.visits ++ [⟨block, w, begun, true, thrown run.ended, left run.ended,
        left (block.leave env objects run.ended)⟩]⟩ := by
  obtain ⟨soundBegun, own⟩ := good_entered normal sound enters (thrown run.ended)
    (left_blockLeave env objects block run.ended)
  have ran := body soundBegun
  refine ⟨?_, fun good => ?_, fun good => ?_⟩
  · simp only [List.forall_mem_append, List.forall_mem_singleton]
    constructor
    · rintro ⟨good, last⟩
      exact ⟨ran.good_iff.mp good, (own (ran.kept good) (ran.sound good)).1.mp last⟩
    · rintro ⟨placed, last⟩
      have good := ran.good_iff.mpr placed
      exact ⟨good, (own (ran.kept good) (ran.sound good)).1.mpr last⟩
  · rw [List.forall_mem_append, List.forall_mem_singleton] at good
    obtain ⟨good_iff, kept⟩ := own (ran.kept good.1) (ran.sound good.1)
    exact (kept (good_iff.mp good.2)).1
  · rw [List.forall_mem_append, List.forall_mem_singleton] at good
    obtain ⟨good_iff, kept⟩ := own (ran.kept good.1) (ran.sound good.1)
    exact (kept (good_iff.mp good.2)).2

theorem quiet_checkCancelled (w : World τ) : Quiet w (left (checkCancelled w)) := by
  unfold checkCancelled
  split <;> exact quiet_look w

theorem quiet_sleepPolls (polls : Nat) (w : World τ) : Quiet w (left (sleepPolls polls w)) := by
  induction polls generalizing w with
  | zero =>
      unfold sleepPolls
      split <;> exact quiet_look w
  | succ polls ih =>
      unfold sleepPolls
      split
      · exact quiet_look w
      · exact (quiet_look w).trans (ih w.look)

theorem quiet_sleep (polls : Nat) (w : World τ) : Quiet w (left (sleep env polls w)) := by
  unfold sleep
  split
  · split <;> exact Quiet.refl w
  · exact quiet_sleepPolls polls w

theorem exec_runs (code : Code τ) (tidy : code.Tidy) (w : World τ) (sound : Sound env w)
    (calm : ∀ visit ∈ (code.exec env objects w).visits, visit.Calm env objects) :
    Runs env w (code.exec env objects w) := by
  induction code generalizing w with
  | pass => exact .of_quiet sound (Quiet.refl w)
  | raising exc => exact .of_quiet sound (Quiet.refl w)
  | checkCancelled => exact .of_quiet sound (quiet_checkCancelled w)
  | sleep polls => exact .of_quiet sound (quiet_sleep polls w)
  | unkoil advice coro =>
      exact .of_quiet sound (quiet_unkoil env _ tidy advice w fun _ _ _ => rfl)
  | seq first next ihFirst ihNext =>
      simp only [Code.exec] at calm ⊢
      cases ended : ((first.exec env objects w).ended) with
      | ok _ mid =>
          simp only [ended, List.forall_mem_append] at calm
          refine (ihFirst tidy.1 w sound calm.1).append fun soundMid => ?_
          rw [ended] at soundMid ⊢
          exact ihNext tidy.2 mid soundMid calm.2
      | error exc mid =>
          simp only [ended] at calm
          exact (ihFirst tidy.1 w sound calm).ending (by rw [ended])
  | attempt body handler ihBody ihHandler =>
      simp only [Code.exec] at calm ⊢
      cases ended : ((body.exec env objects w).ended) with
      | ok _ mid =>
          simp only [ended] at calm
          exact (ihBody tidy.1 w sound calm).ending (by rw [ended])
      | error exc mid =>
          simp only [ended, List.forall_mem_append] at calm
          refine (ihBody tidy.1 w sound calm.1).append fun soundMid => ?_
          rw [ended] at soundMid ⊢
          exact ihHandler tidy.2 mid soundMid calm.2
  | within block body ih =>
      simp only [Code.exec] at calm ⊢
      cases entered : block.enter env objects w with
      | ok _ begun =>
          simp only [entered, List.forall_mem_append, List.forall_mem_singleton] at calm
          exact .entered calm.2 sound entered fun soundBegun => ih tidy begun soundBegun calm.1
      | error exc begun =>
          simp only [entered, List.forall_mem_singleton] at calm
          exact .refused sound (refused_enter calm sound entered)

/-- In every run of well-nested blocks whose managers and coroutines leave koil's own variables
alone, all blocks restore what was ambient and stop no loop but their own exactly when every
block of it is well placed. -/
theorem blocks_restore_iff (code : Code τ) (tidy : code.Tidy) (w : World τ) (sound : Sound env w)
    (calm : ∀ visit ∈ (code.exec env objects w).visits, visit.Calm env objects) :
    (∀ visit ∈ (code.exec env objects w).visits, visit.Good) ↔
      ∀ visit ∈ (code.exec env objects w).visits, visit.block.WellPlaced env visit.entry :=
  (exec_runs code tidy w sound calm).good_iff

theorem idleManager_normal (foreign : Bool) : idleManager.Normal foreign where
  enters inside uncut _ := ⟨(), inside, rfl, fun _ _ => rfl, by rw [uncut, Bool.and_false]⟩
  exits _ inside uncut _ := ⟨false, inside, rfl, fun _ _ => rfl, by rw [uncut, Bool.and_false]⟩

theorem idle_calm (env : Env) (visit : Visit Unit) : visit.Calm env idleObjects := by
  intro loop _
  cases visit.block with
  | withKoil koil => trivial
  | asyncWithKoil koil => trivial
  | withKoilable object => exact idleManager_normal _
  | withCm cm => exact idleManager_normal _

def shared : Code Unit :=
  .within (.withKoil 0) (.within (.withKoilable 0) (.within (.withKoil 1) .pass))

theorem blocks_restore_iff_shared :
    (∀ visit ∈ (shared.exec plainThread idleObjects (.fresh 2 ())).visits, visit.Good) ↔
      ∀ visit ∈ (shared.exec plainThread idleObjects (.fresh 2 ())).visits,
        visit.block.WellPlaced plainThread visit.entry :=
  blocks_restore_iff shared trivial (.fresh 2 ()) ⟨fun _ _ => rfl, nofun, fun _ => rfl⟩
    fun visit _ => idle_calm plainThread visit

def reused : Code Unit := .within (.withKoil 0) (.within (.withKoil 0) .pass)

/-- The inner block stops the loop of the outer one, and nothing is ambient any more. -/
theorem reused_koil_stops_loop :
    ∃ visit ∈ (reused.exec plainThread idleObjects (.fresh 1 ())).visits,
      visit.entry.ambient = .koil 0 ∧ visit.after.ambient = .nothing ∧
        visit.entry.ambientLoop = .loop 0 ∧ visit.after.ambientLoop = .nothing ∧
        visit.stops = [0] ∧ visit.entry.base.made = 1 ∧ ¬ visit.Good := by
  refine ⟨_, List.mem_cons_self, rfl, rfl, rfl, rfl, rfl, rfl, fun good => ?_⟩
  cases good.koil

end Koil.Managers
