import Koil.Contexts
import Koil.Timed
import Mathlib.Algebra.Order.Group.Int
import Mathlib.Tactic.Simps.Basic

/-! `koil.bridge.sleep` in time: the sleeping thread, its timer on the koil loop, and the
cancel event it polls, with threads and a loop that act as soon as something is due. -/

namespace Koil.Sleeping

open Contexts Runs Timed

variable {τ : Type} [AddCommGroup τ] [LinearOrder τ]

/-- A call of `sleep(seconds, event_wait_time)`: the context and the running loop of its
thread, and by how much timers of the loop may be early. -/
structure Call (τ : Type) [AddCommGroup τ] [LinearOrder τ] where
  context : Context
  running : Option Nat
  syncInAsync : Nat → Bool
  begun : τ
  seconds : τ
  eventWaitTime : τ
  resolution : τ
  polls : 0 < eventWaitTime
  resolution_nonneg : 0 ≤ resolution

/-- `current_cancel_event.get()` is not None. -/
def Call.hasCancelEvent (call : Call τ) : Bool :=
  match call.context.getD .currentCancelEvent with
  | .event _ => true
  | _ => false

def Call.fallsBack (call : Call τ) : Bool :=
  match call.context.getKoiledLoopOrRaise call.running call.syncInAsync (fun _ => false) "" with
  | .ok _ => false
  | .error exc => exc.isA .koilError

/-- `slept` is the end of that `time.sleep`. -/
inductive Outcome
  | returned
  | slept
  | cancelled
  | raised (exc : Exc)
  deriving DecidableEq, Repr

/-- Where the thread is: before its first look for a loop, before its request to the loop,
in `time.sleep`, at the test of the `while`, in `event.wait`, before the look at the cancel
event. -/
inductive Stage
  | entering
  | requesting
  | sleeping
  | testing
  | waiting
  | checking
  | finished (outcome : Outcome)
  deriving DecidableEq, Repr

/-- The timer: its `call_later` still is among the loop's callbacks, or is done. -/
inductive Timer (τ : Type)
  | absent
  | requested
  | scheduled (at_ : τ)
  | fired

/-- `since` is when the thread came to its stage, `cancelled` when the cancel event was set. -/
structure State (τ : Type) where
  stage : Stage
  since : τ
  timer : Timer τ
  isOpen : Bool
  cancelled : Option τ

def Call.start (call : Call τ) : State τ := ⟨.entering, call.begun, .absent, true, none⟩

inductive Label
  | enter
  | request
  | sleepEnds
  | test
  | waitEnds
  | check
  | callLater
  | timerFires
  | cancel
  | close
  deriving DecidableEq, Repr

@[simps] def State.goto (s : State τ) (now : τ) (stage : Stage) : State τ :=
  { s with stage := stage, since := now }

def Timer.isSet : Timer τ → Bool
  | .fired => true
  | _ => false

/-- `get_koiled_loop_or_raise()`, and `time.sleep` where there is no koil context. -/
def Call.enter (call : Call τ) (now : τ) (s : State τ) : State τ :=
  match call.context.getKoiledLoopOrRaise call.running call.syncInAsync (fun _ => !s.isOpen) "" with
  | .ok _ => s.goto now .requesting
  | .error exc =>
      if exc.isA .koilError then
        if call.seconds < 0 then
          s.goto now (.finished (.raised (.of .valueError "sleep length must be non-negative")))
        else s.goto now .sleeping
      else s.goto now (.finished (.raised exc))

def Call.step (call : Call τ) (now : τ) (s : State τ) : Label → Option (State τ)
  | .enter => if s.stage = .entering then some (call.enter now s) else none
  | .request =>
      if s.stage = .requesting then
        if s.isOpen then some { s.goto now .testing with timer := .requested }
        else some (s.goto now (.finished (.raised (.of .runtimeError "Event loop is closed"))))
      else none
  | .sleepEnds =>
      if s.stage = .sleeping ∧ s.since + call.seconds ≤ now then
        some (s.goto now (.finished .slept))
      else none
  | .test =>
      if s.stage = .testing then
        some (s.goto now (if s.timer.isSet then .finished .returned else .waiting))
      else none
  | .waitEnds =>
      if s.stage = .waiting ∧ (s.timer.isSet = true ∨ s.since + call.eventWaitTime ≤ now) then
        some (s.goto now .checking)
      else none
  | .check =>
      if s.stage = .checking then
        some (s.goto now (if s.cancelled.isSome then .finished .cancelled else .testing))
      else none
  | .callLater =>
      match s.timer with
      | .requested => if s.isOpen then some { s with timer := .scheduled now } else none
      | _ => none
  | .timerFires =>
      match s.timer with
      | .scheduled at_ =>
          if s.isOpen = true ∧ at_ + call.seconds ≤ now + call.resolution then
            some { s with timer := .fired }
          else none
      | _ => none
  | .cancel =>
      if call.hasCancelEvent = true ∧ s.cancelled.isNone = true then
        some { s with cancelled := some now }
      else none
  | .close => if s.isOpen then some { s with isOpen := false } else none

/-- What the loop has to do for the sleep, as long as it runs. -/
def Call.loopDue (call : Call τ) (now : τ) (s : State τ) : Option τ :=
  if s.isOpen then
    match s.timer with
    | .requested => some now
    | .scheduled at_ => some (at_ + max call.seconds 0)
    | _ => none
  else none

def Call.threadDue (call : Call τ) (now : τ) (s : State τ) : Option τ :=
  match s.stage with
  | .entering | .requesting | .testing | .checking => some now
  | .sleeping => some (s.since + call.seconds)
  | .waiting => if s.timer.isSet then some now else some (s.since + call.eventWaitTime)
  | .finished _ => none

def Call.latest (call : Call τ) (now : τ) (s : State τ) : Option τ :=
  earliest (call.threadDue now s) (call.loopDue now s)

def Call.system (call : Call τ) : System (State τ) Label τ := ⟨call.step, call.latest⟩

/-- What the end of a sleep says of the time, of its event, and of whether it had a loop to
sleep on. -/
def Supported (call : Call τ) (s : State τ) : Outcome → Prop
  | .returned =>
      call.fallsBack = false ∧ call.begun + call.seconds ≤ s.since + call.resolution ∧
        ∀ set, s.cancelled = some set → s.since ≤ set
  | .slept => call.fallsBack = true ∧ s.since = call.begun + call.seconds
  | .cancelled => call.fallsBack = false ∧ ∃ set, s.cancelled = some set ∧ set ≤ s.since
  | .raised _ => if call.fallsBack then call.seconds < 0 else s.isOpen = false

/-- The timer was set when the sleep began, and it fires in time on a loop that runs. -/
def InTime (call : Call τ) (now : τ) (s : State τ) : Prop :=
  match s.timer with
  | .absent => False
  | .requested => s.isOpen = true → now = call.begun
  | .scheduled at_ =>
      at_ = call.begun ∧ (s.isOpen = true → now ≤ call.begun + max call.seconds 0)
  | .fired =>
      call.begun + call.seconds ≤ now + call.resolution ∧ now ≤ call.begun + max call.seconds 0

def StageInv (call : Call τ) (now : τ) (s : State τ) : Prop :=
  match s.stage with
  | .entering =>
      now = call.begun ∧ s.timer = .absent ∧ ∀ set, s.cancelled = some set → now ≤ set
  | .requesting =>
      call.fallsBack = false ∧ now = call.begun ∧ s.timer = .absent ∧
        ∀ set, s.cancelled = some set → now ≤ set
  | .sleeping =>
      call.fallsBack = true ∧ s.since = call.begun ∧ 0 ≤ call.seconds ∧
        now ≤ call.begun + call.seconds ∧ s.timer = .absent
  | .testing =>
      call.fallsBack = false ∧ InTime call now s ∧ ∀ set, s.cancelled = some set → now ≤ set
  | .waiting =>
      call.fallsBack = false ∧ InTime call now s ∧ now ≤ s.since + call.eventWaitTime ∧
        ∀ set, s.cancelled = some set → s.since ≤ set
  | .checking =>
      call.fallsBack = false ∧ InTime call now s ∧
        ∀ set, s.cancelled = some set → now ≤ set + call.eventWaitTime
  | .finished outcome => Supported call s outcome

structure Inv (call : Call τ) (now : τ) (s : State τ) : Prop where
  since : s.since ≤ now
  past : ∀ set, s.cancelled = some set → set ≤ now
  stage : StageInv call now s

variable {call : Call τ} {now : τ} {s s' : State τ}

theorem getKoiledLoopOrRaise_open (ctx : Context) (running : Option Nat)
    (syncInAsync closed : Nat → Bool) (advice : String) :
    (∃ loop, ctx.getKoiledLoopOrRaise running syncInAsync closed advice = .ok loop ∧
      ctx.getKoiledLoopOrRaise running syncInAsync (fun _ => false) advice = .ok loop) ∨
    (∃ loop, closed loop = true ∧
      ctx.getKoiledLoopOrRaise running syncInAsync closed advice =
        .error (.of .runtimeError "Loop is not running") ∧
      ctx.getKoiledLoopOrRaise running syncInAsync (fun _ => false) advice = .ok loop) ∨
    ∃ exc, exc.isA .koilError = true ∧
      ctx.getKoiledLoopOrRaise running syncInAsync closed advice = .error exc ∧
      ctx.getKoiledLoopOrRaise running syncInAsync (fun _ => false) advice = .error exc := by
  unfold Context.getKoiledLoopOrRaise
  split
  · next _ _ loop _ =>
      cases isClosed : closed loop with
      | true => exact .inr (.inl ⟨loop, isClosed, rfl, rfl⟩)
      | false => exact .inl ⟨loop, rfl, rfl⟩
  · next _ _ loop runningLoop _ =>
      by_cases same : loop = runningLoop
      · rw [if_pos same, if_pos same]
        exact .inr (.inr ⟨_, rfl, rfl, rfl⟩)
      · rw [if_neg same, if_neg same]
        by_cases forbidden : ctx.allowsSyncInAsync syncInAsync = false
        · rw [if_pos forbidden, if_pos forbidden]
          exact .inr (.inr ⟨_, rfl, rfl, rfl⟩)
        · rw [if_neg forbidden, if_neg forbidden]
          cases isClosed : closed loop with
          | true => exact .inr (.inl ⟨loop, isClosed, rfl, rfl⟩)
          | false => exact .inl ⟨loop, rfl, rfl⟩
  · exact .inr (.inr ⟨_, rfl, rfl, rfl⟩)
  · exact .inr (.inr ⟨_, rfl, rfl, rfl⟩)

theorem enter_cases (call : Call τ) (now : τ) (s : State τ) :
    (call.fallsBack = false ∧ call.enter now s = s.goto now .requesting) ∨
    (call.fallsBack = false ∧ s.isOpen = false ∧
      ∃ exc, call.enter now s = s.goto now (.finished (.raised exc))) ∨
    (call.fallsBack = true ∧
      call.enter now s =
        if call.seconds < 0 then
          s.goto now (.finished (.raised (.of .valueError "sleep length must be non-negative")))
        else s.goto now .sleeping) := by
  unfold Call.enter Call.fallsBack
  rcases getKoiledLoopOrRaise_open call.context call.running call.syncInAsync
    (fun _ => !s.isOpen) "" with
    ⟨loop, found, same⟩ | ⟨loop, isClosed, failed, same⟩ | ⟨exc, refused, failed, same⟩
  · rw [found, same]
    exact .inl ⟨rfl, rfl⟩
  · rw [failed, same]
    exact .inr (.inl ⟨rfl, by simpa using isClosed, _, rfl⟩)
  · rw [failed, same]
    exact .inr (.inr ⟨refused, by simp only [refused, if_true]⟩)

theorem inv_timer {timer : Timer τ} (held : Inv call now s) (there : s.timer ≠ .absent)
    (inTime : InTime call now s → InTime call now { s with timer := timer }) :
    Inv call now { s with timer := timer } := by
  have stageHeld := held.stage
  refine ⟨held.since, held.past, ?_⟩
  unfold StageInv at stageHeld ⊢
  dsimp only
  cases stage : s.stage with
  | entering =>
      rw [stage] at stageHeld
      exact absurd stageHeld.2.1 there
  | requesting =>
      rw [stage] at stageHeld
      exact absurd stageHeld.2.2.1 there
  | sleeping =>
      rw [stage] at stageHeld
      exact absurd stageHeld.2.2.2.2 there
  | testing | waiting | checking =>
      rw [stage] at stageHeld
      exact ⟨stageHeld.1, inTime stageHeld.2.1, stageHeld.2.2⟩
  | finished outcome =>
      rw [stage] at stageHeld
      exact stageHeld

theorem inv_close (held : Inv call now s) : Inv call now { s with isOpen := false } := by
  have stageHeld := held.stage
  have inTime : InTime call now s → InTime call now { s with isOpen := false } := by
    unfold InTime
    dsimp only
    cases s.timer with
    | absent | fired => exact id
    | requested => simp
    | scheduled at_ => exact fun kept => ⟨kept.1, by simp⟩
  refine ⟨held.since, held.past, ?_⟩
  unfold StageInv at stageHeld ⊢
  dsimp only
  cases stage : s.stage with
  | entering | requesting | sleeping =>
      rw [stage] at stageHeld
      exact stageHeld
  | testing | waiting | checking =>
      rw [stage] at stageHeld
      exact ⟨stageHeld.1, inTime stageHeld.2.1, stageHeld.2.2⟩
  | finished outcome =>
      rw [stage] at stageHeld
      cases outcome with
      | raised exc =>
          cases falls : call.fallsBack with
          | true => simpa [Supported, falls] using stageHeld
          | false => simp [Supported, falls]
      | returned | slept | cancelled => exact stageHeld

theorem inv_timerFires (held : Inv call now s) (taken : call.step now s .timerFires = some s') :
    Inv call now s' := by
  simp only [Call.step] at taken
  split at taken
  · next at_ scheduled =>
      obtain ⟨⟨isOpen, due⟩, moved⟩ := Option.ite_none_right_eq_some.mp taken
      cases moved
      apply inv_timer held (by simp [scheduled])
      intro inTime
      simp only [InTime, scheduled] at inTime
      obtain ⟨rfl, late⟩ := inTime
      exact ⟨due, late isOpen⟩
  · cases taken

theorem inv_start : Inv call call.begun call.start :=
  ⟨le_refl _, by simp [Call.start], rfl, rfl, by simp [Call.start]⟩

variable [IsOrderedAddMonoid τ]

theorem inv_enter (held : Inv call now s) (entering : s.stage = .entering) :
    Inv call now (call.enter now s) := by
  obtain ⟨same, quiet, early⟩ : now = call.begun ∧ s.timer = .absent ∧
      ∀ set, s.cancelled = some set → now ≤ set := by
    simpa only [StageInv, entering] using held.stage
  rcases enter_cases call now s with
    ⟨found, enters⟩ | ⟨found, isClosed, exc, enters⟩ | ⟨falls, enters⟩
  · rw [enters]
    exact ⟨le_refl now, held.past, found, same, quiet, early⟩
  · rw [enters]
    exact ⟨le_refl now, held.past, by simp [StageInv, State.goto, Supported, found, isClosed]⟩
  · rw [enters]
    split
    · next negative =>
        exact ⟨le_refl now, held.past, by simp [StageInv, State.goto, Supported, falls, negative]⟩
    · next forward =>
        have nonneg : 0 ≤ call.seconds := not_lt.mp forward
        have inTime : now ≤ call.begun + call.seconds :=
          same.le.trans (le_add_of_nonneg_right nonneg)
        exact ⟨le_refl now, held.past, falls, same, nonneg, inTime, quiet⟩

theorem inv_cancel (held : Inv call now s) (unset : s.cancelled = none) :
    Inv call now { s with cancelled := some now } := by
  have stageHeld := held.stage
  refine ⟨held.since, ?_, ?_⟩
  · rintro set ⟨⟩
    exact le_refl now
  · unfold StageInv at stageHeld ⊢
    dsimp only
    cases stage : s.stage with
    | entering =>
        rw [stage] at stageHeld
        exact ⟨stageHeld.1, stageHeld.2.1, by simp⟩
    | requesting =>
        rw [stage] at stageHeld
        exact ⟨stageHeld.1, stageHeld.2.1, stageHeld.2.2.1, by simp⟩
    | sleeping =>
        rw [stage] at stageHeld
        exact stageHeld
    | testing =>
        rw [stage] at stageHeld
        exact ⟨stageHeld.1, stageHeld.2.1, by simp⟩
    | waiting =>
        rw [stage] at stageHeld
        exact ⟨stageHeld.1, stageHeld.2.1, stageHeld.2.2.1, by simpa using held.since⟩
    | checking =>
        rw [stage] at stageHeld
        have late : now ≤ now + call.eventWaitTime := le_add_of_nonneg_right call.polls.le
        exact ⟨stageHeld.1, stageHeld.2.1, by simpa using late⟩
    | finished outcome =>
        rw [stage] at stageHeld
        cases outcome with
        | returned => exact ⟨stageHeld.1, stageHeld.2.1, by simpa using held.since⟩
        | cancelled =>
            obtain ⟨_, set, same, _⟩ := stageHeld
            rw [unset] at same
            cases same
        | slept | raised exc => exact stageHeld

theorem inv_callLater (held : Inv call now s) (taken : call.step now s .callLater = some s') :
    Inv call now s' := by
  simp only [Call.step] at taken
  split at taken
  · next requested =>
      obtain ⟨isOpen, moved⟩ := Option.ite_none_right_eq_some.mp taken
      cases moved
      apply inv_timer held (by simp [requested])
      intro inTime
      simp only [InTime, requested] at inTime
      have same : now = call.begun := inTime isOpen
      refine ⟨same, fun _ => ?_⟩
      rw [same]
      exact le_add_of_nonneg_right (le_max_right _ _)
  · cases taken

theorem inv_step {label : Label} (held : Inv call now s)
    (taken : call.step now s label = some s') : Inv call now s' := by
  have stageHeld := held.stage
  unfold StageInv at stageHeld
  cases label with
  | enter =>
      obtain ⟨entering, moved⟩ := Option.ite_none_right_eq_some.mp taken
      cases moved
      exact inv_enter held entering
  | request =>
      obtain ⟨requesting, moved⟩ := Option.ite_none_right_eq_some.mp taken
      rw [requesting] at stageHeld
      split at moved
      · cases moved
        obtain ⟨found, same, _, early⟩ := stageHeld
        exact ⟨le_refl now, held.past, found, fun _ => same, early⟩
      · next isClosed =>
          cases moved
          refine ⟨le_refl now, held.past, ?_⟩
          simpa [StageInv, State.goto, Supported, stageHeld.1] using isClosed
  | sleepEnds =>
      obtain ⟨⟨sleeping, ended⟩, moved⟩ := Option.ite_none_right_eq_some.mp taken
      cases moved
      rw [sleeping] at stageHeld
      obtain ⟨falls, since, _, inTime, _⟩ := stageHeld
      rw [since] at ended
      exact ⟨le_refl now, held.past, falls, le_antisymm inTime ended⟩
  | test =>
      obtain ⟨testing, moved⟩ := Option.ite_none_right_eq_some.mp taken
      cases moved
      rw [testing] at stageHeld
      obtain ⟨found, inTime, early⟩ := stageHeld
      refine ⟨le_refl now, held.past, ?_⟩
      cases timer : s.timer with
      | fired =>
          simp only [InTime, timer] at inTime
          exact ⟨found, inTime.1, early⟩
      | absent => simp [InTime, timer] at inTime
      | requested | scheduled at_ =>
          exact ⟨found, by simpa [InTime, timer] using inTime,
            le_add_of_nonneg_right call.polls.le, early⟩
  | waitEnds =>
      obtain ⟨⟨waiting, _⟩, moved⟩ := Option.ite_none_right_eq_some.mp taken
      cases moved
      rw [waiting] at stageHeld
      obtain ⟨found, inTime, late, early⟩ := stageHeld
      refine ⟨le_refl now, held.past, found, inTime, ?_⟩
      intro set same
      exact late.trans (add_le_add_left (early set same) _)
  | check =>
      obtain ⟨checking, moved⟩ := Option.ite_none_right_eq_some.mp taken
      cases moved
      rw [checking] at stageHeld
      obtain ⟨found, inTime, early⟩ := stageHeld
      refine ⟨le_refl now, held.past, ?_⟩
      cases cancelled : s.cancelled with
      | none => exact ⟨found, inTime, by simp [cancelled]⟩
      | some set => exact ⟨found, set, cancelled, held.past set cancelled⟩
  | callLater => exact inv_callLater held taken
  | timerFires => exact inv_timerFires held taken
  | cancel =>
      obtain ⟨⟨_, unset⟩, moved⟩ := Option.ite_none_right_eq_some.mp taken
      cases moved
      exact inv_cancel held (by simpa using unset)
  | close =>
      obtain ⟨_, moved⟩ := Option.ite_none_right_eq_some.mp taken
      cases moved
      exact inv_close held

theorem inTime_elapse {duration : τ} (held : InTime call now s) (unset : s.timer.isSet = false)
    (forward : 0 ≤ duration) (due : ∀ limit ∈ call.loopDue now s, now + duration ≤ limit) :
    InTime call (now + duration) s := by
  unfold InTime at held ⊢
  unfold Call.loopDue at due
  cases timer : s.timer with
  | absent => simp [timer] at held
  | requested =>
      rw [timer] at held
      intro isOpen
      have still : now + duration ≤ now := due now (by simp [isOpen, timer])
      have none : duration = 0 := le_antisymm (by simpa using still) forward
      simpa [none] using held isOpen
  | scheduled at_ =>
      rw [timer] at held
      obtain ⟨rfl, _⟩ := held
      exact ⟨rfl, fun isOpen => due _ (by simp [isOpen, timer])⟩
  | fired => simp [timer, Timer.isSet] at unset

theorem inv_elapse {duration : τ} (held : Inv call now s) (forward : 0 ≤ duration)
    (inTime : ∀ limit ∈ call.latest now s, now + duration ≤ limit) :
    Inv call (now + duration) s := by
  obtain ⟨threadDue, loopDue⟩ := le_earliest_iff.mp inTime
  by_cases due : call.threadDue now s = some now
  · have still : now + duration ≤ now := threadDue now due
    have none : duration = 0 := le_antisymm (by simpa using still) forward
    simpa [none] using held
  · have later : now ≤ now + duration := le_add_of_nonneg_right forward
    refine ⟨held.since.trans later, fun set same => (held.past set same).trans later, ?_⟩
    have stageHeld := held.stage
    unfold StageInv at stageHeld ⊢
    unfold Call.threadDue at due threadDue
    cases stage : s.stage with
    | entering | requesting | testing | checking => simp [stage] at due
    | sleeping =>
        rw [stage] at stageHeld threadDue
        obtain ⟨falls, since, nonneg, _, quiet⟩ := stageHeld
        rw [since] at threadDue
        exact ⟨falls, since, nonneg, threadDue _ rfl, quiet⟩
    | waiting =>
        rw [stage] at stageHeld threadDue
        have unset : s.timer.isSet = false := by
          by_contra isSet
          simp [stage, isSet] at due
        exact ⟨stageHeld.1, inTime_elapse stageHeld.2.1 unset forward loopDue,
          threadDue _ (by simp [unset]), stageHeld.2.2.2⟩
    | finished outcome =>
        rw [stage] at stageHeld
        exact stageHeld

theorem inv_run (run : call.system.Runs call.begun call.start now s) : Inv call now s :=
  run.invariant inv_start (fun _ _ _ _ held taken => inv_step held taken)
    (fun _ _ _ held forward inTime => inv_elapse held forward inTime)

theorem loop_acts (held : InTime call now s) {limit : τ} (due : limit ∈ call.loopDue now s)
    (late : limit ≤ now) : ∃ label, (call.step now s label).isSome = true := by
  unfold Call.loopDue at due
  split at due
  · next isOpen =>
      cases timer : s.timer with
      | absent => simp [InTime, timer] at held
      | requested => exact ⟨.callLater, by simp [Call.step, timer, isOpen]⟩
      | scheduled at_ =>
          simp only [timer, Option.mem_def, Option.some.injEq] at due
          subst due
          have passed : at_ + call.seconds ≤ now :=
            (add_le_add_right (le_max_left _ _) at_).trans late
          have fires : at_ + call.seconds ≤ now + call.resolution :=
            passed.trans (le_add_of_nonneg_right call.resolution_nonneg)
          exact ⟨.timerFires, by simp [Call.step, timer, isOpen, fires]⟩
      | fired => simp [timer] at due
  · cases due

theorem free_of_inv (held : Inv call now s) (asleep : ∀ outcome, s.stage ≠ .finished outcome) :
    call.system.Free now s := by
  have acts : ∀ label, (call.step now s label).isSome = true → call.system.Free now s :=
    fun label possible => .inl ⟨label, possible⟩
  have stageHeld := held.stage
  unfold StageInv at stageHeld
  cases stage : s.stage with
  | entering => exact acts .enter (by simp [Call.step, stage])
  | requesting =>
      apply acts .request
      simp only [Call.step, stage, if_true]
      split <;> rfl
  | testing => exact acts .test (by simp [Call.step, stage])
  | checking => exact acts .check (by simp [Call.step, stage])
  | sleeping =>
      rw [stage] at stageHeld
      obtain ⟨_, since, _, _, quiet⟩ := stageHeld
      by_cases early : now < s.since + call.seconds
      · right
        simpa [Call.system, Call.latest, earliest, Call.threadDue, Call.loopDue, stage, quiet]
          using early
      · exact acts .sleepEnds (by simpa [Call.step, stage] using early)
  | waiting =>
      rw [stage] at stageHeld
      by_cases isSet : s.timer.isSet = true
      · exact acts .waitEnds (by simp [Call.step, stage, isSet])
      · by_cases early : now < s.since + call.eventWaitTime
        · by_cases due : ∃ limit ∈ call.loopDue now s, limit ≤ now
          · obtain ⟨limit, isDue, late⟩ := due
            exact .inl (loop_acts stageHeld.2.1 isDue late)
          · right
            refine lt_earliest_iff.mpr ⟨?_, ?_⟩
            · simpa [Call.threadDue, stage, isSet] using early
            · intro limit isDue
              by_contra late
              exact due ⟨limit, isDue, not_lt.mp late⟩
        · exact acts .waitEnds (by simp [Call.step, stage, not_lt.mp early])
  | finished outcome => exact absurd stage (asleep outcome)

theorem bound_of_inTime (held : InTime call now s)
    (live : s.isOpen = true ∨ s.timer.isSet = true) :
    now ≤ call.begun + max call.seconds 0 := by
  unfold InTime at held
  cases timer : s.timer with
  | absent => simp [timer] at held
  | requested =>
      simp only [timer, Timer.isSet, Bool.false_eq_true, or_false] at held live
      exact (held live).le.trans (le_add_of_nonneg_right (le_max_right _ _))
  | scheduled at_ =>
      simp only [timer, Timer.isSet, Bool.false_eq_true, or_false] at held live
      exact held.2 live
  | fired =>
      rw [timer] at held
      exact held.2

theorem bound_of_inv (held : Inv call now s) (asleep : ∀ outcome, s.stage ≠ .finished outcome)
    (live : s.isOpen = true ∨ s.timer.isSet = true ∨ call.fallsBack = true) :
    now ≤ call.begun + max call.seconds 0 := by
  have stageHeld := held.stage
  unfold StageInv at stageHeld
  cases stage : s.stage with
  | entering =>
      rw [stage] at stageHeld
      exact stageHeld.1.le.trans (le_add_of_nonneg_right (le_max_right _ _))
  | requesting =>
      rw [stage] at stageHeld
      exact stageHeld.2.1.le.trans (le_add_of_nonneg_right (le_max_right _ _))
  | sleeping =>
      rw [stage] at stageHeld
      exact stageHeld.2.2.2.1.trans (add_le_add_right (le_max_left _ _) _)
  | testing | waiting | checking =>
      rw [stage] at stageHeld
      exact bound_of_inTime stageHeld.2.1 (by simpa [stageHeld.1] using live)
  | finished outcome => exact absurd stage (asleep outcome)

theorem answer_of_inv (held : Inv call now s) (asleep : ∀ outcome, s.stage ≠ .finished outcome)
    (found : call.fallsBack = false) {set : τ} (same : s.cancelled = some set) :
    now ≤ set + call.eventWaitTime := by
  have later : set ≤ set + call.eventWaitTime := le_add_of_nonneg_right call.polls.le
  have stageHeld := held.stage
  unfold StageInv at stageHeld
  cases stage : s.stage with
  | entering =>
      rw [stage] at stageHeld
      exact (stageHeld.2.2 set same).trans later
  | requesting =>
      rw [stage] at stageHeld
      exact (stageHeld.2.2.2 set same).trans later
  | sleeping =>
      rw [stage, found] at stageHeld
      cases stageHeld.1
  | testing =>
      rw [stage] at stageHeld
      exact (stageHeld.2.2 set same).trans later
  | waiting =>
      rw [stage] at stageHeld
      exact stageHeld.2.2.1.trans (add_le_add_left (stageHeld.2.2.2 set same) _)
  | checking =>
      rw [stage] at stageHeld
      exact stageHeld.2.2 set same
  | finished outcome => exact absurd stage (asleep outcome)

/-- A sleep does not return before its time, and where it has a loop to sleep on it is
interrupted only with its event set, and returns normally only if the event was not set
before its last moment. Until it is over, time can go on or somebody has a step to take; it
is over within its time on a loop that runs and in the `time.sleep` without a loop. A set
event ends it within one `event_wait_time`, but for that `time.sleep`, which takes its time
whatever the event does. -/
theorem sleep_in_time (run : call.system.Runs call.begun call.start now s) :
    (∀ outcome, s.stage = .finished outcome → Supported call s outcome) ∧
      ((∀ outcome, s.stage ≠ .finished outcome) →
        call.system.Free now s ∧
          (s.isOpen = true ∨ s.timer.isSet = true ∨ call.fallsBack = true →
            now ≤ call.begun + max call.seconds 0) ∧
          (call.fallsBack = false → ∀ set, s.cancelled = some set →
            now ≤ set + call.eventWaitTime)) := by
  have held : Inv call now s := inv_run run
  constructor
  · intro outcome finished
    have stageHeld := held.stage
    unfold StageInv at stageHeld
    rw [finished] at stageHeld
    exact stageHeld
  · intro asleep
    exact ⟨free_of_inv held asleep, bound_of_inv held asleep,
      fun found set same => answer_of_inv held asleep found same⟩

def nap : Call Int where
  context := Context.empty.forWorker 1 1
  running := none
  syncInAsync := fun _ => true
  begun := 0
  seconds := 10
  eventWaitTime := 3
  resolution := 0
  polls := by decide
  resolution_nonneg := by decide

def napActions : List (Action Label Int) :=
  [.act .enter, .act .request, .act .test, .act .callLater, .elapse 3, .act .waitEnds, .act .check,
    .act .test, .elapse 1, .act .cancel, .elapse 2]

def napping : State Int := ⟨.waiting, 3, .scheduled 0, true, some 4⟩

theorem sleep_in_time_nap : (6 : Int) ≤ 0 + max 10 0 ∧ (6 : Int) ≤ 4 + 3 := by
  have run : nap.system.Runs nap.begun nap.start 6 napping :=
    ⟨_, Reaches.start.follow napActions rfl⟩
  obtain ⟨_, bounds⟩ := sleep_in_time run
  obtain ⟨_, inTime, answers⟩ := bounds (by simp [napping])
  exact ⟨inTime (.inl rfl), answers rfl 4 rfl⟩

end Koil.Sleeping
