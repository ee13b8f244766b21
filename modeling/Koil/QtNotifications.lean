import Koil.QtGeneratorSteps
import Koil.SingleAssignment

namespace Koil

open QtCalls Runs

def QtCalls.Reason.exception : Reason → Option Exc
  | .slot => none
  | .cancelled => some cancelledError
  | .timedOut => some timeoutError
  | .closed => some (.of .generatorExit "")

namespace QtFutures

variable {α : Type} {setup : Setup} {s s' : State α} {history : List (State α × Label α)}

/-- The future is marked, the wrapper has emitted `cancelled` once, and the exception that
ended the call comes out of it. -/
def State.Learns (s : State α) (reason : Reason) (outcome : Except Exc α) : Prop :=
  s.iscancelled = true ∧ s.emitted = 1 ∧
    ∃ exc, reason.exception = some exc ∧ outcome = .error exc

variable [Signals]

theorem unmarked_run (run : Reaches (step setup) start history s) : s.iscancelled = false :=
  (advances_run run).1.untold.1

theorem never_learns (run : Reaches (step setup) start history s) (reason : Reason)
    (outcome : Except Exc α) : ¬ s.Learns reason outcome := by
  rintro ⟨marked, _⟩
  rw [unmarked_run run] at marked
  cases marked

end QtFutures

namespace QtGenerators

variable {α : Type} {setup : Setup} {s s' : State α} {history : List (State α × Label α)}

def State.Learns (s : State α) (reason : Reason) (outcome : Option Exc) : Prop :=
  s.iscancelled = true ∧ s.emitted = 1 ∧ ∃ exc, reason.exception = some exc ∧ outcome = some exc

structure Running (s : State α) : Prop where
  unmarked : s.iscancelled = false
  untold : s.emitted = 0
  running : ∀ reason outcome, s.stage ≠ .ended reason outcome

def State.Reported (s : State α) (reason : Reason) (outcome : Option Exc) : Prop :=
  reason = .slot ∨ outcome = reason.exception ∧
    s.iscancelled = (reason == .cancelled) ∧ s.emitted = if reason = .cancelled then 1 else 0

def Told (s : State α) : Prop :=
  Running s ∨ ∃ reason outcome, s.stage = .ended reason outcome ∧ s.Reported reason outcome

theorem running_of_unchanged (held : Running s) (same : Unchanged s s') : Running s' :=
  ⟨same.iscancelled.trans held.unmarked, same.emitted.trans held.untold,
    fun reason outcome => same.stage ▸ held.running reason outcome⟩

theorem running_goto (held : Running s) {stage : Stage}
    (open' : ∀ reason outcome, stage ≠ .ended reason outcome) : Running (s.goto stage) :=
  ⟨held.unmarked, held.untold, open'⟩

theorem running_push (held : Running s) (callback : Callback α) : Running (s.push callback) :=
  ⟨held.unmarked, held.untold, held.running⟩

theorem running_cancelInner (held : Running s) : Running s.cancelInner := by
  unfold State.cancelInner
  split
  · exact ⟨held.unmarked, held.untold, held.running⟩
  · exact ⟨held.unmarked, held.untold, held.running⟩
  · exact ⟨held.unmarked, held.untold, held.running⟩
  · exact held

theorem running_stop (held : Running s) (cause : Cause) : Running (s.stop cause) :=
  running_cancelInner (running_goto held (by simp))

theorem running_release (held : Running s) : Running s.release := by
  unfold State.release
  split
  · apply running_push
    exact running_goto held (by simp)
  · apply running_push
    exact running_goto held (by simp)
  · exact held

theorem running_interrupt (held : Running s) : Running s.interrupt := by
  unfold State.interrupt
  split
  · exact ⟨held.unmarked, held.untold, held.running⟩
  · exact ⟨held.unmarked, held.untold, held.running⟩
  · apply running_push
    exact running_goto held (by simp)
  · exact running_goto held (by simp)
  · apply running_push
    exact running_goto held (by simp)
  · exact running_goto held (by simp)
  · exact held

theorem told_interrupt (held : Told s) (thrown : Bool) :
    Told (if thrown then s.interrupt else s) := by
  cases thrown with
  | false => exact held
  | true =>
      rcases held with running | ⟨reason, outcome, ended, reported⟩
      · exact .inl (running_interrupt running)
      · simp only [State.interrupt, ended]
        exact .inr ⟨reason, outcome, ended, reported⟩

variable [Signals]

theorem told_slot (held : Running s) (waited : Item α) : Told (s.deliver .slot waited) := by
  cases waited with
  | ok result =>
      have received : Running (((s.setGetter .absent).setInner .absent).receive result) :=
        ⟨held.unmarked, held.untold, held.running⟩
      exact .inl (running_goto received (by simp))
  | error exc =>
      unfold State.deliver
      simp only
      split
      · exact .inr ⟨_, _, rfl, .inl rfl⟩
      · split
        · exact .inr ⟨_, _, rfl, .inl rfl⟩
        · exact .inr ⟨_, _, rfl, .inl rfl⟩

theorem told_cancelled (held : Running s) :
    Told (s.deliver .cancelled (.error cancelledError)) := by
  have emitted : s.emitted + 1 = 1 := by rw [held.untold]
  have delivered : s.deliver .cancelled (.error cancelledError) =
      { (s.setGetter .absent).setInner .absent with
        stage := .ended .cancelled (some cancelledError)
        iscancelled := true
        emitted := s.emitted + 1 } := by
    simp only [State.deliver, giveUp_eq]
    rfl
  rw [delivered]
  exact .inr ⟨.cancelled, some cancelledError, rfl, .inr ⟨rfl, rfl, emitted⟩⟩

theorem told_timedOut (held : Running s) :
    Told (s.deliver .timedOut (.error timeoutError)) :=
  .inr ⟨.timedOut, some timeoutError, rfl, .inr ⟨rfl, held.unmarked, held.untold⟩⟩

theorem told_get (held : Running s) : Told s.get := by
  unfold State.get
  split
  · have getting : Running (s.goto .getting) := running_goto held (by simp)
    exact .inl ⟨getting.unmarked, getting.untold, getting.running⟩
  · next item items _ =>
      have rest : Running (s.setItems items) := ⟨held.unmarked, held.untold, held.running⟩
      exact told_slot rest _

theorem told_leave (held : Running s) : Told s.leave := by
  unfold State.leave
  split
  · exact told_timedOut held
  · exact told_cancelled held

theorem told_giveBack (held : Running s) (waited : Item α) : Told (s.giveBack waited) := by
  unfold State.giveBack
  split
  · exact told_slot held _
  · split
    · exact told_timedOut held
    · exact told_slot held _

theorem told_resume (held : Running s) : Told s.resume := by
  unfold State.resume
  split
  · split
    · exact told_leave held
    · split
      · exact told_leave held
      · exact told_get held
    · exact .inl held
  · exact told_slot held _
  · exact told_slot held _
  · exact .inl (running_stop held _)
  · exact .inl (running_stop held _)
  · exact told_cancelled held
  · exact told_cancelled held
  · exact told_giveBack held _
  · exact .inl held

theorem told_ask (held : Running s) (thrown : Bool) : Told (s.ask setup thrown) := by
  have renewed : Running s.renew := ⟨held.unmarked, held.untold, held.running⟩
  have created : Running s.renew.createInner := ⟨held.unmarked, held.untold, held.running⟩
  unfold State.ask
  apply told_interrupt
  split
  · exact told_get renewed
  · exact told_get renewed
  · exact .inl (running_goto created (by simp))
  · exact .inl (running_stop created _)

theorem told_runCallback (held : Running s) (callback : Callback α) :
    Told (s.runCallback callback) := by
  cases callback with
  | put item => exact .inl (running_of_unchanged held (unchanged_put s item))
  | innerStart => exact .inl (running_of_unchanged held (unchanged_innerStart s))
  | innerWake => exact .inl (running_of_unchanged held (unchanged_innerWake s))
  | release request =>
      unfold State.runCallback
      simp only
      split
      · exact .inl (running_release held)
      · exact .inl held
  | wake => exact told_resume held

theorem told_step (held : Running s) {label : Label α} (taken : step setup s label = some s') :
    Told s' := by
  cases label with
  | next context args =>
      cases taken
      exact .inl ⟨held.unmarked, held.untold, held.running⟩
  | throw exception =>
      cases taken
      exact .inl ⟨held.unmarked, held.untold, held.running⟩
  | stop =>
      cases taken
      exact .inl ⟨held.unmarked, held.untold, held.running⟩
  | ask thrown =>
      obtain ⟨_, rfl⟩ := ask_cases taken
      exact told_ask held thrown
  | callback =>
      obtain ⟨callback, ready, _, _, rfl⟩ := callback_cases taken
      have popped : Running (s.pop ready) := ⟨held.unmarked, held.untold, held.running⟩
      exact told_runCallback popped callback
  | cancel =>
      have interrupted := running_interrupt held
      have disturbed : Told s.interrupt.disturb :=
        .inl ⟨interrupted.unmarked, interrupted.untold, interrupted.running⟩
      simp only [step] at taken
      split at taken <;> cases taken
      · exact disturbed
      · exact disturbed
      · exact disturbed
  | expire =>
      have interrupted := running_interrupt held
      have released := running_release held
      simp only [step] at taken
      split at taken
      · split at taken <;> cases taken
        · exact .inl ⟨interrupted.unmarked, interrupted.untold, interrupted.running⟩
        · exact .inl ⟨released.unmarked, released.untold, released.running⟩
        · exact .inl ⟨held.unmarked, held.untold, held.running⟩
      · cases taken
  | aclose =>
      simp only [step] at taken
      split at taken <;> cases taken
      exact .inr ⟨_, _, rfl, .inr ⟨rfl, held.unmarked, held.untold⟩⟩

theorem told_run (run : Reaches (step setup) start history s) : Told s := by
  have initial : Told (start : State α) := .inl ⟨rfl, rfl, by simp [start]⟩
  apply run.invariant initial
  intro s label s' held taken
  rcases held with running | ⟨reason, outcome, ended, reported⟩
  · exact told_step running taken
  · have same := ended_step ended taken
    refine .inr ⟨reason, outcome, same.stage.trans ended, ?_⟩
    rw [State.Reported, same.iscancelled, same.emitted]
    exact reported

theorem learns_iff (run : Reaches (step setup) start history s) {reason : Reason}
    {outcome : Option Exc} (ended : s.stage = .ended reason outcome) (early : reason ≠ .slot) :
    s.Learns reason outcome ↔ reason = .cancelled := by
  rcases told_run run with running | ⟨_, _, same, reported⟩
  · exact absurd ended (running.running reason outcome)
  · rw [ended] at same
    cases same
    obtain ⟨outcome, marked, emitted⟩ := reported.resolve_left early
    constructor
    · rintro ⟨isMarked, _⟩
      rw [marked] at isMarked
      exact eq_of_beq isMarked
    · rintro rfl
      exact ⟨marked, emitted, cancelledError, rfl, outcome⟩

end QtGenerators

/-- In every run of either wrapper, a call that the async side has ended is told to the Qt
side exactly if it is a generator that was cancelled: neither a timeout nor `aclose` is told,
and a future's own signal raises in place of the first emission. -/
theorem QtCalls.qt_side_learns_iff {α : Type} [Signals] :
    (∀ setup history (s : QtFutures.State α) reason outcome,
      Reaches (QtFutures.step setup) QtFutures.start history s →
      s.stage = .ended reason outcome → reason ≠ .slot → ¬ s.Learns reason outcome) ∧
    (∀ setup history (s : QtGenerators.State α) reason outcome,
      Reaches (QtGenerators.step setup) QtGenerators.start history s →
      s.stage = .ended reason outcome → reason ≠ .slot →
        (s.Learns reason outcome ↔ reason = .cancelled)) := by
  constructor
  · intro setup history s reason outcome run _ _
    exact QtFutures.never_learns run reason outcome
  · intro setup history s reason outcome run ended early
    exact QtGenerators.learns_iff run ended early

def QtFutures.cancelledAtOnce : List (QtFutures.Label Nat) := [.awaits, .cancel, .callback]

def QtFutures.timedOutAtOnce : List (QtFutures.Label Nat) := [.awaits, .expire, .callback]

def QtGenerators.cancelledAtOnce : List (QtGenerators.Label Nat) :=
  [.ask false, .cancel, .callback]

def QtGenerators.timedOutAtOnce : List (QtGenerators.Label Nat) :=
  [.ask false, .expire, .callback]

def QtGenerators.closedAtYield : List (QtGenerators.Label Nat) :=
  [.next Contexts.Context.empty 1, .ask false, .callback, .callback, .aclose]

theorem QtCalls.qt_side_learns_iff_cancelled :
    (∃ (history : List (QtFutures.State Nat × QtFutures.Label Nat))
      (s : QtFutures.State Nat),
      Reaches (QtFutures.step ⟨true, none⟩) QtFutures.start history s ∧
      s.stage = .ended .cancelled (.error (.of .typeError "")) ∧
      ¬ s.Learns .cancelled (.error (.of .typeError ""))) ∧
    (∃ (history : List (QtGenerators.State Nat × QtGenerators.Label Nat))
      (s : QtGenerators.State Nat),
      Reaches (QtGenerators.step ⟨true, none⟩) QtGenerators.start history s ∧
      s.stage = .ended .cancelled (some cancelledError) ∧
      s.Learns .cancelled (some cancelledError)) := by
  have futures : Reaches (QtFutures.step ⟨true, none⟩)
      (QtFutures.start : QtFutures.State Nat) [] QtFutures.start := .start
  have generators : Reaches (QtGenerators.step ⟨true, none⟩)
      (QtGenerators.start : QtGenerators.State Nat) [] QtGenerators.start := .start
  have call := futures.follow QtFutures.cancelledAtOnce rfl
  have stream := generators.follow QtGenerators.cancelledAtOnce rfl
  refine ⟨⟨_, _, call, rfl, ?_⟩, ⟨_, _, stream, rfl, ?_⟩⟩
  · exact QtCalls.qt_side_learns_iff.1 _ _ _ _ _ call rfl (by decide)
  · exact (QtCalls.qt_side_learns_iff.2 _ _ _ _ _ stream rfl (by decide)).mpr rfl

/-- A cancelled call ends with a TypeError, and neither it nor a call that times out nor a
generator that times out or is closed at its `yield` is marked or told of. -/
theorem QtCalls.qt_side_not_told :
    (∃ (history : List (QtFutures.State Nat × QtFutures.Label Nat))
      (s : QtFutures.State Nat),
      Reaches (QtFutures.step ⟨true, none⟩) QtFutures.start history s ∧
      s.stage = .ended .cancelled (.error (.of .typeError "")) ∧ s.iscancelled = false ∧
      s.emitted = 0) ∧
    (∃ (history : List (QtFutures.State Nat × QtFutures.Label Nat))
      (s : QtFutures.State Nat),
      Reaches (QtFutures.step ⟨true, some 1⟩) QtFutures.start history s ∧
      s.stage = .ended .timedOut (.error timeoutError) ∧ s.iscancelled = false ∧
      s.emitted = 0) ∧
    (∃ (history : List (QtGenerators.State Nat × QtGenerators.Label Nat))
      (s : QtGenerators.State Nat),
      Reaches (QtGenerators.step ⟨true, some 1⟩) QtGenerators.start history s ∧
      s.stage = .ended .timedOut (some timeoutError) ∧ s.iscancelled = false ∧
      s.emitted = 0) ∧
    ∃ (history : List (QtGenerators.State Nat × QtGenerators.Label Nat))
      (s : QtGenerators.State Nat),
      Reaches (QtGenerators.step ⟨true, none⟩) QtGenerators.start history s ∧
      s.stage = .ended .closed (some (.of .generatorExit "")) ∧ s.iscancelled = false ∧
      s.emitted = 0 := by
  have call : ∀ setup, Reaches (QtFutures.step setup)
      (QtFutures.start : QtFutures.State Nat) [] QtFutures.start := fun _ => .start
  have stream : ∀ setup, Reaches (QtGenerators.step setup)
      (QtGenerators.start : QtGenerators.State Nat) [] QtGenerators.start := fun _ => .start
  exact ⟨⟨_, _, (call _).follow QtFutures.cancelledAtOnce rfl, rfl, rfl, rfl⟩,
    ⟨_, _, (call _).follow QtFutures.timedOutAtOnce rfl, rfl, rfl, rfl⟩,
    ⟨_, _, (stream _).follow QtGenerators.timedOutAtOnce rfl, rfl, rfl, rfl⟩,
    ⟨_, _, (stream _).follow QtGenerators.closedAtYield rfl, rfl, rfl, rfl⟩⟩

end Koil
