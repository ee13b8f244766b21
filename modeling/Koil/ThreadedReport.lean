import Koil.ThreadedSteps

namespace Koil.ThreadedRun

open Fifo Runs

variable {setup : Setup} {s : State}

/-- Handing the end of the job over settles the future, unless it was given up. -/
theorem inv_deliver (held : Inv setup s) {done : FutureEnd Unit} {ready : List Callback}
    (head : s.ready = .deliver done :: ready) :
    Inv setup ((s.pop ready).runCallback setup (.deliver done)) := by
  obtain ⟨wired, stage⟩ := held
  have ended : s.job = .ended := wired.delivers done (by simp [head])
  unfold StageInv at stage
  cases future : s.future with
  | pending =>
      have handed : Wired ((s.pop ready).setFuture (.settled (copyFutureState done))) := by
        refine ⟨fun _ _ => ended, fun _ _ => ended, by simp, ?_, ?_⟩
        · simpa [head] using wired.one_wake
        · simpa [head] using wired.one_check
      simp only [State.runCallback, State.pop_future, future]
      refine ⟨wired_wakeUp handed, ?_⟩
      simp only [StageInv, wakeUp_stage, State.setFuture_stage, State.pop_stage]
      cases at_ : s.stage with
      | created =>
          simp only [at_, head] at stage
          cases stage.2.2.1
      | shielded =>
          simp only [at_] at stage
          simpa [head] using stage.2
      | handling =>
          simp only [at_, HandlingInv, future] at stage
          refine ⟨stage.1, ?_⟩
          simp only [HandlingInv, wakeUp_future, State.setFuture_future]
          refine ⟨by simpa [head] using stage.2.1, fun eager => ?_⟩
          have calm := stage.2.2
          simp only [eager, if_true] at calm
          simpa using calm.2.2
      | stopping =>
          simp only [at_, future] at stage
          cases stage.1
      | finished outcome =>
          simp only [at_] at stage
          simpa [Supported, Overran] using stage
  | settled earlier =>
      simp only [State.runCallback, State.pop_future, future]
      refine ⟨wired_pop wired head (by simp [future]), ?_⟩
      simp only [StageInv, State.pop_stage]
      cases at_ : s.stage with
      | created =>
          simp only [at_, head] at stage
          cases stage.2.2.1
      | shielded =>
          simp only [at_] at stage
          simpa [head] using stage
      | handling =>
          simp only [at_, HandlingInv, future] at stage
          simpa [HandlingInv, future, head] using stage
      | stopping =>
          simp only [at_, future] at stage
          cases stage.1
      | finished outcome =>
          simp only [at_] at stage
          exact stage
  | cancelled =>
      simp only [State.runCallback, State.pop_future, future]
      refine ⟨wired_pop wired head (by simp [future]), ?_⟩
      simp only [StageInv, State.pop_stage]
      cases at_ : s.stage with
      | created =>
          simp only [at_, head] at stage
          cases stage.2.2.1
      | shielded =>
          simp only [at_, future] at stage
          exact absurd rfl stage.1
      | handling =>
          simp only [at_, HandlingInv, future] at stage
          simp only [HandlingInv, State.pop_future, future]
          exact ⟨stage.1, stage.2.1, stage.2.2.1, cancelSeen_pop stage.2.2.2.1 head (by simp),
            stage.2.2.2.2⟩
      | stopping =>
          simp only [at_] at stage
          exact ⟨stage.1, cancelSeen_pop stage.2.1 head (by simp), stage.2.2⟩
      | finished outcome =>
          simp only [at_] at stage
          exact stage

theorem stageInv_told {t : State} {ready : List Callback} (stage : StageInv setup s)
    (head : s.ready = .check :: ready) (seen : CancelSeen t) (at_ : t.stage = s.stage)
    (future : t.future = s.future) (interrupted : t.interrupted = s.interrupted)
    (expired : t.expired = s.expired) (expiry : t.expiry = s.expiry)
    (supported : ∀ outcome, Supported s outcome → Supported t outcome) : StageInv setup t := by
  unfold StageInv at stage ⊢
  rw [at_]
  cases here : s.stage with
  | created =>
      simp only [here, head] at stage
      cases stage.2.2.1
  | shielded =>
      simp only [here, head] at stage
      exact absurd List.mem_cons_self stage.2.2.2
  | handling =>
      simp only [here, HandlingInv, head] at stage
      refine ⟨stage.1, ?_⟩
      simp only [HandlingInv, future, interrupted, expired]
      cases isFuture : s.future with
      | pending =>
          simp only [isFuture] at stage
          exact absurd List.mem_cons_self stage.2.1
      | settled done =>
          simp only [isFuture] at stage
          exact absurd List.mem_cons_self stage.2.1
      | cancelled =>
          simp only [isFuture] at stage
          exact ⟨stage.2.1, stage.2.2.1, seen, by simpa [Overran, expiry] using stage.2.2.2.2⟩
  | stopping =>
      simp only [here] at stage
      refine ⟨by rw [future]; exact stage.1, seen, ?_⟩
      simpa only [interrupted, Overran, expiry] using stage.2.2
  | finished outcome =>
      simp only [here] at stage
      exact supported outcome stage

theorem inv_check (held : Inv setup s) {ready : List Callback}
    (head : s.ready = .check :: ready) (sound : Sound setup s .callback = true) :
    Inv setup ((s.pop ready).runCallback setup .check) := by
  obtain ⟨wired, stage⟩ := held
  have popped : Wired (s.pop ready) := wired_pop wired head (by simp)
  have absent : .check ∉ ready := absent_of_once (head ▸ wired.one_check)
  have calm : s.interrupted = true → s.job ≠ .running := by
    intro interrupted running
    simp [Sound, head, interrupted, running] at sound
  simp only [State.runCallback, State.pop_job]
  by_cases queued : s.job = .queued
  · simp only [queued, if_true]
    refine ⟨⟨?_, ?_, by simp, popped.one_wake, popped.one_check⟩, ?_⟩
    · intro done settled
      have ended := popped.settled done settled
      simp [queued] at ended
    · intro done member
      have ended := popped.delivers done member
      simp [queued] at ended
    · exact stageInv_told stage head ⟨fun present => absurd present absent, by simp⟩
        rfl rfl rfl rfl rfl (fun outcome supported => ⟨by simp, supported.2⟩)
  · simp only [queued, if_false]
    refine ⟨popped, stageInv_told stage head ?_ rfl rfl rfl rfl rfl (fun _ supported => supported)⟩
    exact ⟨fun present => absurd present absent, fun _ => ⟨queued, calm⟩⟩

theorem supported_of_ended (ended : s.job = .ended) {outcome : Outcome}
    (honest : outcome ≠ .couldNotCancel) : Supported s outcome :=
  ⟨fun _ => by simp [ended], fun same => absurd same honest⟩

theorem handlerOutcome_couldNotCancel {done : TaskEnd Unit}
    (reported : handlerOutcome done = .couldNotCancel) : mistaken done = true := by
  cases done with
  | returned value => cases reported
  | cancelled => cases reported
  | raised exc =>
      by_cases thread : exc.isA .threadCancelledError = true
      · simp [handlerOutcome, thread] at reported
      · by_cases timeout : exc.isA .timeoutError = true
        · simp [mistaken, thread, timeout]
        · simp [handlerOutcome, thread, timeout] at reported

theorem inv_handle (wired : Wired s) (at_ : s.stage = .shielded) (stage : StageInv setup s)
    (asleep : .wake ∉ s.ready)
    (settled : ∀ done, s.future = .settled done → setup.eager = false ∧ setup.grace = true)
    (late : setup.grace = false → s.future = .pending → s.job ≠ .ended) :
    Inv setup (s.handle setup) := by
  simp only [StageInv, at_] at stage
  obtain ⟨kept, calm, early, absent⟩ := stage
  unfold State.handle
  cases future : s.future with
  | settled done =>
      obtain ⟨lazy, grace⟩ := settled done future
      refine ⟨wired_wakeUp (wired_of_same wired rfl rfl rfl), ?_⟩
      simp [StageInv, HandlingInv, future, grace, lazy, absent]
  | cancelled => exact absurd future kept
  | pending =>
      simp only
      by_cases grace : setup.grace = true
      · simp only [grace, if_true]
        refine ⟨wired_of_same wired rfl rfl rfl, ?_⟩
        simp [StageInv, HandlingInv, future, grace, absent, asleep, calm, early]
      · have none : setup.grace = false := by simpa using grace
        simp only [none, Bool.false_eq_true, if_false]
        have timed : Wired (s.timeOut.goto .stopping) := wired_of_same wired rfl rfl rfl
        refine ⟨wired_abandon timed absent, ?_⟩
        simp only [StageInv, abandon_stage, State.goto_stage, abandon_future]
        have awake : .wake ∉ (s.timeOut.goto .stopping).ready := asleep
        refine ⟨trivial, cancelSeen_abandon awake, .inr ⟨s.job, by simp, late none future⟩⟩

theorem CancelSeen.told (seen : CancelSeen s) {ready : List Callback}
    (head : s.ready = .wake :: ready) :
    s.job ≠ .queued ∧ (s.interrupted = true → s.job ≠ .running) := by
  refine seen.2 fun present => ?_
  exact absurd rfl (ahead_head (head ▸ seen.1 present))

theorem inv_finish (wired : Wired s) {outcome : Outcome} (supported : Supported s outcome) :
    Inv setup (s.goto (.finished outcome)) :=
  ⟨wired_of_same wired rfl rfl rfl, supported⟩

theorem ended_of_waitEnds (wired : Wired s) {done : TaskEnd Unit}
    (ends : s.waitEnds setup = some done) : s.job = .ended := by
  unfold State.waitEnds at ends
  split at ends
  · next done future _ => exact wired.settled _ future
  · next done future _ => exact wired.settled _ future
  · cases ends

section wakes

variable {ready : List Callback}

theorem inv_wake_shielded (held : Inv setup s) (head : s.ready = .wake :: ready)
    (at_ : s.stage = .shielded) (ends : s.waitEnds setup = none)
    (late : setup.grace = false → s.future = .pending → s.job ≠ .ended) :
    Inv setup ((s.pop ready).resume setup) := by
  obtain ⟨wired, stage⟩ := held
  have popped : Wired (s.pop ready) := wired_pop wired head (by simp)
  have asleep : .wake ∉ (s.pop ready).ready := absent_of_once (head ▸ wired.one_wake)
  have kept : StageInv setup (s.pop ready) := by
    simpa [StageInv, at_, head] using stage
  have handled := inv_handle popped at_ kept asleep
  have waits : (s.pop ready).waitEnds setup = none := ends
  simp only [State.resume, waits, State.pop_stage, at_, State.pop_future]
  cases future : s.future with
  | settled done =>
      have ended := wired.settled done future
      by_cases caught : (s.thrown || isCancelledError done) = true
      · simp only [State.pop_thrown, caught, if_true]
        refine handled ?_ (fun _ pending => by simp [future] at pending)
        intro _ _
        simp only [State.waitEnds, future, at_, caught, Bool.true_and] at ends
        simpa using ends
      · simp only [State.pop_thrown, caught, Bool.false_eq_true, if_false]
        refine inv_finish popped (supported_of_ended ended ?_)
        cases done <;> simp [shieldOutcome]
  | pending =>
      simp only [State.pop_thrown]
      split
      · exact handled (fun done settled => by simp [future] at settled) late
      · exact ⟨popped, kept⟩
  | cancelled =>
      simp only [StageInv, at_, future] at stage
      exact absurd rfl stage.1

theorem inv_wake_handling (held : Inv setup s) (head : s.ready = .wake :: ready)
    (at_ : s.stage = .handling) (ends : s.waitEnds setup = none) :
    Inv setup ((s.pop ready).resume setup) := by
  obtain ⟨wired, stage⟩ := held
  have popped : Wired (s.pop ready) := wired_pop wired head (by simp)
  have waits : (s.pop ready).waitEnds setup = none := ends
  simp only [StageInv, at_, HandlingInv] at stage
  obtain ⟨grace, handling⟩ := stage
  simp only [State.resume, waits, State.pop_stage, at_, State.pop_interrupted, State.pop_expired]
  cases future : s.future with
  | pending =>
      simp only [future] at handling
      by_cases eager : setup.eager = true
      · simp only [eager, if_true] at handling
        exact absurd (by simp [head]) handling.2.1
      · simp only [eager, Bool.false_eq_true, if_false] at handling ⊢
        have stopped : Wired ((s.pop ready).goto .stopping) := wired_of_same popped rfl rfl rfl
        have absent : .check ∉ ready := by simpa [head] using handling.1
        refine ⟨wired_abandon stopped absent, ?_⟩
        simp only [StageInv, abandon_stage, State.goto_stage, abandon_future]
        refine ⟨trivial, cancelSeen_abandon (absent_of_once (head ▸ wired.one_wake)), ?_⟩
        have reason := handling.2.1 (by simp [head])
        by_cases interrupted : s.interrupted = true
        · exact .inl (by simpa using interrupted)
        · have expired : s.expired = true := by simpa [interrupted] using reason
          rcases handling.2.2 expired with other | overran | ⟨done, ahead⟩
          · exact absurd other interrupted
          · exact .inr (by simpa [Overran] using overran)
          · exact absurd rfl (ahead_head (head ▸ ahead))
  | settled done =>
      have ended := wired.settled done future
      simp only [future] at handling
      simp only [State.waitEnds, future, at_] at ends
      by_cases eager : setup.eager = true
      · have inTime := handling.2 eager
        have interrupted : s.interrupted = true := by
          simpa [eager, inTime] using ends
        simp only [eager, interrupted, if_true]
        exact inv_finish popped (supported_of_ended ended (by simp))
      · simp [eager] at ends
  | cancelled =>
      simp only [future] at handling
      obtain ⟨eager, reason, seen, overran⟩ := handling
      obtain ⟨queued, running⟩ := seen.told head
      simp only [eager, if_true]
      by_cases interrupted : s.interrupted = true
      · simp only [interrupted, if_true]
        exact inv_finish popped ⟨fun _ => ⟨queued, running interrupted⟩, by simp⟩
      · have expired : s.expired = true := by simpa [interrupted] using reason
        simp only [interrupted, expired, Bool.false_eq_true, if_false, if_true]
        exact inv_finish popped ⟨by simp [Outcome.isCancelled], fun _ => overran expired⟩

theorem inv_wake_stopping (held : Inv setup s) (head : s.ready = .wake :: ready)
    (at_ : s.stage = .stopping) (ends : s.waitEnds setup = none) :
    Inv setup ((s.pop ready).resume setup) := by
  obtain ⟨wired, stage⟩ := held
  have popped : Wired (s.pop ready) := wired_pop wired head (by simp)
  have waits : (s.pop ready).waitEnds setup = none := ends
  simp only [StageInv, at_] at stage
  obtain ⟨_, seen, reason⟩ := stage
  obtain ⟨queued, running⟩ := seen.told head
  simp only [State.resume, waits, State.pop_stage, at_, State.pop_interrupted]
  by_cases interrupted : s.interrupted = true
  · simp only [interrupted, if_true]
    exact inv_finish popped ⟨fun _ => ⟨queued, running interrupted⟩, by simp⟩
  · have overran : Overran s := by simpa [interrupted] using reason
    simp only [interrupted, Bool.false_eq_true, if_false]
    exact inv_finish popped ⟨by simp [Outcome.isCancelled], fun _ => overran⟩

theorem inv_wake (held : Inv setup s) (head : s.ready = .wake :: ready)
    (sound : Sound setup s .callback = true) :
    Inv setup ((s.pop ready).runCallback setup .wake) := by
  have popped : Wired (s.pop ready) := wired_pop held.1 head (by simp)
  have waits : (s.pop ready).waitEnds setup = s.waitEnds setup := rfl
  simp only [Sound, head, Bool.and_eq_true, Bool.not_eq_true'] at sound
  obtain ⟨honest, late⟩ := sound
  simp only [State.runCallback]
  cases ends : s.waitEnds setup with
  | some done =>
      simp only [State.resume, waits, ends]
      refine inv_finish popped (supported_of_ended (ended_of_waitEnds held.1 ends) ?_)
      intro reported
      simp [ends, handlerOutcome_couldNotCancel reported] at honest
  | none =>
      cases at_ : s.stage with
      | created =>
          have stage := held.2
          simp only [StageInv, at_, head] at stage
          cases stage.2.2.1
      | shielded =>
          refine inv_wake_shielded held head at_ ends fun grace future ended => ?_
          simp [grace, at_, future, ended] at late
      | handling => exact inv_wake_handling held head at_ ends
      | stopping => exact inv_wake_stopping held head at_ ends
      | finished outcome =>
          have stage := held.2
          simp only [State.resume, waits, ends, State.pop_stage, at_]
          refine ⟨popped, ?_⟩
          simp only [StageInv, at_, State.pop_stage] at stage ⊢
          exact stage

end wakes

theorem inv_step {s' : State} {label : Label} (held : Inv setup s)
    (sound : Sound setup s label = true) (taken : step setup s label = some s') :
    Inv setup s' := by
  cases label with
  | start => exact inv_begin held taken
  | jobStarts => exact inv_jobStarts held taken
  | jobEnds body => exact inv_jobEnds held taken
  | cancel => exact inv_cancel held sound taken
  | expire => exact inv_expire held sound taken
  | callback =>
      simp only [step] at taken
      cases head : s.ready with
      | nil => simp [head] at taken
      | cons callback ready =>
          simp only [head, Option.some.injEq] at taken
          subst taken
          cases callback with
          | deliver done => exact inv_deliver held head
          | check => exact inv_check held head sound
          | wake => exact inv_wake held head sound

/-- In a run whose steps are all sound, `run_threaded` tells the truth about the
worker whenever it reports that it was cancelled or could not be cancelled. -/
theorem cancellation_report_truthful (setup : Setup) {history : List (State × Label)} {s : State}
    (run : Reaches (step setup) start history s)
    (sound : ∀ taken ∈ history, Sound setup taken.1 taken.2 = true) : Truthful s := by
  have inv : Inv setup s := run.guarded_invariant inv_start
    (fun s label s' held met taken => inv_step held met taken) sound
  intro outcome finished
  have stage := inv.2
  simpa only [StageInv, finished] using stage

def acknowledged : List Label :=
  [.start, .jobStarts, .cancel, .callback,
    .jobEnds (.error (.of .threadCancelledError "Task was cancelled")), .callback, .callback]

theorem cancellation_report_truthful_acknowledged : ∃ history s,
    Reaches (step ⟨false, true⟩) start history s ∧ s.stage = .finished .cancelled ∧ Truthful s := by
  have initial : Reaches (step ⟨false, true⟩) start [] start := .start
  have run := initial.follow acknowledged rfl
  exact ⟨_, _, run, by decide, cancellation_report_truthful _ run (by decide)⟩

def cancelledTwice : List Label :=
  [.start, .jobStarts, .cancel, .callback, .cancel, .callback, .callback, .callback]

def ownTimeout : List Label :=
  [.start, .jobStarts, .cancel, .callback, .jobEnds (.error (.of .timeoutError "timed out")),
    .callback, .callback]

theorem cancellation_report_untruthful :
    (∃ history s, Reaches (step ⟨false, true⟩) start history s ∧
      s.stage = .finished .cancelled ∧ s.job = .running ∧ ¬ Truthful s) ∧
    (∃ history s, Reaches (step ⟨false, true⟩) start history s ∧
      s.stage = .finished .couldNotCancel ∧ s.job = .ended ∧ s.expired = false ∧ ¬ Truthful s) := by
  have initial : Reaches (step ⟨false, true⟩) start [] start := .start
  constructor
  · have run := initial.follow cancelledTwice rfl
    refine ⟨_, _, run, by decide, by decide, fun truthful => ?_⟩
    exact absurd rfl ((truthful .cancelled (by decide)).1 rfl).2
  · have run := initial.follow ownTimeout rfl
    refine ⟨_, _, run, by decide, by decide, by decide, fun truthful => ?_⟩
    obtain ⟨job, overran, _⟩ := (truthful .couldNotCancel (by decide)).2 rfl
    cases overran

end Koil.ThreadedRun
