import Koil.Sleeping

namespace Koil.Sleeping

open Contexts Runs Timed

variable {τ : Type} [AddCommGroup τ] [LinearOrder τ] {call : Call τ} {now : τ}
  {s s' : State τ}

/-- The loop of a sleep was closed before its timer fired. -/
structure Stranded (s : State τ) : Prop where
  closed : s.isOpen = false
  unset : s.timer.isSet = false
  polling : s.stage = .testing ∨ s.stage = .waiting ∨ s.stage = .checking

def StrandedOrCancelled (s : State τ) : Prop :=
  Stranded s ∨ (s.isOpen = false ∧ s.stage = .finished .cancelled ∧ s.cancelled.isSome = true)

theorem stranded_goto {label : Label} (held : Stranded s)
    (thread : label = .test ∨ label = .waitEnds ∨ label = .check)
    (taken : call.step now s label = some s') : StrandedOrCancelled s' := by
  obtain ⟨closed, unset, polling⟩ := held
  rcases thread with rfl | rfl | rfl
  · obtain ⟨_, moved⟩ := Option.ite_none_right_eq_some.mp taken
    cases moved
    exact .inl ⟨closed, unset, by simp [unset]⟩
  · obtain ⟨_, moved⟩ := Option.ite_none_right_eq_some.mp taken
    cases moved
    exact .inl ⟨closed, unset, by simp⟩
  · obtain ⟨_, moved⟩ := Option.ite_none_right_eq_some.mp taken
    cases moved
    cases cancelled : s.cancelled with
    | none => exact .inl ⟨closed, unset, by simp⟩
    | some set => exact .inr ⟨closed, by simp, by simp [cancelled]⟩

theorem stranded_step {label : Label} (held : StrandedOrCancelled s)
    (taken : call.step now s label = some s') : StrandedOrCancelled s' := by
  rcases held with stranded | ⟨closed, finished, isSet⟩
  · obtain ⟨closed, unset, polling⟩ := stranded
    cases label with
    | enter | request | sleepEnds =>
        simp only [Call.step] at taken
        rcases polling with stage | stage | stage <;> simp [stage] at taken
    | test | waitEnds | check => exact stranded_goto ⟨closed, unset, polling⟩ (by simp) taken
    | callLater | timerFires =>
        simp only [Call.step] at taken
        split at taken <;> simp [closed] at taken
    | cancel =>
        obtain ⟨_, moved⟩ := Option.ite_none_right_eq_some.mp taken
        cases moved
        exact .inl ⟨closed, unset, polling⟩
    | close => simp [Call.step, closed] at taken
  · cases label with
    | enter | request | sleepEnds | test | waitEnds | check => simp [Call.step, finished] at taken
    | callLater | timerFires =>
        simp only [Call.step] at taken
        split at taken <;> simp [closed] at taken
    | cancel =>
        obtain ⟨⟨_, unset⟩, _⟩ := Option.ite_none_right_eq_some.mp taken
        simp [Option.isNone_iff_eq_none.mp unset] at isSet
    | close => simp [Call.step, closed] at taken

theorem calm_step {label : Label} (none : call.hasCancelEvent = false)
    (calm : s.cancelled = Option.none) (taken : call.step now s label = some s') :
    s'.cancelled = Option.none := by
  cases label with
  | enter =>
      obtain ⟨_, moved⟩ := Option.ite_none_right_eq_some.mp taken
      cases moved
      unfold Call.enter
      split
      · exact calm
      · split
        · split <;> exact calm
        · exact calm
  | request =>
      obtain ⟨_, moved⟩ := Option.ite_none_right_eq_some.mp taken
      split at moved <;> cases moved <;> exact calm
  | sleepEnds | test | waitEnds | check | close =>
      obtain ⟨_, moved⟩ := Option.ite_none_right_eq_some.mp taken
      cases moved
      exact calm
  | callLater | timerFires =>
      simp only [Call.step] at taken
      split at taken
      · obtain ⟨_, moved⟩ := Option.ite_none_right_eq_some.mp taken
        cases moved
        exact calm
      · cases taken
  | cancel => simp [Call.step, none] at taken

theorem stranded_poll {begun : τ} {init : State τ} (run : call.system.Runs begun init now s)
    (stranded : Stranded s) (testing : s.stage = .testing) (unset : s.cancelled = none) :
    ∃ s', call.system.Runs begun init (now + call.eventWaitTime) s' ∧ Stranded s' ∧
      s'.stage = .testing ∧ s'.cancelled = none := by
  have tested : call.system.step now s .test = some (s.goto now .waiting) := by
    simp [Call.system, Call.step, testing, stranded.unset]
  have waited : call.system.Runs begun init (now + call.eventWaitTime) (s.goto now .waiting) := by
    apply (run.act tested).elapse call.polls.le
    intro limit due
    have same : now + call.eventWaitTime = limit := by
      simpa [Call.system, Call.latest, Call.threadDue, Call.loopDue, earliest, stranded.unset,
        stranded.closed] using due
    exact same.le
  have woken : call.system.step (now + call.eventWaitTime) (s.goto now .waiting) .waitEnds =
      some (s.goto (now + call.eventWaitTime) .checking) := by
    simp [Call.system, Call.step, State.goto]
  have checked : call.system.step (now + call.eventWaitTime)
      (s.goto (now + call.eventWaitTime) .checking) .check =
      some (s.goto (now + call.eventWaitTime) .testing) := by
    simp [Call.system, Call.step, State.goto, unset]
  exact ⟨_, (waited.act woken).act checked, ⟨stranded.closed, stranded.unset, .inl rfl⟩, rfl, unset⟩

theorem calm_run {begun : τ} {init : State τ} (none : call.hasCancelEvent = false)
    (calm : init.cancelled = Option.none) (run : call.system.Runs begun init now s) :
    s.cancelled = Option.none := by
  apply run.invariant
  · exact calm
  · intro _ _ _ _ held taken
    exact calm_step none held taken
  · intro _ _ _ held _ _
    exact held

variable [IsOrderedAddMonoid τ]

theorem stranded_testing (held : Inv call now s) (stranded : Stranded s)
    (unset : s.cancelled = none) :
    ∃ later s', call.system.Runs now s later s' ∧ now ≤ later ∧ Stranded s' ∧
      s'.stage = .testing ∧ s'.cancelled = none := by
  have after : ∀ time, Stranded (s.goto time .testing) :=
    fun _ => ⟨stranded.closed, stranded.unset, .inl rfl⟩
  rcases stranded.polling with testing | waiting | checking
  · exact ⟨now, s, .start, le_refl now, stranded, testing, unset⟩
  · have late : now ≤ s.since + call.eventWaitTime := by
      have stageHeld := held.stage
      simp only [StageInv, waiting] at stageHeld
      exact stageHeld.2.2.1
    have waited : call.system.Runs now s (s.since + call.eventWaitTime) s := by
      have gone : call.system.Runs now s (now + (s.since + call.eventWaitTime - now)) s := by
        apply System.Runs.start.elapse (sub_nonneg.mpr late)
        intro limit due
        have same : s.since + call.eventWaitTime = limit := by
          simpa [Call.system, Call.latest, Call.threadDue, Call.loopDue, earliest, stranded.unset,
            stranded.closed, waiting] using due
        simp [same]
      simpa using gone
    have woken : call.system.step (s.since + call.eventWaitTime) s .waitEnds =
        some (s.goto (s.since + call.eventWaitTime) .checking) := by
      simp [Call.system, Call.step, waiting]
    have checked : call.system.step (s.since + call.eventWaitTime)
        (s.goto (s.since + call.eventWaitTime) .checking) .check =
        some (s.goto (s.since + call.eventWaitTime) .testing) := by
      simp [Call.system, Call.step, State.goto, unset]
    exact ⟨_, _, (waited.act woken).act checked, late, after _, rfl, unset⟩
  · have checked : call.system.step now s .check = some (s.goto now .testing) := by
      simp [Call.system, Call.step, checking, unset]
    exact ⟨now, _, System.Runs.start.act checked, le_refl now, after now, rfl, unset⟩

theorem stranded_polls (held : Inv call now s) (stranded : Stranded s) (unset : s.cancelled = none)
    (polls : Nat) : ∃ later s', call.system.Runs now s later s' ∧
      now + polls • call.eventWaitTime ≤ later ∧ Stranded s' ∧ s'.stage = .testing ∧
        s'.cancelled = none := by
  induction polls with
  | zero => simpa using stranded_testing held stranded unset
  | succ polls ih =>
      obtain ⟨later, s', after, late, still, testing, quiet⟩ := ih
      obtain ⟨s'', further, again, tested, calm⟩ := stranded_poll after still testing quiet
      refine ⟨_, s'', further, ?_, again, tested, calm⟩
      rw [succ_nsmul, ← add_assoc]
      exact add_le_add_left late _

/-- A sleep whose loop is closed before the timer fires never returns: whatever happens
then, it goes on or is interrupted, and unless its event is set it goes on for any time.
Where the thread has no cancel event, it always goes on. -/
theorem stranded_sleep (run : call.system.Runs call.begun call.start now s)
    (stranded : Stranded s) :
    (∀ later s', call.system.Runs now s later s' → StrandedOrCancelled s' ∧
      (call.hasCancelEvent = false → Stranded s')) ∧
      (s.cancelled = none → ∀ polls : Nat, ∃ later s', call.system.Runs now s later s' ∧
        now + polls • call.eventWaitTime ≤ later ∧ Stranded s') := by
  constructor
  · intro later s' after
    have goesOn : StrandedOrCancelled s' := by
      apply after.invariant (.inl stranded)
      · intro _ _ _ _ held taken
        exact stranded_step held taken
      · intro _ _ _ held _ _
        exact held
    refine ⟨goesOn, fun none => goesOn.resolve_right ?_⟩
    rintro ⟨_, _, isSet⟩
    have calm : s.cancelled = Option.none := calm_run none rfl run
    simp [calm_run none calm after] at isSet
  · intro unset polls
    obtain ⟨later, s', after, late, still, _⟩ := stranded_polls (inv_run run) stranded unset polls
    exact ⟨later, s', after, late, still⟩

def strandedActions : List (Action Label Int) :=
  [.act .enter, .act .request, .act .test, .act .callLater, .elapse 3, .act .waitEnds, .act .check,
    .act .test, .elapse 1, .act .close]

def strandedNap : State Int := ⟨.waiting, 3, .scheduled 0, false, none⟩

theorem stranded_sleep_nap : nap.hasCancelEvent = true ∧ ∀ polls : Nat, ∃ later s',
    nap.system.Runs 4 strandedNap later s' ∧ 4 + polls • (3 : Int) ≤ later ∧ Stranded s' := by
  have run : nap.system.Runs nap.begun nap.start 4 strandedNap :=
    ⟨_, Reaches.start.follow strandedActions rfl⟩
  obtain ⟨_, goesOn⟩ := stranded_sleep run ⟨rfl, rfl, .inr (.inl rfl)⟩
  exact ⟨rfl, goesOn rfl⟩

end Koil.Sleeping
