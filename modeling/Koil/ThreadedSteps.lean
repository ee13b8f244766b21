import Koil.ThreadedInvariant

namespace Koil.ThreadedRun

open Fifo Runs

variable {setup : Setup} {s : State}

theorem inv_begin {s' : State} (held : Inv setup s) (taken : step setup s .start = some s') :
    Inv setup s' := by
  obtain ⟨created, done⟩ := Option.ite_none_right_eq_some.mp taken
  obtain ⟨_, stage⟩ := held
  simp only [StageInv, created] at stage
  obtain ⟨absent, pending, empty, calm, early⟩ := stage
  have begun : Wired s.submit := by
    refine ⟨?_, ?_, by simp, by simp [empty], by simp [empty]⟩
    · intro done settled
      simp [pending] at settled
    · intro done member
      simp [empty] at member
  cases done
  by_cases thrown : s.thrown = true
  · simp only [thrown, if_true]
    exact ⟨wired_wakeUp begun, by simp [StageInv, pending, calm, early, empty]⟩
  · simp only [thrown, Bool.false_eq_true, if_false]
    exact ⟨begun, by simp [StageInv, pending, calm, early, empty]⟩

theorem inv_jobStarts {s' : State} (held : Inv setup s)
    (taken : step setup s .jobStarts = some s') : Inv setup s' := by
  obtain ⟨queued, done⟩ := Option.ite_none_right_eq_some.mp taken
  obtain ⟨wired, stage⟩ := held
  cases done
  have seen : CancelSeen s → CancelSeen (s.setJob .running) := by
    intro seen
    refine ⟨seen.1, ?_⟩
    intro absent
    exact absurd queued (seen.2 absent).1
  refine ⟨⟨?_, ?_, by simp, wired.one_wake, wired.one_check⟩, ?_⟩
  · intro done settled
    have ended := wired.settled done settled
    rw [queued] at ended
    cases ended
  · intro done member
    have ended := wired.delivers done member
    rw [queued] at ended
    cases ended
  · unfold StageInv at stage ⊢
    simp only [State.setJob_stage]
    cases at_ : s.stage with
    | created =>
        simp only [at_, queued] at stage
        cases stage.1
    | shielded =>
        simp only [at_] at stage
        exact stage
    | handling =>
        simp only [at_] at stage
        refine ⟨stage.1, ?_⟩
        have handling := stage.2
        unfold HandlingInv at handling ⊢
        simp only [State.setJob_future]
        cases future : s.future with
        | pending =>
            simp only [future] at handling
            exact handling
        | settled done =>
            simp only [future] at handling
            exact handling
        | cancelled =>
            simp only [future] at handling ⊢
            exact ⟨handling.1, handling.2.1, seen handling.2.2.1, handling.2.2.2⟩
    | stopping =>
        simp only [at_] at stage
        exact ⟨stage.1, seen stage.2.1, stage.2.2⟩
    | finished outcome =>
        simp only [at_] at stage
        refine ⟨?_, stage.2⟩
        intro reported
        exact absurd queued (stage.1 reported).1

theorem inv_jobEnds {s' : State} (held : Inv setup s) {body : Except Exc Unit}
    (taken : step setup s (.jobEnds body) = some s') : Inv setup s' := by
  obtain ⟨running, done⟩ := Option.ite_none_right_eq_some.mp taken
  obtain ⟨wired, stage⟩ := held
  cases done
  have deliver : Callback.deliver (wrapper body) ≠ .wake := by simp
  have seen : CancelSeen s →
      CancelSeen ((s.setJob .ended).push (.deliver (wrapper body))) := by
    intro seen
    refine ⟨?_, by simp⟩
    intro present
    exact ahead_push (seen.1 (by simpa using present)) deliver
  refine ⟨⟨by simp, by simp, fun _ _ => ⟨wrapper body, by simp⟩, ?_, ?_⟩, ?_⟩
  · simpa [List.count_append] using wired.one_wake
  · simpa [List.count_append] using wired.one_check
  · unfold StageInv at stage ⊢
    simp only [State.push_stage, State.setJob_stage]
    cases at_ : s.stage with
    | created =>
        simp only [at_, running] at stage
        cases stage.1
    | shielded => simpa [at_] using stage
    | handling =>
        simp only [at_] at stage
        refine ⟨stage.1, ?_⟩
        have handling := stage.2
        unfold HandlingInv at handling ⊢
        simp only [State.push_future, State.setJob_future]
        cases future : s.future with
        | pending =>
            simp only [future] at handling ⊢
            refine ⟨by simpa using handling.1, ?_⟩
            by_cases eager : setup.eager = true
            · simpa [eager] using handling.2
            · simp only [eager, Bool.false_eq_true, if_false] at handling ⊢
              refine ⟨by simpa using handling.2.1, ?_⟩
              intro expired
              rcases handling.2.2 expired with interrupted | overran | ⟨done, ahead⟩
              · exact .inl interrupted
              · exact .inr (.inl overran)
              · exact .inr (.inr ⟨done, ahead_push ahead deliver⟩)
        | settled done => simpa [future] using handling
        | cancelled =>
            simp only [future] at handling ⊢
            exact ⟨handling.1, handling.2.1, seen handling.2.2.1, handling.2.2.2⟩
    | stopping =>
        simp only [at_] at stage
        exact ⟨stage.1, seen stage.2.1, stage.2.2⟩
    | finished outcome =>
        simp only [at_] at stage
        exact ⟨by simp, stage.2⟩

theorem inv_cancel {s' : State} (held : Inv setup s) (sound : Sound setup s .cancel = true)
    (taken : step setup s .cancel = some s') : Inv setup s' := by
  obtain ⟨wired, stage⟩ := held
  unfold StageInv at stage
  have same : Wired s.interrupt := wired_of_same wired rfl rfl rfl
  -- a request that comes after the job was told finds the worker not running
  have asked : CancelSeen s → s.future = .cancelled → CancelSeen s.interrupt := by
    intro seen future
    refine ⟨seen.1, fun absent => ⟨(seen.2 absent).1, fun _ running => ?_⟩⟩
    simp only [State.interrupt_ready, State.interrupt_job] at absent running
    simp [Sound, future, absent, running] at sound
  simp only [step] at taken
  cases at_ : s.stage with
  | created =>
      simp only [at_] at taken stage
      cases taken
      exact ⟨wired_of_same wired rfl rfl rfl, by simpa [StageInv, at_] using stage⟩
  | shielded =>
      simp only [at_] at taken stage
      cases taken
      exact ⟨wired_wakeUp (wired_of_same wired rfl rfl rfl), by simpa [StageInv, at_] using stage⟩
  | handling =>
      simp only [at_] at taken stage
      cases taken
      obtain ⟨grace, handling⟩ := stage
      unfold HandlingInv at handling
      refine ⟨wired_disturb same ?_, ?_⟩
      · intro pending
        simp only [State.interrupt_future] at pending
        simp only [pending] at handling
        exact handling.1
      · cases future : s.future with
        | pending =>
            simp only [future] at handling
            by_cases eager : setup.eager = true
            · simp only [eager, if_true] at handling
              simp only [State.disturb, eager, State.interrupt_future, future, Bool.true_and,
                beq_self_eq_true, if_true, StageInv, abandon_stage, State.interrupt_stage, at_,
                HandlingInv, abandon_future]
              refine ⟨grace, trivial, .inl (by simp), cancelSeen_abandon handling.2.1, ?_⟩
              intro expired
              simp [handling.2.2.2] at expired
            · simp only [eager, Bool.false_eq_true, if_false] at handling
              simp [State.disturb, eager, StageInv, at_, grace, HandlingInv, future, handling.1]
        | settled done =>
            simp only [future] at handling
            simpa [State.disturb, future, StageInv, at_, grace, HandlingInv] using handling
        | cancelled =>
            simp only [future] at handling
            have told := cancelSeen_wakeUp (asked handling.2.2.1 future)
            simp only [State.disturb, State.interrupt_future, future, StageInv, HandlingInv]
            simpa [at_, grace, future, handling.1, Overran] using ⟨told, handling.2.2.2⟩
  | stopping =>
      simp only [at_] at taken stage
      cases taken
      refine ⟨wired_wakeUp same, ?_⟩
      simp only [StageInv, wakeUp_stage, State.interrupt_stage, at_]
      exact ⟨by simpa using stage.1, cancelSeen_wakeUp (asked stage.2.1 stage.1), .inl (by simp)⟩
  | finished outcome =>
      simp only [at_] at taken
      cases taken

theorem inv_expire {s' : State} (held : Inv setup s) (sound : Sound setup s .expire = true)
    (taken : step setup s .expire = some s') : Inv setup s' := by
  obtain ⟨⟨at_, grace, fresh⟩, done⟩ := Option.ite_none_right_eq_some.mp taken
  obtain ⟨wired, stage⟩ := held
  simp only [StageInv, at_] at stage
  obtain ⟨_, handling⟩ := stage
  unfold HandlingInv at handling
  have same : Wired s.timeOut := wired_of_same wired rfl rfl rfl
  cases done
  refine ⟨wired_disturb same ?_, ?_⟩
  · intro pending
    simp only [State.timeOut_future] at pending
    simp only [pending] at handling
    exact handling.1
  · cases future : s.future with
    | pending =>
        simp only [future] at handling
        by_cases eager : setup.eager = true
        · have running : s.job ≠ .ended := by
            intro ended
            simp [Sound, eager, ended] at sound
          simp only [eager, if_true] at handling
          simp only [State.disturb, eager, State.timeOut_future, future, Bool.true_and,
            beq_self_eq_true, if_true, StageInv, abandon_stage, State.timeOut_stage, at_,
            HandlingInv, abandon_future]
          exact ⟨grace, trivial, .inr (by simp), cancelSeen_abandon handling.2.1,
            fun _ => by simpa [Overran] using running⟩
        · simp only [eager, Bool.false_eq_true, if_false] at handling
          simp only [State.disturb, eager, Bool.false_and, Bool.false_eq_true, if_false, StageInv,
            wakeUp_stage, State.timeOut_stage, at_, HandlingInv, wakeUp_future,
            State.timeOut_future, future]
          refine ⟨grace, by simpa using handling.1, fun _ => .inr (by simp), fun _ => ?_⟩
          by_cases interrupted : s.interrupted = true
          · exact .inl (by simpa using interrupted)
          · by_cases ended : s.job = .ended
            · -- its end was queued before the timeout's wake-up
              obtain ⟨done, waiting⟩ := wired.undelivered ended future
              have asleep : .wake ∉ s.ready := by
                intro woken
                rcases handling.2.1 woken with other | other
                · exact interrupted other
                · rw [fresh] at other
                  cases other
              refine .inr (.inr ⟨done, ahead_wakeUp waiting ?_⟩)
              intro woken
              exact absurd woken asleep
            · exact .inr (.inl (by simpa [Overran] using ended))
    | settled done =>
        simp only [future] at handling
        have ended := wired.settled done future
        by_cases eager : setup.eager = true
        · simp [Sound, eager, ended] at sound
        · simp [State.disturb, eager, StageInv, at_, grace, HandlingInv, future, handling.1]
    | cancelled =>
        simp only [future] at handling
        have running : s.job ≠ .ended := by
          intro ended
          simp [Sound, handling.1, ended] at sound
        have seen : CancelSeen s.timeOut := handling.2.2.1
        have woken := cancelSeen_wakeUp seen
        simp only [State.disturb, State.timeOut_future, future, StageInv, HandlingInv]
        simpa [at_, grace, future, handling.1, Overran] using ⟨woken, running⟩

end Koil.ThreadedRun
