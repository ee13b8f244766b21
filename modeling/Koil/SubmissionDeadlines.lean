import Koil.HelperTasks
import Koil.Timed
import Mathlib.Algebra.Order.Group.Int

/-! A submission with a timeout, in time: `passed_with_context` on a loop that is free
whenever something is due, and is not shut down. -/

namespace Koil.SubmissionDeadlines

open HelperTasks Race Runs Timed

variable {τ : Type} [AddCommGroup τ] [LinearOrder τ]

/-- A submission with a timeout, which is refused if it is negative, and the
`cancel_timeout` of the submitting Koil. -/
structure Submission (τ : Type) [AddCommGroup τ] [LinearOrder τ] where
  config : Config
  submitted : τ
  timeout : τ
  grace : τ
  timed : config.timeout.isSome = true
  accepted : 0 ≤ timeout
  grace_nonneg : 0 ≤ grace

def Submission.deadline (submission : Submission τ) : τ := submission.submitted + submission.timeout

/-- The tasks of `passed_with_context`, and since when it awaits the current loser. -/
structure Clocked (τ : Type) where
  tasks : HelperTasks.State
  since : τ

def Submission.start (submission : Submission τ) : Clocked τ :=
  ⟨HelperTasks.start, submission.submitted⟩

/-- The timeout waiter sleeps until the deadline, a waiter is cancelled by
`passed_with_context` only, and the wait in the grace is not left before it is over. -/
def Submission.allows (submission : Submission τ) (now : τ) (s : Clocked τ) : Label → Bool
  | .waiterEnds .deadline false => submission.deadline ≤ now
  | .waiterEnds waiter true => s.tasks.cancelled waiter
  | .graceOver => s.since + submission.grace ≤ now
  | .resumes interrupted => !interrupted
  | .interrupt => false
  | _ => true

def Submission.step (submission : Submission τ) (now : τ) (s : Clocked τ) (label : Label) :
    Option (Clocked τ) :=
  if submission.allows now s label then
    (HelperTasks.step submission.config s.tasks label).map fun tasks =>
      ⟨tasks, if label = .cancelNext then now else s.since⟩
  else none

/-- What is due at once: `asyncio.wait` returns, the loop over the unfinished goes on, a
cancelled waiter ends. The deadline and the grace are due in time, the work never. -/
def Submission.latest (submission : Submission τ) (now : τ) (s : Clocked τ) : Option τ :=
  match s.tasks.stage with
  | .racing =>
      if submission.config.race.any s.tasks.done then some now else some submission.deadline
  | .tidying _ => some now
  | .awaiting untask _ =>
      if untask = .work ∧ s.tasks.done .work = false then
        if s.tasks.timedOut then some (s.since + submission.grace) else none
      else some now
  | .ended => none

def Submission.system (submission : Submission τ) : System (Clocked τ) Label τ :=
  ⟨submission.step, submission.latest⟩

def Clocked.withdrawn (s : Clocked τ) : Prop :=
  s.tasks.timedOut = false ∧ s.tasks.cancelled .work = true

def InTime (submission : Submission τ) (now : τ) (s : Clocked τ) (losers : List Racer) : Prop :=
  s.withdrawn ∨ (.work ∈ losers → now ≤ submission.deadline) ∧
    now ≤ submission.deadline + submission.grace

def Inv (submission : Submission τ) (now : τ) (s : Clocked τ) : Prop :=
  match s.tasks.stage with
  | .racing => now ≤ submission.deadline
  | .tidying losers => losers.Nodup ∧ InTime submission now s losers
  | .awaiting untask rest =>
      s.tasks.cancelled untask = true ∧ (untask :: rest).Nodup ∧
        if untask = .work then
          s.withdrawn ∨ s.tasks.timedOut = true ∧ s.since ≤ submission.deadline ∧
            now ≤ s.since + submission.grace
        else InTime submission now s rest
  | .ended => True

variable {submission : Submission τ} {now : τ} {s s' : Clocked τ}

theorem inv_ends {tasks : HelperTasks.State} (held : Inv submission now s)
    (stage : tasks.stage = s.tasks.stage) (timedOut : tasks.timedOut = s.tasks.timedOut)
    (cancelled : tasks.cancelled = s.tasks.cancelled) :
    Inv submission now ⟨tasks, s.since⟩ := by
  simpa [Inv, InTime, Clocked.withdrawn, stage, timedOut, cancelled] using held

/-- While the deadline has not passed, or the work is awaited in its grace, the loop waits;
else it has a step to take. -/
theorem free_of_inv (held : Inv submission now s) (running : s.tasks.stage ≠ .ended) :
    submission.system.Free now s := by
  have acts : ∀ label, submission.allows now s label = true →
      (HelperTasks.step submission.config s.tasks label).isSome = true →
      submission.system.Free now s := by
    intro label allowed possible
    refine .inl ⟨label, ?_⟩
    simp only [Submission.system, Submission.step]
    rw [if_pos allowed, Option.isSome_map]
    exact possible
  cases stage : s.tasks.stage with
  | racing =>
      have early : now ≤ submission.deadline := by simpa [Inv, stage] using held
      by_cases done : submission.config.race.any s.tasks.done = true
      · apply acts (.wakes (submission.config.race.filter fun racer => !s.tasks.done racer)) rfl
        have ready : ∃ racer ∈ submission.config.race, s.tasks.done racer = true := by
          simpa using done
        simp [HelperTasks.step, stage, ready]
      · rcases early.lt_or_eq with before | same
        · right
          simpa [Submission.system, Submission.latest, stage, done] using before
        · have member : Racer.deadline ∈ submission.config.race := by
            simp [Config.race, submission.timed]
          have pending : s.tasks.waiters .deadline = none := by
            by_contra ended
            apply done
            rw [List.any_eq_true]
            exact ⟨.deadline, member, Option.isSome_iff_ne_none.mpr ended⟩
          apply acts (.waiterEnds .deadline false)
          · simp [Submission.allows, same]
          · simp [HelperTasks.step, pending]
  | tidying losers =>
      cases losers with
      | nil => exact acts .finish rfl (by simp [HelperTasks.step, stage])
      | cons untask rest => exact acts .cancelNext rfl (by simp [HelperTasks.step, stage])
  | awaiting untask rest =>
      by_cases done : s.tasks.done untask = true
      · apply acts (.resumes false) rfl
        have ends := awaited_not_stuck done
        rw [Ne, ← settleLoser_stuck_iff] at ends
        simp only [HelperTasks.step, stage, done, if_true, Bool.false_eq_true, if_false,
          State.settle]
        cases settled : settleLoser (s.tasks.awaited untask) with
        | stuck => exact absurd settled ends
        | finished acknowledged => rfl
        | escaped exc => rfl
      · have busy : s.tasks.done untask = false := by simpa using done
        simp only [Inv, stage] at held
        by_cases work : untask = .work
        · subst work
          cases timedOut : s.tasks.timedOut with
          | false =>
              right
              simp [Submission.system, Submission.latest, stage, busy, timedOut]
          | true =>
              by_cases before : now < s.since + submission.grace
              · right
                simpa [Submission.system, Submission.latest, stage, busy, timedOut] using before
              · apply acts .graceOver
                · simpa [Submission.allows] using before
                · simp [HelperTasks.step, stage, State.bounded, timedOut]
        · have pending : s.tasks.waiters untask = none := by
            cases untask with
            | work => exact absurd rfl work
            | ownCancel | ambientCancel | deadline => simpa [State.done] using busy
          apply acts (.waiterEnds untask true)
          · simpa [Submission.allows] using held.1
          · simp [HelperTasks.step, work, pending]
  | ended => exact absurd stage running

def ownCancelWon (submission : Submission τ) (rest : List Racer) : Clocked τ where
  tasks :=
    { HelperTasks.start with
      waiters := Function.update HelperTasks.start.waiters .ownCancel (some false)
      cancelled := Function.update HelperTasks.start.cancelled .work true
      stage := .awaiting .work rest }
  since := submission.submitted

theorem ownCancelWon_reached (submission : Submission τ) : ∃ rest,
    submission.system.Runs submission.submitted submission.start submission.submitted
      (ownCancelWon submission rest) := by
  let fired : HelperTasks.State :=
    { HelperTasks.start with
      waiters := Function.update HelperTasks.start.waiters .ownCancel (some false) }
  let unfinished := submission.config.race.filter fun racer => !fired.done racer
  obtain ⟨rest, order⟩ : ∃ rest, unfinished = .work :: rest :=
    ⟨_, List.filter_cons_of_pos rfl⟩
  have won : ∃ racer ∈ submission.config.race, fired.done racer = true :=
    ⟨.ownCancel, by simp [Config.race], rfl⟩
  have first : submission.system.step submission.submitted submission.start
      (.waiterEnds .ownCancel false) = some ⟨fired, submission.submitted⟩ := rfl
  have second : submission.system.step submission.submitted ⟨fired, submission.submitted⟩
      (.wakes unfinished) =
        some ⟨{ fired with timedOut := false, stage := .tidying unfinished },
          submission.submitted⟩ := by
    have pending : fired.done .deadline = false := rfl
    have racing : fired.stage = .racing := rfl
    simp [Submission.system, Submission.step, Submission.allows, HelperTasks.step, unfinished, won,
      pending, racing]
  have third : submission.system.step submission.submitted
      ⟨{ fired with timedOut := false, stage := .tidying unfinished }, submission.submitted⟩
      .cancelNext = some (ownCancelWon submission rest) := by
    rw [order]
    rfl
  exact ⟨rest, ((System.Runs.start.act first).act second).act third⟩

variable [IsOrderedAddMonoid τ]

theorem inv_start : Inv submission submission.submitted submission.start :=
  le_add_of_nonneg_right submission.accepted

theorem inv_wakes {unfinished : List Racer} (held : Inv submission now s)
    {tasks : HelperTasks.State}
    (taken : HelperTasks.step submission.config s.tasks (.wakes unfinished) = some tasks) :
    Inv submission now ⟨tasks, s.since⟩ := by
  obtain ⟨⟨racing, _, order⟩, moved⟩ := Option.ite_none_right_eq_some.mp taken
  cases moved
  have early : now ≤ submission.deadline := by simpa [Inv, racing] using held
  refine ⟨order.nodup_iff.mpr ((race_nodup _).filter _), .inr ⟨fun _ => early, ?_⟩⟩
  exact early.trans (le_add_of_nonneg_right submission.grace_nonneg)

theorem inv_cancelNext (held : Inv submission now s) {tasks : HelperTasks.State}
    (taken : HelperTasks.step submission.config s.tasks .cancelNext = some tasks) :
    Inv submission now ⟨tasks, now⟩ := by
  simp only [HelperTasks.step] at taken
  split at taken
  · next untask rest stage =>
      cases taken
      obtain ⟨distinct, inTime⟩ :
          (untask :: rest).Nodup ∧ InTime submission now s (untask :: rest) := by
        simpa [Inv, stage] using held
      refine ⟨by simp, distinct, ?_⟩
      by_cases work : untask = .work
      · subst work
        simp only [if_true]
        by_cases timedOut : s.tasks.timedOut = true
        · right
          rcases inTime with withdrawn | ⟨early, _⟩
          · rw [withdrawn.1] at timedOut
            cases timedOut
          · exact ⟨timedOut, early List.mem_cons_self,
              le_add_of_nonneg_right submission.grace_nonneg⟩
        · exact .inl ⟨by simpa using timedOut, by simp⟩
      · simp only [work, if_false]
        rcases inTime with ⟨timedOut, cancelled⟩ | ⟨early, late⟩
        · left
          refine ⟨timedOut, ?_⟩
          simp [Function.update_of_ne (Ne.symm work), cancelled]
        · exact .inr ⟨fun member => early (List.mem_cons_of_mem _ member), late⟩
  · cases taken

theorem inTime_rest {untask : Racer} {rest : List Racer} (held : Inv submission now s)
    (stage : s.tasks.stage = .awaiting untask rest) :
    rest.Nodup ∧ InTime submission now s rest := by
  obtain ⟨_, distinct, waited⟩ : s.tasks.cancelled untask = true ∧ (untask :: rest).Nodup ∧
      if untask = .work then
        s.withdrawn ∨ s.tasks.timedOut = true ∧ s.since ≤ submission.deadline ∧
          now ≤ s.since + submission.grace
      else InTime submission now s rest := by
    simpa only [Inv, stage] using held
  refine ⟨(List.nodup_cons.mp distinct).2, ?_⟩
  by_cases work : untask = .work
  · rw [if_pos work] at waited
    subst work
    rcases waited with withdrawn | ⟨_, begun, late⟩
    · exact .inl withdrawn
    · right
      refine ⟨fun member => absurd member (List.nodup_cons.mp distinct).1, ?_⟩
      exact late.trans (add_le_add_left begun submission.grace)
  · rwa [if_neg work] at waited

theorem inv_settle {untask : Racer} {rest : List Racer} {awaiting : Awaited}
    (held : Inv submission now s) (stage : s.tasks.stage = .awaiting untask rest)
    {tasks : HelperTasks.State} (taken : s.tasks.settle rest awaiting = some tasks) :
    Inv submission now ⟨tasks, s.since⟩ := by
  unfold State.settle at taken
  split at taken
  · have passed := inTime_rest held stage
    cases taken
    exact passed
  · cases taken
    exact trivial
  · cases taken

theorem inv_step {label : Label} (held : Inv submission now s)
    (taken : submission.step now s label = some s') : Inv submission now s' := by
  obtain ⟨allowed, moved⟩ := Option.ite_none_right_eq_some.mp taken
  obtain ⟨tasks, stepped, rfl⟩ := Option.map_eq_some_iff.mp moved
  cases label with
  | workEnds body =>
      obtain ⟨_, same⟩ := Option.ite_none_right_eq_some.mp stepped
      cases same
      exact inv_ends held rfl rfl rfl
  | waiterEnds waiter cancelled =>
      obtain ⟨_, same⟩ := Option.ite_none_right_eq_some.mp stepped
      cases same
      exact inv_ends held rfl rfl rfl
  | wakes unfinished => exact inv_wakes held stepped
  | cancelNext => exact inv_cancelNext held stepped
  | resumes interrupted =>
      simp only [HelperTasks.step] at stepped
      split at stepped
      · next untask rest stage =>
          split at stepped
          · exact inv_settle held stage stepped
          · obtain ⟨cut, _⟩ := Option.ite_none_right_eq_some.mp stepped
            obtain ⟨_, rfl⟩ := Bool.and_eq_true_iff.mp cut
            simp [Submission.allows] at allowed
      · cases stepped
  | graceOver =>
      simp only [HelperTasks.step] at stepped
      split at stepped
      · next untask rest stage =>
          obtain ⟨_, same⟩ := Option.ite_none_right_eq_some.mp stepped
          have passed := inTime_rest held stage
          cases same
          exact passed
      · cases stepped
  | finish =>
      obtain ⟨_, same⟩ := Option.ite_none_right_eq_some.mp stepped
      cases same
      exact trivial
  | interrupt => simp [Submission.allows] at allowed

theorem inv_still {duration : τ} (held : Inv submission now s) (forward : 0 ≤ duration)
    (inTime : now + duration ≤ now) : Inv submission (now + duration) s := by
  have none : duration = 0 := le_antisymm (by simpa using inTime) forward
  simpa [none] using held

theorem inv_elapse {duration : τ} (held : Inv submission now s) (forward : 0 ≤ duration)
    (inTime : ∀ limit ∈ submission.latest now s, now + duration ≤ limit) :
    Inv submission (now + duration) s := by
  cases stage : s.tasks.stage with
  | racing =>
      by_cases done : submission.config.race.any s.tasks.done = true
      · exact inv_still held forward (inTime now (by simp [Submission.latest, stage, done]))
      · have early := inTime submission.deadline (by simp [Submission.latest, stage, done])
        simpa [Inv, stage] using early
  | tidying losers =>
      exact inv_still held forward (inTime now (by simp [Submission.latest, stage]))
  | awaiting untask rest =>
      by_cases waits : untask = .work ∧ s.tasks.done .work = false
      · obtain ⟨rfl, busy⟩ := waits
        obtain ⟨cancelled, distinct, waited⟩ :
            s.tasks.cancelled .work = true ∧ (Racer.work :: rest).Nodup ∧
              (s.withdrawn ∨ s.tasks.timedOut = true ∧ s.since ≤ submission.deadline ∧
                now ≤ s.since + submission.grace) := by
          simpa only [Inv, stage, if_true] using held
        simp only [Inv, stage, if_true]
        refine ⟨cancelled, distinct, waited.imp_right ?_⟩
        rintro ⟨timedOut, begun, _⟩
        exact ⟨timedOut, begun,
          inTime _ (by simp [Submission.latest, stage, busy, timedOut])⟩
      · exact inv_still held forward (inTime now (by simp [Submission.latest, stage, waits]))
  | ended => simp [Inv, stage]

theorem inv_run (run : submission.system.Runs submission.submitted submission.start now s) :
    Inv submission now s :=
  run.invariant inv_start (fun _ _ _ _ held taken => inv_step held taken)
    (fun _ _ _ held forward inTime => inv_elapse held forward inTime)

/-- A cancel event that wins the race leaves a work that does not end awaited for any time,
whatever the timeout. -/
theorem withdrawn_unbounded (submission : Submission τ) (late : τ) :
    ∃ now s, submission.system.Runs submission.submitted submission.start now s ∧ late ≤ now ∧
      s.tasks.stage ≠ .ended := by
  obtain ⟨rest, run⟩ := ownCancelWon_reached submission
  have waits : submission.latest submission.submitted (ownCancelWon submission rest) = none := rfl
  refine ⟨_, _, run.elapse (le_max_right (late - submission.submitted) 0) ?_, ?_, by
    simp [ownCancelWon]⟩
  · intro limit due
    simp only [Submission.system, waits, Option.mem_def, reduceCtorEq] at due
  · have enough := le_max_left (late - submission.submitted) 0
    exact sub_le_iff_le_add'.mp enough

/-- A submission with a timeout is over once the timeout and the grace are, whatever its
work does, as long as no cancel event wins the race; until then time can go on or the loop
has a step to take. Where a cancel event wins, there is no bound. -/
theorem submission_in_time (submission : Submission τ) :
    (∀ now s, submission.system.Runs submission.submitted submission.start now s →
      Leads (HelperTasks.step submission.config) HelperTasks.start s.tasks ∧
      (s.tasks.stage = .ended ∨ submission.system.Free now s ∧
        (s.withdrawn ∨ now ≤ submission.deadline + submission.grace))) ∧
      ∀ late, ∃ now s, submission.system.Runs submission.submitted submission.start now s ∧
        late ≤ now ∧ s.tasks.stage ≠ .ended := by
  refine ⟨?_, withdrawn_unbounded submission⟩
  intro now s run
  have held : Inv submission now s := inv_run run
  constructor
  · apply run.untimed Clocked.tasks id
    intro now s label s' taken
    obtain ⟨_, moved⟩ := Option.ite_none_right_eq_some.mp taken
    obtain ⟨tasks, stepped, rfl⟩ := Option.map_eq_some_iff.mp moved
    exact stepped
  · by_cases ended : s.tasks.stage = .ended
    · exact .inl ended
    · refine .inr ⟨free_of_inv held ended, ?_⟩
      have grace : submission.deadline ≤ submission.deadline + submission.grace :=
        le_add_of_nonneg_right submission.grace_nonneg
      cases stage : s.tasks.stage with
      | racing =>
          right
          exact le_trans (by simpa [Inv, stage] using held) grace
      | tidying losers =>
          simp only [Inv, stage] at held
          exact held.2.imp_right fun early => early.2
      | awaiting untask rest => exact (inTime_rest held stage).2.imp_right fun early => early.2
      | ended => exact absurd stage ended

def quick : Submission Int where
  config := ⟨true, some "5", false⟩
  submitted := 0
  timeout := 5
  grace := 2
  timed := rfl
  accepted := by decide
  grace_nonneg := by decide

def quickActions : List (Action Label Int) :=
  [.elapse 5, .act (.waiterEnds .deadline false),
    .act (.wakes [.work, .ownCancel, .ambientCancel]), .act .cancelNext, .elapse 2]

def quickLate : Clocked Int where
  tasks :=
    { HelperTasks.start with
      waiters := Function.update HelperTasks.start.waiters .deadline (some false)
      cancelled := Function.update HelperTasks.start.cancelled .work true
      timedOut := true
      stage := .awaiting .work [.ownCancel, .ambientCancel] }
  since := 5

theorem submission_in_time_quick : (7 : Int) ≤ quick.deadline + quick.grace := by
  have run : quick.system.Runs quick.submitted quick.start 7 quickLate :=
    ⟨_, Reaches.start.follow quickActions rfl⟩
  obtain ⟨_, bounded⟩ := (submission_in_time quick).1 7 quickLate run
  rcases bounded with ended | ⟨_, withdrawn | inTime⟩
  · cases ended
  · cases withdrawn.1
  · exact inTime

end Koil.SubmissionDeadlines
