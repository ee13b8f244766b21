import Koil.ThreadedRun

namespace Koil.ThreadedRun

open Fifo Runs

variable {setup : Setup} {s : State}

theorem wakeUp_eq (s : State) : ∃ ready, s.wakeUp = { s with ready := ready } ∧
    (∀ callback, callback ∈ ready ↔ callback ∈ s.ready ∨ callback = .wake) := by
  unfold State.wakeUp
  by_cases queued : .wake ∈ s.ready
  · refine ⟨s.ready, by simp [queued], fun callback => ⟨.inl, ?_⟩⟩
    rintro (member | rfl)
    · exact member
    · exact queued
  · exact ⟨s.ready ++ [.wake], by simp [queued, State.push], by simp⟩

@[simp] theorem wakeUp_job : s.wakeUp.job = s.job := by
  obtain ⟨ready, same, _⟩ := wakeUp_eq s
  rw [same]

@[simp] theorem wakeUp_future : s.wakeUp.future = s.future := by
  obtain ⟨ready, same, _⟩ := wakeUp_eq s
  rw [same]

@[simp] theorem wakeUp_stage : s.wakeUp.stage = s.stage := by
  obtain ⟨ready, same, _⟩ := wakeUp_eq s
  rw [same]

@[simp] theorem wakeUp_interrupted : s.wakeUp.interrupted = s.interrupted := by
  obtain ⟨ready, same, _⟩ := wakeUp_eq s
  rw [same]

@[simp] theorem wakeUp_expired : s.wakeUp.expired = s.expired := by
  obtain ⟨ready, same, _⟩ := wakeUp_eq s
  rw [same]

@[simp] theorem wakeUp_expiry : s.wakeUp.expiry = s.expiry := by
  obtain ⟨ready, same, _⟩ := wakeUp_eq s
  rw [same]

@[simp] theorem mem_wakeUp {callback : Callback} :
    callback ∈ s.wakeUp.ready ↔ callback ∈ s.ready ∨ callback = .wake := by
  obtain ⟨ready, same, member⟩ := wakeUp_eq s
  rw [same]
  exact member callback

theorem one_wake_wakeUp (one : s.ready.count .wake ≤ 1) : s.wakeUp.ready.count .wake ≤ 1 := by
  unfold State.wakeUp
  by_cases queued : .wake ∈ s.ready
  · simpa [queued] using one
  · have none := List.count_eq_zero_of_not_mem queued
    simp [queued, List.count_append, none]

theorem ahead_wakeUp {callback : Callback} (waiting : callback ∈ s.ready)
    (ahead : .wake ∈ s.ready → Ahead callback .wake s.ready) :
    Ahead callback .wake s.wakeUp.ready := by
  unfold State.wakeUp
  by_cases queued : .wake ∈ s.ready
  · simpa [queued] using ahead queued
  · simpa [queued] using ahead_push_late waiting queued

@[simp] theorem abandon_job : s.abandon.job = s.job := by simp [State.abandon]
@[simp] theorem abandon_future : s.abandon.future = .cancelled := by simp [State.abandon]
@[simp] theorem abandon_stage : s.abandon.stage = s.stage := by simp [State.abandon]
@[simp] theorem abandon_interrupted : s.abandon.interrupted = s.interrupted := by
  simp [State.abandon]
@[simp] theorem abandon_expired : s.abandon.expired = s.expired := by simp [State.abandon]
@[simp] theorem abandon_expiry : s.abandon.expiry = s.expiry := by simp [State.abandon]

@[simp] theorem mem_abandon {callback : Callback} :
    callback ∈ s.abandon.ready ↔
      callback ∈ s.ready ∨ callback = .check ∨ callback = .wake := by
  simp [State.abandon, or_assoc]

theorem one_wake_abandon (one : s.ready.count .wake ≤ 1) : s.abandon.ready.count .wake ≤ 1 := by
  refine one_wake_wakeUp ?_
  simpa [List.count_append] using one

theorem one_check_wakeUp (one : s.ready.count .check ≤ 1) : s.wakeUp.ready.count .check ≤ 1 := by
  unfold State.wakeUp
  by_cases queued : .wake ∈ s.ready
  · simpa [queued] using one
  · simpa [queued, List.count_append] using one

theorem one_check_abandon (absent : .check ∉ s.ready) : s.abandon.ready.count .check ≤ 1 := by
  refine one_check_wakeUp ?_
  have none := List.count_eq_zero_of_not_mem absent
  simp [List.count_append, none]

theorem ahead_abandon (absent : .wake ∉ s.ready) : Ahead .check .wake s.abandon.ready := by
  refine ahead_wakeUp (by simp) ?_
  intro present
  simp [absent] at present

/-- The cancelled future has reached the job, or will before the task wakes up. -/
def CancelSeen (s : State) : Prop :=
  (.check ∈ s.ready → Ahead .check .wake s.ready) ∧
  (.check ∉ s.ready → s.job ≠ .queued ∧ (s.interrupted = true → s.job ≠ .running))

def HandlingInv (setup : Setup) (s : State) : Prop :=
  match s.future with
  | .pending =>
      .check ∉ s.ready ∧
      if setup.eager then .wake ∉ s.ready ∧ s.interrupted = false ∧ s.expired = false
      else
        (.wake ∈ s.ready → s.interrupted = true ∨ s.expired = true) ∧
        (s.expired = true → s.interrupted = true ∨ Overran s ∨
          ∃ done, Ahead (.deliver done) .wake s.ready)
  | .settled _ => .check ∉ s.ready ∧ (setup.eager = true → s.expired = false)
  | .cancelled =>
      setup.eager = true ∧ (s.interrupted = true ∨ s.expired = true) ∧ CancelSeen s ∧
      (s.expired = true → Overran s)

def StageInv (setup : Setup) (s : State) : Prop :=
  match s.stage with
  | .created =>
      s.job = .absent ∧ s.future = .pending ∧ s.ready = [] ∧ s.interrupted = false ∧
        s.expired = false
  | .shielded =>
      s.future ≠ .cancelled ∧ s.interrupted = false ∧ s.expired = false ∧ .check ∉ s.ready
  | .handling => setup.grace = true ∧ HandlingInv setup s
  | .stopping => s.future = .cancelled ∧ CancelSeen s ∧ (s.interrupted = true ∨ Overran s)
  | .finished outcome => Supported s outcome

structure Wired (s : State) : Prop where
  settled : ∀ done, s.future = .settled done → s.job = .ended
  delivers : ∀ done, .deliver done ∈ s.ready → s.job = .ended
  undelivered : s.job = .ended → s.future = .pending → ∃ done, .deliver done ∈ s.ready
  one_wake : s.ready.count .wake ≤ 1
  one_check : s.ready.count .check ≤ 1

def Inv (setup : Setup) (s : State) : Prop := Wired s ∧ StageInv setup s

theorem inv_start : Inv setup start := by
  refine ⟨⟨?_, ?_, ?_, ?_, ?_⟩, rfl, rfl, rfl, rfl, rfl⟩ <;> simp [start]

theorem wired_of_same {t : State} (held : Wired s) (job : t.job = s.job)
    (future : t.future = s.future) (ready : t.ready = s.ready) : Wired t := by
  refine ⟨?_, ?_, ?_, ?_, ?_⟩
  · simpa only [job, future] using held.settled
  · simpa only [job, ready] using held.delivers
  · simpa only [job, future, ready] using held.undelivered
  · simpa only [ready] using held.one_wake
  · simpa only [ready] using held.one_check

theorem wired_wakeUp (held : Wired s) : Wired s.wakeUp where
  settled := by simpa using held.settled
  delivers := by simpa using held.delivers
  undelivered := by simpa using held.undelivered
  one_wake := one_wake_wakeUp held.one_wake
  one_check := one_check_wakeUp held.one_check

theorem wired_abandon (held : Wired s) (absent : .check ∉ s.ready) : Wired s.abandon where
  settled := by simp
  delivers := by simpa using held.delivers
  undelivered := by simp
  one_wake := one_wake_abandon held.one_wake
  one_check := one_check_abandon absent

theorem cancelSeen_wakeUp (seen : CancelSeen s) : CancelSeen s.wakeUp := by
  refine ⟨?_, by simpa using seen.2⟩
  intro present
  have waiting : .check ∈ s.ready := by simpa using present
  exact ahead_wakeUp waiting (fun _ => seen.1 waiting)

theorem cancelSeen_abandon (absent : .wake ∉ s.ready) : CancelSeen s.abandon :=
  ⟨fun _ => ahead_abandon absent, by simp⟩

theorem wired_disturb (held : Wired s) (absent : s.future = .pending → .check ∉ s.ready) :
    Wired (s.disturb setup) := by
  unfold State.disturb
  split
  · next giveUp =>
      simp only [Bool.and_eq_true, beq_iff_eq] at giveUp
      exact wired_abandon held (absent giveUp.2)
  · exact wired_wakeUp held

theorem wired_pop (held : Wired s) {callback : Callback} {ready : List Callback}
    (head : s.ready = callback :: ready)
    (settled : ∀ done, callback = .deliver done → s.future ≠ .pending) :
    Wired (s.pop ready) where
  settled := held.settled
  delivers done member :=
    held.delivers done (head ▸ List.mem_cons_of_mem _ member)
  undelivered ended pending := by
    obtain ⟨done, waiting⟩ := held.undelivered ended pending
    rw [head] at waiting
    rcases List.mem_cons.mp waiting with same | waiting
    · exact absurd pending (settled done same.symm)
    · exact ⟨done, waiting⟩
  one_wake := by
    have one := held.one_wake
    rw [head] at one
    exact Nat.le_trans (List.count_le_count_cons ..) one
  one_check := by
    have one := held.one_check
    rw [head] at one
    exact Nat.le_trans (List.count_le_count_cons ..) one

theorem cancelSeen_pop (seen : CancelSeen s) {callback : Callback} {ready : List Callback}
    (head : s.ready = callback :: ready) (ne : callback ≠ .check) : CancelSeen (s.pop ready) := by
  have same : .check ∈ s.ready ↔ .check ∈ ready := by simp [head, Ne.symm ne]
  refine ⟨?_, ?_⟩
  · intro present
    exact ahead_pop (head ▸ seen.1 (same.mpr present)) ne
  · intro absent
    exact seen.2 (fun present => absent (same.mp present))

end Koil.ThreadedRun
