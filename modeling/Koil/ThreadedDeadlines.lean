import Koil.ThreadedInvariant
import Koil.Timed
import Mathlib.Algebra.Order.Group.Int

/-! How long `run_threaded` takes to end once it is cancelled: the cancelled await in time,
on a loop that is free whenever something is due. -/

namespace Koil.ThreadedRun

open Runs Timed

def Woken (setup : Setup) (s : State) : Prop :=
  match s.stage with
  | .created =>
      s.job = .absent ∧ s.ready = [] ∧ s.future = .pending ∧ s.interrupted = false ∧
        s.expired = false
  | .shielded =>
      s.future ≠ .cancelled ∧ s.interrupted = false ∧ s.expired = false ∧
        (s.thrown = true ∨ s.future ≠ .pending → .wake ∈ s.ready)
  | .handling =>
      setup.grace = true ∧
        (s.future = .cancelled → s.interrupted = true ∨ s.expired = true) ∧
        (s.interrupted = true ∨ s.expired = true ∨ s.future ≠ .pending → .wake ∈ s.ready)
  | .stopping => .wake ∈ s.ready
  | .finished _ => True

section steps

variable {setup : Setup} {s s' : State}

@[simp] theorem wakeUp_thrown : s.wakeUp.thrown = s.thrown := by
  obtain ⟨ready, same, _⟩ := wakeUp_eq s
  rw [same]

@[simp] theorem abandon_thrown : s.abandon.thrown = s.thrown := by simp [State.abandon]

@[simp] theorem disturb_stage : (s.disturb setup).stage = s.stage := by
  unfold State.disturb
  split <;> simp

theorem disturb_interrupted : (s.interrupt.disturb setup).interrupted = true := by
  unfold State.disturb
  split <;> simp

theorem disturb_expired : (s.timeOut.disturb setup).expired = true := by
  unfold State.disturb
  split <;> simp

theorem wake_mem_disturb : .wake ∈ (s.disturb setup).ready := by
  unfold State.disturb
  split <;> simp

theorem woken_start : Woken setup start := ⟨rfl, rfl, rfl, rfl, rfl⟩

theorem woken_stopping (stopping : s.stage = .stopping) (queued : .wake ∈ s.ready) :
    Woken setup s := by
  unfold Woken
  rw [stopping]
  exact queued

theorem woken_handling (handling : s.stage = .handling) (grace : setup.grace = true)
    (reason : s.future = .cancelled → s.interrupted = true ∨ s.expired = true)
    (queued : .wake ∈ s.ready) : Woken setup s := by
  unfold Woken
  rw [handling]
  exact ⟨grace, reason, fun _ => queued⟩

theorem Woken.of_same (held : Woken setup s) (begun : s.stage ≠ .created)
    (stage : s'.stage = s.stage)
    (future : s'.future = s.future) (thrown : s'.thrown = s.thrown)
    (interrupted : s'.interrupted = s.interrupted) (expired : s'.expired = s.expired)
    (ready : .wake ∈ s.ready → .wake ∈ s'.ready) : Woken setup s' := by
  unfold Woken at held ⊢
  rw [stage, future, thrown, interrupted, expired]
  cases at_ : s.stage with
  | created => exact absurd at_ begun
  | shielded =>
      rw [at_] at held
      exact ⟨held.1, held.2.1, held.2.2.1, fun due => ready (held.2.2.2 due)⟩
  | handling =>
      rw [at_] at held
      exact ⟨held.1, held.2.1, fun due => ready (held.2.2 due)⟩
  | stopping =>
      rw [at_] at held
      exact ready held
  | finished outcome => trivial

theorem Woken.begun (held : Woken setup s) (there : s.job ≠ .absent ∨ s.ready ≠ []) :
    s.stage ≠ .created := by
  intro created
  unfold Woken at held
  rw [created] at held
  rcases there with job | ready
  · exact job held.1
  · exact ready held.2.1

theorem Woken.grace (held : Woken setup s) (handling : s.stage = .handling) :
    setup.grace = true := by
  unfold Woken at held
  rw [handling] at held
  exact held.1

theorem woken_submit (held : Woken setup s) (created : s.stage = .created) :
    Woken setup (if s.thrown then s.submit.wakeUp else s.submit) := by
  unfold Woken at held
  rw [created] at held
  obtain ⟨_, _, pending, calm, early⟩ := held
  cases thrown : s.thrown <;> simp [Woken, pending, calm, early, thrown]

theorem woken_cancel (held : Woken setup s) (taken : step setup s .cancel = some s') :
    Woken setup s' := by
  simp only [step] at taken
  cases stage : s.stage with
  | created =>
      simp only [stage, Option.some.injEq] at taken
      subst taken
      unfold Woken at held ⊢
      rw [stage] at held
      rw [State.throw_stage, stage]
      exact held
  | shielded =>
      simp only [stage, Option.some.injEq] at taken
      subst taken
      unfold Woken at held
      rw [stage] at held
      simp [Woken, stage, held.1, held.2.1, held.2.2.1]
  | handling =>
      simp only [stage, Option.some.injEq] at taken
      subst taken
      unfold Woken at held
      rw [stage] at held
      exact woken_handling (by simp [stage]) held.1 (fun _ => .inl disturb_interrupted)
        wake_mem_disturb
  | stopping =>
      simp only [stage, Option.some.injEq] at taken
      subst taken
      exact woken_stopping (by simp [stage]) (by simp)
  | finished outcome =>
      simp only [stage] at taken
      cases taken

theorem woken_resume {ready : List Callback} (held : Woken setup s)
    (head : s.ready = .wake :: ready) : Woken setup ((s.pop ready).resume setup) := by
  have begun : s.stage ≠ .created := held.begun (.inr (by simp [head]))
  unfold Woken at held
  unfold State.resume
  split
  · exact trivial
  · next waits =>
      simp only [State.waitEnds, State.pop_future, State.pop_stage] at waits
      simp only [State.pop_stage, State.pop_future]
      cases stage : s.stage with
      | created => exact absurd stage begun
      | shielded =>
          rw [stage] at held
          obtain ⟨kept, calm, early, _⟩ := held
          cases future : s.future with
          | cancelled => exact absurd future kept
          | settled done =>
              dsimp only
              split
              · next handles =>
                  have grace : setup.grace = true := by
                    simp only [future, stage] at waits
                    simp only [State.pop_thrown] at handles
                    by_contra none
                    simp [handles, none] at waits
                  simp only [State.handle, State.pop_future, future]
                  exact woken_handling (by simp) grace (by simp [future]) (by simp)
              · exact trivial
          | pending =>
              dsimp only
              split
              · simp only [State.handle, State.pop_future, future]
                split
                · next grace => simp [Woken, calm, early, future, grace]
                · exact woken_stopping (by simp) (by simp)
              · next quiet =>
                  have notThrown : s.thrown = false := by simpa using quiet
                  simp [Woken, stage, future, calm, early, notThrown]
      | handling =>
          rw [stage] at held
          dsimp only
          split
          · next eager =>
              split
              · exact trivial
              · next calm =>
                  split
                  · exact trivial
                  · next early =>
                      have quiet : s.interrupted = false := by simpa using calm
                      have inTime : s.expired = false := by simpa using early
                      cases future : s.future with
                      | pending => simp [Woken, stage, future, quiet, inTime, held.1]
                      | settled done => simp [future, stage, quiet, inTime] at waits
                      | cancelled =>
                          have reason := held.2.1 future
                          simp [quiet, inTime] at reason
          · exact woken_stopping (by simp) (by simp)
      | stopping => exact trivial
      | finished outcome => simp [Woken, stage]

theorem woken_deliver {done : FutureEnd Unit} {ready : List Callback} (held : Woken setup s)
    (head : s.ready = .deliver done :: ready) :
    Woken setup ((s.pop ready).runCallback setup (.deliver done)) := by
  have begun : s.stage ≠ .created := held.begun (.inr (by simp [head]))
  have popped : Woken setup (s.pop ready) :=
    held.of_same begun rfl rfl rfl rfl rfl (by simp [head])
  simp only [State.runCallback]
  split
  · next pending =>
      simp only [State.pop_future] at pending
      unfold Woken at held
      cases stage : s.stage with
      | created => exact absurd stage begun
      | shielded =>
          rw [stage] at held
          simp [Woken, stage, held.2.1, held.2.2.1]
      | handling =>
          rw [stage] at held
          exact woken_handling (by simp [stage]) held.1 (by simp) (by simp)
      | stopping => exact woken_stopping (by simp [stage]) (by simp)
      | finished outcome => simp [Woken, stage]
  · exact popped

theorem woken_step {label : Label} (held : Woken setup s) (taken : step setup s label = some s') :
    Woken setup s' := by
  cases label with
  | start =>
      obtain ⟨created, moved⟩ := Option.ite_none_right_eq_some.mp taken
      cases moved
      exact woken_submit held created
  | jobStarts =>
      obtain ⟨queued, moved⟩ := Option.ite_none_right_eq_some.mp taken
      cases moved
      exact held.of_same (held.begun (.inl (by simp [queued]))) rfl rfl rfl rfl rfl id
  | jobEnds body =>
      obtain ⟨running, moved⟩ := Option.ite_none_right_eq_some.mp taken
      cases moved
      exact held.of_same (held.begun (.inl (by simp [running]))) rfl rfl rfl rfl rfl (by simp)
  | cancel => exact woken_cancel held taken
  | expire =>
      obtain ⟨⟨handling, grace, _⟩, moved⟩ := Option.ite_none_right_eq_some.mp taken
      cases moved
      exact woken_handling (by simp [handling]) grace (fun _ => .inr disturb_expired)
        wake_mem_disturb
  | callback =>
      simp only [step] at taken
      cases head : s.ready with
      | nil =>
          simp only [head] at taken
          cases taken
      | cons callback ready =>
          simp only [head, Option.some.injEq] at taken
          subst taken
          cases callback with
          | deliver done => exact woken_deliver held head
          | check =>
              have begun : s.stage ≠ .created := held.begun (.inr (by simp [head]))
              have popped : Woken setup (s.pop ready) :=
                held.of_same begun rfl rfl rfl rfl rfl (by simp [head])
              simp only [State.runCallback]
              split
              · exact popped.of_same begun rfl rfl rfl rfl rfl id
              · exact popped
          | wake => exact woken_resume held head

/-- The stages from which a step may lead to this one, and that a request stays. -/
def After (s s' : State) : Prop :=
  match s'.stage with
  | .created => s.stage = .created ∧ (s.thrown = true → s'.thrown = true)
  | .shielded => (s.stage = .created ∨ s.stage = .shielded) ∧ (s.thrown = true → s'.thrown = true)
  | .handling => s.stage = .shielded ∨ s.stage = .handling
  | .stopping => s.stage = .shielded ∨ s.stage = .handling ∨ s.stage = .stopping
  | .finished _ => True

theorem After.of_same (stage : s'.stage = s.stage) (thrown : s.thrown = true → s'.thrown = true) :
    After s s' := by
  unfold After
  rw [stage]
  cases at_ : s.stage <;> simp <;> exact thrown

theorem after_resume {ready : List Callback} : After s ((s.pop ready).resume setup) := by
  unfold State.resume
  split
  · exact trivial
  · simp only [State.pop_stage, State.pop_future]
    cases stage : s.stage with
    | created => exact .of_same rfl id
    | shielded =>
        dsimp only
        split
        · next done future =>
            split
            · simp [After, State.handle, future, stage]
            · exact trivial
        · next pending =>
            split
            · unfold State.handle
              split
              · simp [After, stage]
              · split <;> simp [After, stage]
            · exact .of_same rfl id
    | handling =>
        dsimp only
        split
        · split
          · exact trivial
          · split
            · exact trivial
            · exact .of_same rfl id
        · simp [After, stage]
    | stopping => exact trivial
    | finished outcome => exact .of_same rfl id

theorem after_step {label : Label} (taken : step setup s label = some s') : After s s' := by
  cases label with
  | start =>
      obtain ⟨created, moved⟩ := Option.ite_none_right_eq_some.mp taken
      cases moved
      split <;> simp [After, created]
  | jobStarts | jobEnds _ =>
      obtain ⟨_, moved⟩ := Option.ite_none_right_eq_some.mp taken
      cases moved
      exact .of_same rfl id
  | cancel =>
      simp only [step] at taken
      split at taken
      · cases taken
        exact .of_same rfl fun _ => rfl
      · cases taken
        exact .of_same (by simp) (by simp)
      · next handling =>
          cases taken
          simp [After, handling]
      · next stopping =>
          cases taken
          simp [After, stopping]
      · cases taken
  | expire =>
      obtain ⟨⟨handling, _⟩, moved⟩ := Option.ite_none_right_eq_some.mp taken
      cases moved
      simp [After, handling]
  | callback =>
      simp only [step] at taken
      split at taken
      · cases taken
      · next callback ready head =>
          cases taken
          cases callback with
          | deliver done =>
              simp only [State.runCallback]
              split
              · exact .of_same (by simp) (by simp)
              · exact .of_same rfl id
          | check =>
              simp only [State.runCallback]
              split <;> exact .of_same rfl id
          | wake => exact after_resume

end steps

variable {τ : Type} [AddCommGroup τ] [LinearOrder τ]

structure Limits (τ : Type) where
  eager : Bool
  timeout : τ

def Limits.setup (limits : Limits τ) : Setup := ⟨limits.eager, decide (0 < limits.timeout)⟩

structure Clocked (τ : Type) where
  run : State
  asked : Option τ
  entered : τ

/-- A request to cancel has reached the task, or its function's own CancelledError has. -/
def State.inCancel (s : State) : Bool :=
  s.thrown || s.stage == .handling || s.stage == .stopping

theorem asked_step {τ : Type} {now asked : τ} {c : Clocked τ} {run : State}
    (same : (if c.asked.isNone && run.inCancel then some now else c.asked) = some asked) :
    (c.asked = none ∧ run.inCancel = true ∧ asked = now) ∨ c.asked = some asked := by
  cases before : c.asked with
  | some earlier =>
      right
      simpa [before] using same
  | none =>
      left
      cases cancelled : run.inCancel with
      | true => exact ⟨rfl, rfl, by simpa [before, cancelled, eq_comm] using same⟩
      | false => simp [before, cancelled] at same

def Limits.step (limits : Limits τ) (now : τ) (s : Clocked τ) (label : Label) :
    Option (Clocked τ) :=
  if label = .expire → s.entered + limits.timeout ≤ now then
    (ThreadedRun.step limits.setup s.run label).map fun run =>
      { run := run
        asked := if s.asked.isNone && run.inCancel then some now else s.asked
        entered := if run.stage = .handling ∧ s.run.stage ≠ .handling then now else s.entered }
  else none

/-- Callbacks and the first step of the task are due at once, the end of the wait in the
handler after `cancel_timeout`; the job is never due. -/
def Limits.latest (limits : Limits τ) (now : τ) (s : Clocked τ) : Option τ :=
  match s.run.stage with
  | .created => some now
  | .finished _ => none
  | .handling => if s.run.ready.isEmpty then some (s.entered + limits.timeout) else some now
  | _ => if s.run.ready.isEmpty then none else some now

theorem latest_queued {τ : Type} [AddCommGroup τ] {limits : Limits τ} {now : τ} {c : Clocked τ}
    (queued : c.run.ready ≠ []) (running : ∀ outcome, c.run.stage ≠ .finished outcome) :
    limits.latest now c = some now := by
  unfold Limits.latest
  cases stage : c.run.stage with
  | finished outcome => exact absurd stage (running outcome)
  | created => rfl
  | shielded | handling | stopping => simp [queued]

def Limits.system (limits : Limits τ) : System (Clocked τ) Label τ := ⟨limits.step, limits.latest⟩

/-- How late it can be, by the stage, in a call that was cancelled at a time. -/
def WithinTime (limits : Limits τ) (now : τ) (s : Clocked τ) (asked : τ) : Prop :=
  match s.run.stage with
  | .created | .shielded => s.run.thrown = true ∧ now ≤ asked
  | .handling => s.entered ≤ asked ∧ now ≤ s.entered + limits.timeout
  | .stopping => now ≤ asked + max limits.timeout 0
  | .finished _ => True

structure TimeInv (limits : Limits τ) (now : τ) (s : Clocked τ) : Prop where
  woken : Woken limits.setup s.run
  within : ∀ asked, s.asked = some asked → WithinTime limits now s asked
  calm : s.asked = none → s.run.inCancel = false

variable {limits : Limits τ} {now : τ} {c c' : Clocked τ}

theorem free_of_woken (woken : Woken limits.setup c.run)
    (running : ∀ outcome, c.run.stage ≠ .finished outcome) : limits.system.Free now c := by
  have acts : ∀ label, (label = .expire → c.entered + limits.timeout ≤ now) →
      (ThreadedRun.step limits.setup c.run label).isSome = true → limits.system.Free now c := by
    intro label allowed possible
    refine .inl ⟨label, ?_⟩
    simp only [Limits.system, Limits.step]
    rw [if_pos allowed, Option.isSome_map]
    exact possible
  cases queue : c.run.ready with
  | cons callback ready =>
      exact acts .callback (by simp) (by simp [ThreadedRun.step, queue])
  | nil =>
      cases stage : c.run.stage with
      | created => exact acts .start (by simp) (by simp [ThreadedRun.step, stage])
      | shielded =>
          right
          simp [Limits.system, Limits.latest, stage, queue]
      | handling =>
          have grace := woken.grace stage
          by_cases before : now < c.entered + limits.timeout
          · right
            simpa [Limits.system, Limits.latest, stage, queue] using before
          · have early : c.run.expired = false := by
              by_contra late
              unfold Woken at woken
              rw [stage, queue] at woken
              cases woken.2.2 (.inr (.inl (by simpa using late)))
            exact acts .expire (fun _ => not_lt.mp before)
              (by simp [ThreadedRun.step, stage, grace, early])
      | stopping =>
          unfold Woken at woken
          simp [stage, queue] at woken
      | finished outcome => exact absurd stage (running outcome)

variable [IsOrderedAddMonoid τ]

theorem within_first {run : State} {entered : τ} (held : TimeInv limits now c)
    (first : c.asked = none) (cancelled : run.inCancel = true)
    (entry : entered = if run.stage = .handling ∧ c.run.stage ≠ .handling then now else c.entered)
    (grace : run.stage = .handling → 0 < limits.timeout) :
    WithinTime limits now ⟨run, some now, entered⟩ now := by
  have quiet : c.run.inCancel = false := held.calm first
  simp only [State.inCancel, Bool.or_eq_false_iff, beq_eq_false_iff_ne] at quiet
  obtain ⟨⟨_, calm⟩, active⟩ := quiet
  unfold WithinTime
  cases stage : run.stage with
  | created | shielded => exact ⟨by simpa [State.inCancel, stage] using cancelled, le_refl now⟩
  | handling =>
      rw [if_pos ⟨stage, calm⟩] at entry
      rw [entry]
      exact ⟨le_refl now, le_add_of_nonneg_right (grace stage).le⟩
  | stopping => exact le_add_of_nonneg_right (le_max_right _ _)
  | finished outcome => trivial

theorem within_later {run : State} {entered asked : τ} (held : TimeInv limits now c)
    (after : After c.run run) (earlier : c.asked = some asked)
    (entry : entered = if run.stage = .handling ∧ c.run.stage ≠ .handling then now else c.entered)
    (grace : run.stage = .handling → 0 < limits.timeout) :
    WithinTime limits now ⟨run, some asked, entered⟩ asked := by
  have within := held.within asked earlier
  have early : now ≤ asked → now ≤ asked + max limits.timeout 0 :=
    fun before => before.trans (le_add_of_nonneg_right (le_max_right _ _))
  unfold WithinTime at within ⊢
  unfold After at after
  cases stage : run.stage with
  | created =>
      rw [stage] at after
      rw [after.1] at within
      exact ⟨after.2 within.1, within.2⟩
  | shielded =>
      rw [stage] at after
      rcases after.1 with before | before <;> rw [before] at within <;>
        exact ⟨after.2 within.1, within.2⟩
  | handling =>
      rw [stage] at after
      rcases after with before | before
      · rw [if_pos ⟨stage, by simp [before]⟩] at entry
        rw [before] at within
        rw [entry]
        exact ⟨within.2, le_add_of_nonneg_right (grace stage).le⟩
      · rw [if_neg (by simp [before])] at entry
        rw [before] at within
        rw [entry]
        exact within
  | stopping =>
      rw [stage] at after
      rcases after with before | before | before <;> rw [before] at within
      · exact early within.2
      · have begun : c.entered + limits.timeout ≤ asked + max limits.timeout 0 :=
          add_le_add within.1 (le_max_left _ _)
        exact within.2.trans begun
      · exact within
  | finished outcome => trivial

theorem timeInv_step {label : Label} (held : TimeInv limits now c)
    (taken : limits.step now c label = some c') : TimeInv limits now c' := by
  obtain ⟨_, moved⟩ := Option.ite_none_right_eq_some.mp taken
  obtain ⟨run, stepped, rfl⟩ := Option.map_eq_some_iff.mp moved
  have after : After c.run run := after_step stepped
  have woken : Woken limits.setup run := woken_step held.woken stepped
  have grace : run.stage = .handling → 0 < limits.timeout := by
    intro handling
    simpa [Limits.setup] using woken.grace handling
  refine ⟨woken, ?_, ?_⟩
  · intro asked same
    rcases asked_step same with ⟨first, cancelled, rfl⟩ | earlier
    · exact within_first held first cancelled rfl grace
    · exact within_later held after earlier rfl grace
  · intro same
    cases before : c.asked with
    | some earlier => simp [before] at same
    | none =>
        cases cancelled : run.inCancel with
        | true => simp [before, cancelled] at same
        | false => rfl

theorem timeInv_still {duration : τ} (held : TimeInv limits now c) (forward : 0 ≤ duration)
    (inTime : now + duration ≤ now) : TimeInv limits (now + duration) c := by
  have none : duration = 0 := le_antisymm (by simpa using inTime) forward
  simpa [none] using held

theorem timeInv_elapse {duration : τ} (held : TimeInv limits now c) (forward : 0 ≤ duration)
    (inTime : ∀ limit ∈ limits.latest now c, now + duration ≤ limit) :
    TimeInv limits (now + duration) c := by
  by_cases due : limits.latest now c = some now
  · exact timeInv_still held forward (inTime now due)
  · refine ⟨held.woken, ?_, held.calm⟩
    intro asked earlier
    have within := held.within asked earlier
    have woken := held.woken
    unfold WithinTime at within ⊢
    unfold Woken at woken
    cases stage : c.run.stage with
    | created => exact absurd (by simp [Limits.latest, stage]) due
    | shielded =>
        rw [stage] at within woken
        have queued := woken.2.2.2 (.inl within.1)
        exact absurd (latest_queued (List.ne_nil_of_mem queued) (by simp [stage])) due
    | handling =>
        rw [stage] at within
        have empty : c.run.ready = [] := by
          by_contra queued
          exact due (latest_queued queued (by simp [stage]))
        exact ⟨within.1, inTime _ (by simp [Limits.latest, stage, empty])⟩
    | stopping =>
        rw [stage] at woken
        exact absurd (latest_queued (List.ne_nil_of_mem woken) (by simp [stage])) due
    | finished outcome => trivial

def Clocked.start (begun : τ) : Clocked τ := ⟨ThreadedRun.start, none, begun⟩

theorem timeInv_run {begun : τ} (run : limits.system.Runs begun (.start begun) now c) :
    TimeInv limits now c := by
  apply run.invariant
  · exact ⟨woken_start, by simp [Clocked.start], fun _ => rfl⟩
  · intro now c label c' held taken
    exact timeInv_step held taken
  · intro now c duration held forward inTime
    exact timeInv_elapse held forward inTime

/-- A call that was cancelled is over once `cancel_timeout` has passed since its first
cancellation, whatever its function does, and until then time can go on or the loop has a
step to take. -/
theorem cancelled_in_time {begun : τ} (run : limits.system.Runs begun (.start begun) now c)
    (running : ∀ outcome, c.run.stage ≠ .finished outcome) :
    Leads (ThreadedRun.step limits.setup) ThreadedRun.start c.run ∧
      limits.system.Free now c ∧
      (c.run.inCancel = true → ∃ asked, c.asked = some asked) ∧
      ∀ asked, c.asked = some asked → now ≤ asked + max limits.timeout 0 := by
  have held : TimeInv limits now c := timeInv_run run
  refine ⟨?_, free_of_woken held.woken running, ?_, ?_⟩
  · apply run.untimed Clocked.run id
    intro now c label c' taken
    obtain ⟨_, moved⟩ := Option.ite_none_right_eq_some.mp taken
    obtain ⟨next, stepped, rfl⟩ := Option.map_eq_some_iff.mp moved
    exact stepped
  · intro cancelled
    cases asked : c.asked with
    | some time => exact ⟨time, rfl⟩
    | none => simp [held.calm asked] at cancelled
  · intro asked earlier
    have within := held.within asked earlier
    have more : asked ≤ asked + max limits.timeout 0 := le_add_of_nonneg_right (le_max_right _ _)
    unfold WithinTime at within
    cases stage : c.run.stage with
    | created | shielded =>
        rw [stage] at within
        exact within.2.trans more
    | handling =>
        rw [stage] at within
        exact within.2.trans (add_le_add within.1 (le_max_left _ _))
    | stopping =>
        rw [stage] at within
        exact within
    | finished outcome => exact absurd stage (running outcome)

/-- A call with a `cancel_timeout` of five, cancelled at two, whose function does not end. -/
def patient : Limits Int := ⟨true, 5⟩

def ignored : Clocked Int where
  run := { start with job := .running, stage := .handling, thrown := true }
  asked := some 2
  entered := 2

def ignoredActions : List (Action Label Int) :=
  [.act .start, .act .jobStarts, .elapse 2, .act .cancel, .act .callback, .elapse 5]

theorem ignored_reached : patient.system.Runs 0 (.start 0) 7 ignored :=
  ⟨_, Reaches.start.follow ignoredActions rfl⟩

theorem cancelled_in_time_ignored : patient.system.Free 7 ignored ∧
    (∃ asked, ignored.asked = some asked) ∧ (7 : Int) ≤ 2 + max 5 0 := by
  obtain ⟨_, free, known, bounded⟩ := cancelled_in_time ignored_reached (by simp [ignored])
  exact ⟨free, known rfl, bounded 2 rfl⟩

end Koil.ThreadedRun
