import Koil.Fifo
import Koil.Runs

/-! The koil loop from `run_forever` to `close`, under submissions from any thread.

Of asyncio it takes that `call_soon_threadsafe` queues its callback at the end of
the ready queue and raises once the loop is closed, that callbacks run and tasks
advance only while the loop runs, and that a finished task queues the callback
which hands its result to the future. -/

namespace Koil.Shutdown

open Fifo Runs

/-- The callbacks that matter here: the one `run_coroutine_threadsafe` queues,
`loop.stop`, the one that settles a future, and the first step and the done
callback of a coroutine which `run_until_complete` runs. -/
inductive Callback
  | start (future : Nat)
  | stop
  | settle (future : Nat)
  | firstStep
  | complete
  deriving DecidableEq, Repr

inductive Stage
  | running
  | ended
  | cancelled
  | gathering
  | gathered
  | asyncgens
  | closing
  | closed
  deriving DecidableEq, Repr

/-- The task of a future's `passed_with_context`, from its submission on. -/
inductive Progress
  | absent
  | queued
  | running
  | finished
  deriving DecidableEq, Repr

structure State where
  stage : Stage
  stopping : Bool
  ready : List Callback
  submitted : List Nat
  progress : Nat → Progress
  done : Nat → Bool
  tasks : List Nat
  completed : Bool

def start : State where
  stage := .running
  stopping := false
  ready := []
  submitted := []
  progress _ := .absent
  done _ := false
  tasks := []
  completed := false

inductive Label
  | submit (future : Nat)
  | requestStop
  | callback
  | finish (future : Nat) (escapes : Bool)
  | endRun
  | snapshot
  | startGather
  | gatherEnds
  | startAsyncgens
  | asyncgensEnd
  | close
  deriving DecidableEq, Repr

def Stage.looping : Stage → Bool
  | .running => true
  | .gathering => true
  | .asyncgens => true
  | _ => false

def State.push (s : State) (callback : Callback) : State :=
  { s with ready := s.ready ++ [callback] }

def State.advance (s : State) (future : Nat) (progress : Progress) : State :=
  { s with progress := Function.update s.progress future progress }

def State.runCallback (s : State) : Callback → State
  | .start future => s.advance future .running
  | .stop => { s with stopping := true }
  | .settle future => { s with done := Function.update s.done future true }
  | .firstStep => s
  | .complete => { s with stopping := true }

/-- The run of the loop is past; `run_until_complete` raises if its coroutine is not. -/
def State.leaveRun (s : State) : State :=
  { s with
    stopping := false
    stage :=
      match s.stage with
      | .running => .ended
      | .gathering => if s.completed then .gathered else .closing
      | _ => .closing }

/-- A KeyboardInterrupt or SystemExit of a task leaves the run as it is raised. -/
def State.escape (s : State) : State :=
  { s with
    stopping := false
    stage := if s.stage = .running then .ended else .closing }

def step (s : State) : Label → Option State
  | .submit future =>
      if s.stage = .closed ∨ s.progress future ≠ .absent then none
      else some ({ s with submitted := future :: s.submitted }.advance future .queued |>.push
        (.start future))
  | .requestStop => if s.stage = .closed then none else some (s.push .stop)
  | .callback =>
      match s.stage.looping, s.ready with
      | true, callback :: ready => some ({ s with ready := ready }.runCallback callback)
      | _, _ => none
  | .finish future escapes =>
      if s.stage.looping && s.progress future == .running then
        let after := (s.advance future .finished).push (.settle future)
        some (if escapes then after.escape else after)
      else none
  | .endRun => if s.stage.looping && s.stopping then some s.leaveRun else none
  | .snapshot =>
      if s.stage = .ended then
        some { s with
          stage := .cancelled
          tasks := s.submitted.filter fun future => s.progress future == .running }
      else none
  | .startGather =>
      if s.stage = .cancelled then
        some ({ s with stage := .gathering, completed := false }.push .firstStep)
      else none
  | .gatherEnds =>
      if s.stage = .gathering ∧ s.completed = false ∧ .firstStep ∉ s.ready ∧
          ∀ future ∈ s.tasks, s.progress future = .finished then
        some ({ s with completed := true }.push .complete)
      else none
  | .startAsyncgens =>
      if s.stage = .gathered then
        some ({ s with stage := .asyncgens, completed := false }.push .firstStep)
      else none
  | .asyncgensEnd =>
      if s.stage = .asyncgens ∧ s.completed = false ∧ .firstStep ∉ s.ready then
        some ({ s with completed := true }.push .complete)
      else none
  | .close => if s.stage = .closing then some { s with stage := .closed, ready := [] } else none

def Stage.early : Stage → Bool
  | .running => true
  | .ended => true
  | _ => false

def Callback.isStart : Callback → Bool
  | .start _ => true
  | _ => false

/-- Submissions end before the tasks to cancel are taken, each has become a task by
then, and the gathering is not cut short. -/
def Timely (s : State) : Label → Bool
  | .submit _ => s.stage.early
  | .snapshot => !s.ready.any Callback.isStart
  | .callback => !(s.stage == .gathering && s.ready.head? == some .stop)
  | .finish _ escapes => !(s.stage == .gathering && escapes)
  | _ => true

def Tracked (s : State) (future : Nat) : Prop :=
  match s.progress future with
  | .absent => True
  | .queued => s.stage.early = true
  | .running =>
      s.stage.early = true ∨ (future ∈ s.tasks ∧
        (s.stage = .cancelled ∨
          (s.stage = .gathering ∧ s.completed = false ∧ s.stopping = false)))
  | .finished =>
      s.done future = true ∨ (.settle future ∈ s.ready ∧
        (s.stage.early = true ∨ s.stage = .cancelled ∨
          (s.stage = .gathering ∧ s.stopping = false ∧
            Ahead (.settle future) .complete s.ready)))

structure Safe (s : State) : Prop where
  listed : ∀ future, s.progress future ≠ .absent → future ∈ s.submitted
  starts : ∀ future,
    s.ready.count (.start future) = if s.progress future = .queued then 1 else 0
  tracked : ∀ future, Tracked s future
  not_complete_early : s.stage.early = true ∨ s.stage = .cancelled → .complete ∉ s.ready
  complete_gathering : s.stage = .gathering → .complete ∈ s.ready → s.completed = true
  halted : s.stage.looping = false → s.stopping = false

theorem safe_start : Safe start where
  listed future accepted := absurd rfl accepted
  starts future := by simp [start]
  tracked future := by simp [Tracked, start]
  not_complete_early _ := by simp [start]
  complete_gathering gathering := by cases gathering
  halted _ := rfl

theorem tracked_push {s : State} {future : Nat} (held : Tracked s future) {callback : Callback}
    (ne : callback ≠ .complete) : Tracked (s.push callback) future := by
  unfold Tracked at held ⊢
  simp only [State.push]
  cases progress : s.progress future with
  | absent => trivial
  | queued => simpa only [progress] using held
  | running => simpa only [progress] using held
  | finished =>
      simp only [progress] at held
      rcases held with done | ⟨waiting, early | cancelled | ⟨gathering, going, ahead⟩⟩
      · exact .inl done
      · exact .inr ⟨List.mem_append_left _ waiting, .inl early⟩
      · exact .inr ⟨List.mem_append_left _ waiting, .inr (.inl cancelled)⟩
      · exact .inr ⟨List.mem_append_left _ waiting,
          .inr (.inr ⟨gathering, going, ahead_push ahead ne⟩)⟩

theorem tracked_advance_other {s : State} {future other : Nat} (progress : Progress)
    (ne : other ≠ future) : Tracked (s.advance future progress) other ↔ Tracked s other := by
  simp [Tracked, State.advance, Function.update_of_ne ne]

theorem settled_of_over {s : State} {future : Nat} (held : Tracked s future)
    (accepted : s.progress future ≠ .absent) (late : s.stage.early = false)
    (past : s.stage ≠ .cancelled ∧ (s.stage = .gathering → s.stopping = true)) :
    s.progress future = .finished ∧ s.done future = true := by
  unfold Tracked at held
  cases progress : s.progress future with
  | absent => exact absurd progress accepted
  | queued =>
      simp only [progress] at held
      rw [late] at held
      cases held
  | running =>
      simp only [progress] at held
      rcases held with early | ⟨_, cancelled | ⟨gathering, _, going⟩⟩
      · rw [late] at early
        cases early
      · exact absurd cancelled past.1
      · rw [past.2 gathering] at going
        cases going
  | finished =>
      simp only [progress] at held
      rcases held with done | ⟨_, early | cancelled | ⟨gathering, going, _⟩⟩
      · exact ⟨rfl, done⟩
      · rw [late] at early
        cases early
      · exact absurd cancelled past.1
      · rw [past.2 gathering] at going
        cases going

theorem tracked_of_done {s : State} {future : Nat} (done : s.done future = true)
    (finished : s.progress future = .finished) : Tracked s future := by
  simp [Tracked, finished, done]

end Koil.Shutdown
