import Koil.CancelScopeRuns

namespace Koil.CancelScope

open Race Runs

variable {s : State} {id : Nat} {fut : Future}

theorem withdraw_proper {racer : Racer} {effect : Effect}
    (withdrawn : fut.withdraw id racer = some effect) : effect.Proper fut id := by
  unfold Future.withdraw at withdrawn
  split at withdrawn
  · next waiting =>
      cases withdrawn
      refine proper_of rfl (fun held => held) (fun other done => ?_) (by simp [Effect.allows])
      exact (requeued waiting other).1.mpr done
  · cases withdrawn
    exact still_proper rfl rfl rfl
  · cases withdrawn

theorem inv_start : Inv start := by
  refine ⟨fun id fut present => ?_, fun event set => ?_, fun loop callback member => ?_⟩
  · cases present
  · cases set
  · cases member

theorem Inv.handlerDue (inv : Inv s) {worker noted : Worker} (present : s.workers id = some worker)
    (loop : noted.loop = worker.loop)
    (awaiter : worker.awaiterCancelled = true → noted.awaiterCancelled = true)
    (ended : worker.endedCancelled = true → noted.endedCancelled = true)
    (because : noted.awaiterCancelled = true ∨ noted.endedCancelled = true) :
    Inv ((s.setWorker id noted).push worker.loop (.handler id)) := by
  have set : Inv (s.setWorker id noted) := by
    refine inv.setWorker fun before present' => ?_
    cases present.symm.trans present'
    exact ⟨loop, awaiter, ended⟩
  exact set.push worker.loop ⟨noted, Function.update_self .., because⟩

theorem inv_cancelled {s' : State} (inv : Inv s) (stepped : step s (.cancel id) = some s') :
    Inv s' := by
  obtain ⟨fut, effect, present, isEffect, rfl⟩ := withFuture_some stepped
  split at isEffect
  · cases isEffect
  · cases isEffect
  · cases isEffect
    refine inv.own present ?_ (marked_inv (inv.futures id fut present) true fut.graceOver [])
    exact ⟨fun _ => rfl,
      fun racer => finished_mono (fun held => held) (fun _ held => held) racer,
      fun _ member => absurd member List.not_mem_nil⟩

theorem inv_signalled {s' : State} (inv : Inv s) (stepped : step s (.signal id) = some s') :
    Inv s' := by
  obtain ⟨fut, effect, present, isEffect, rfl⟩ := withFuture_some stepped
  have held := inv.futures id fut present
  split at isEffect
  · next requested =>
      cases isEffect
      refine inv.own present ?_ (marked_inv held fut.requested fut.graceOver _)
      refine proper_of rfl (fun held => held) (fun _ held => held) fun callback member => ?_
      obtain rfl := List.mem_singleton.mp member
      exact ⟨rfl, requested⟩
  · cases isEffect

theorem inv_step (s : State) (label : Label) (s' : State) (inv : Inv s)
    (bound : BoundHere s label = true) (stepped : step s label = some s') : Inv s' := by
  cases label with
  | capture id loop ambient timeout =>
      simp only [step] at stepped
      split at stepped
      · cases stepped
      · next accepted =>
          cases stepped
          simp only [Bool.or_eq_true, not_or, Option.not_isSome_iff_eq_none] at accepted
          refine inv.capture accepted.1 fun worker captured => ?_
          subst captured
          simpa [BoundHere] using bound
  | submit id =>
      obtain ⟨fut, effect, present, isEffect, rfl⟩ := withFuture_some stepped
      split at isEffect
      · next stage =>
          cases isEffect
          refine inv.own present ?_ (submit_inv (inv.futures id fut present) stage)
          exact proper_of rfl (fun held => held) (fun _ held => held)
            (by simp [Effect.pushing, Effect.allows])
      · cases isEffect
  | cancel id => exact inv_cancelled inv stepped
  | signal id => exact inv_signalled inv stepped
  | workEnds id body =>
      obtain ⟨fut, effect, present, isEffect, rfl⟩ := withFuture_some stepped
      have held := inv.futures id fut present
      have ends : fut.workEnds id body = some effect := by
        split at isEffect
        · split at isEffect
          · cases isEffect
          · exact isEffect
        · exact isEffect
      exact inv.own present (workEnds_proper ends) (workEnds_inv held ends)
  | timer id =>
      obtain ⟨fut, effect, present, isEffect, rfl⟩ := withFuture_some stepped
      split at isEffect
      · next waiting =>
          cases isEffect
          exact inv.own present (timer_proper waiting)
            (timer_inv (inv.futures id fut present) waiting)
      · cases isEffect
  | graceOver id =>
      obtain ⟨fut, effect, present, isEffect, rfl⟩ := withFuture_some stepped
      split at isEffect
      · cases isEffect
        refine inv.own present ?_ (marked_inv (inv.futures id fut present) fut.requested true _)
        exact proper_of rfl (fun held => held) (fun _ held => held)
          (by simp [Effect.pushing, Effect.allows])
      · cases isEffect
  | throw id =>
      obtain ⟨fut, effect, present, thrown, rfl⟩ := withFuture_some stepped
      exact inv.own present (throw_proper thrown) (throw_inv (inv.futures id fut present) thrown)
  | withdraw id racer =>
      obtain ⟨fut, effect, present, isEffect, rfl⟩ := withFuture_some stepped
      split at isEffect
      · next shutting =>
          exact inv.own present (withdraw_proper isEffect)
            (withdraw_inv (inv.futures id fut present) shutting isEffect)
      · cases isEffect
  | runThreaded worker loop =>
      simp only [step] at stepped
      split at stepped
      · cases stepped
      · next unused =>
          cases stepped
          refine inv.setWorker fun before present => ?_
          exact absurd (by rw [present]; rfl) unused
  | cancelAwaiter id =>
      obtain ⟨worker, present, rfl⟩ := Option.map_eq_some_iff.mp stepped
      exact inv.handlerDue present rfl (fun _ => rfl) (fun held => held) (.inl rfl)
  | workerEnds id body =>
      obtain ⟨worker, present, ended⟩ := Option.bind_eq_some_iff.mp stepped
      split at ended
      · cases ended
        exact inv.handlerDue present rfl (fun held => held) (fun _ => rfl) (.inr rfl)
      · cases ended
        exact inv
  | shutdown loop =>
      cases stepped
      exact inv.shutdown loop
  | callback loop iterated =>
      simp only [step] at stepped
      split at stepped
      · cases stepped
      · next callback tail first => exact inv_runCallback inv first stepped

theorem no_callback {loop : Nat} {callback : Callback} {P : Prop} (quiet : s.quiescent loop)
    (waits : callback ∈ s.ready loop) : P := by
  rw [State.quiescent] at quiet
  rw [quiet] at waits
  cases waits

theorem quiescent_waiter (held : FutInv s id fut) (quiet : s.quiescent fut.loop) (racer : Racer) :
    fut.waiter racer ≠ .queued := by
  intro queued
  have waits := held.1.stepping racer queued
  exact no_callback quiet waits

theorem quiescent_done (held : FutInv s id fut) (quiet : s.quiescent fut.loop) {racer : Racer}
    {event : EventId} (present : fut.waiter racer ≠ .absent)
    (isEvent : fut.event id racer = some event) (set : s.flag event = true) :
    fut.waiter racer = .done := by
  cases waiter : fut.waiter racer with
  | absent => exact absurd waiter present
  | queued => exact absurd waiter (quiescent_waiter held quiet racer)
  | waiting =>
      have unset := (held.1.listening racer event waiter isEvent).1
      exact Bool.noConfusion (unset.symm.trans set)
  | done => rfl

theorem quiescent_not_racing (held : FutInv s id fut) (quiet : s.quiescent fut.loop)
    (set : s.eventSet id fut) (woken : Bool) : fut.stage ≠ .racing woken := by
  intro stage
  have stageHeld := held.2
  simp only [StageInv, stage] at stageHeld
  obtain ⟨present, _, _, _, awake, asleep⟩ := stageHeld
  cases woken with
  | true =>
      have waits := (awake rfl).1
      exact no_callback quiet waits
  | false =>
      have noticed : ∃ racer, fut.finished racer = true := by
        rcases set with own | ⟨worker, captured, ambient⟩
        · have done := quiescent_done held quiet present.1 rfl own
          exact ⟨.ownCancel, finished_of_done done (by simp)⟩
        · have isEvent : fut.event id .ambientCancel = some (.worker worker) := by
            simp [Future.event, captured]
          have done := quiescent_done held quiet (present.2 (by simp [captured])) isEvent ambient
          exact ⟨.ambientCancel, finished_of_done done (by simp)⟩
      obtain ⟨racer, finished⟩ := noticed
      have waits := asleep rfl racer finished
      exact no_callback quiet waits

theorem quiescent_work (held : FutInv s id fut) (quiet : s.quiescent fut.loop)
    (submitted : fut.stage ≠ .captured) (set : s.eventSet id fut) :
    fut.work.isSome = true ∨ fut.asked = true := by
  have stageHeld := held.2
  cases stage : fut.stage with
  | captured => exact absurd stage submitted
  | queued | created =>
      simp only [StageInv, stage] at stageHeld
      have waits := stageHeld.1
      exact no_callback quiet waits
  | racing woken => exact absurd stage (quiescent_not_racing held quiet set woken)
  | tidying verdict current rest acknowledged =>
      simp only [StageInv, stage] at stageHeld
      obtain ⟨_, _, atWork, atWaiter⟩ := stageHeld
      by_cases isWork : current = .work
      · exact atWork isWork
      · rcases (atWaiter isWork).2 with queued | ⟨_, waits⟩
        · exact absurd queued (quiescent_waiter held quiet current)
        · exact no_callback quiet waits
  | resolved done =>
      simp only [StageInv, stage] at stageHeld
      exact stageHeld.2

theorem Inv.scoped (inv : Inv s) : Scoped s where
  own id fut present set := by
    obtain ⟨_, present', requested⟩ := inv.flagged (.own id) set
    cases present.symm.trans present'
    exact requested
  worker id worker present set := by
    obtain ⟨_, present', reason⟩ := inv.flagged (.worker id) set
    cases present.symm.trans present'
    exact reason
  resolved id fut done present stage cancelled := by
    have stageHeld := (inv.futures id fut present).2
    simp only [StageInv, stage] at stageHeld
    exact stageHeld.1 cancelled
  prompt id fut present submitted quiescent set :=
    ⟨fun woken => quiescent_not_racing (inv.futures id fut present) quiescent set woken,
      quiescent_work (inv.futures id fut present) quiescent submitted set⟩

/-- Cancellation is scoped exactly in every run in which no submission captures an
event that is bound to another loop. -/
theorem cancellation_scoped {history : List (State × Label)} {s : State}
    (run : Reaches step start history s)
    (bound : ∀ taken ∈ history, BoundHere taken.1 taken.2 = true) : Scoped s :=
  (run.guarded_invariant inv_start inv_step bound).scoped

def workerCancelled : List Label :=
  [.runThreaded 0 0, .capture 0 0 (some 0) none, .submit 0, .callback 0 [], .callback 0 [],
    .callback 0 [], .callback 0 [], .cancelAwaiter 0, .callback 0 [], .callback 0 [],
    .callback 0 [], .callback 0 [], .callback 0 [.ownCancel, .work], .callback 0 [],
    .callback 0 [], .workEnds 0 (.error (.of .asyncioCancelledError "")), .callback 0 []]

theorem cancellation_scoped_workerCancelled : ∃ history s, Reaches step start history s ∧
    (s.futures 0).map Future.stage = some (.resolved .cancelled) ∧ Scoped s := by
  have initial : Reaches step start [] start := .start
  have run := initial.follow workerCancelled rfl
  exact ⟨_, _, run, by decide, cancellation_scoped run (by decide)⟩

/-- The worker of loop 0 has entered a koil of its own, with loop 1: its future is
submitted there, and the coroutine swallows the cancellation. -/
def boundElsewhere : List Label :=
  [.runThreaded 0 0, .capture 0 1 (some 0) none, .submit 0, .callback 1 [], .callback 1 [],
    .callback 1 [], .callback 1 [], .callback 1 [], .callback 1 [.work, .ownCancel],
    .workEnds 0 (.ok ()), .callback 1 [], .callback 1 [], .callback 1 []]

/-- The future is cancelled though no event was set and no loop is shutting down. -/
theorem cancellation_unscoped : ∃ history s, Reaches step start history s ∧
    (s.futures 0).map Future.stage = some (.resolved .cancelled) ∧
    s.flag (.own 0) = false ∧ s.flag (.worker 0) = false ∧ s.shutting 1 = false ∧
    ¬ Scoped s := by
  have initial : Reaches step start [] start := .start
  have run := initial.follow boundElsewhere rfl
  refine ⟨_, _, run, by decide, by decide, by decide, by decide, fun held => ?_⟩
  rcases held.resolved 0 _ .cancelled rfl rfl rfl with set | ⟨_, isBody, cancelled, _⟩ | shutting
  · rcases set with own | ⟨worker, captured, ambient⟩
    · cases own
    · cases captured
      cases ambient
  · cases isBody
    cases cancelled
  · cases shutting

end Koil.CancelScope
