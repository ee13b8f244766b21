import Koil.CancelScopeSteps

namespace Koil.CancelScope

open Race Runs

variable {s : State} {id : Nat} {fut : Future} {ready : Nat → List Callback} {racer : Racer}

theorem not_foreign (wired : Wired s id fut) (present : s.futures id = some fut) :
    s.foreign fut id racer = false := by
  unfold State.foreign
  cases racer with
  | work | deadline => rfl
  | ownCancel => simp [Future.event, State.eventLoop, present]
  | ambientCancel =>
      cases captured : fut.ambient with
      | none => simp [Future.event, captured]
      | some worker => simp [Future.event, captured, State.eventLoop, wired.bound worker captured]

theorem waiterStep_not_work (wired : Wired s id fut) (queued : fut.waiter racer = .queued) :
    racer ≠ .work := by
  rintro rfl
  rcases wired.occupied .work (by simp [queued]) with isDeadline | isSome
  · cases isDeadline
  · simp [Future.event] at isSome

def Future.withWaiter (fut : Future) (racer : Racer) (waiter : Waiter) : Future :=
  { fut with waiter := Function.update fut.waiter racer waiter }

section WithWaiter

variable {waiter : Waiter} {other : Racer}

@[simp] theorem withWaiter_self : (fut.withWaiter racer waiter).waiter racer = waiter :=
  Function.update_self ..

theorem withWaiter_of_ne (ne : other ≠ racer) :
    (fut.withWaiter racer waiter).waiter other = fut.waiter other :=
  Function.update_of_ne ne ..

theorem withWaiter_eq {after : Waiter}
    (isAfter : (fut.withWaiter racer waiter).waiter other = after)
    (differ : waiter ≠ after) : other ≠ racer ∧ fut.waiter other = after := by
  by_cases same : other = racer
  · subst same
    exact absurd (withWaiter_self.symm.trans isAfter) differ
  · exact ⟨same, (withWaiter_of_ne same).symm.trans isAfter⟩

theorem withWaiter_kept {before : Waiter} (isBefore : fut.waiter other = before)
    (differ : fut.waiter racer ≠ before) :
    other ≠ racer ∧ (fut.withWaiter racer waiter).waiter other = before := by
  have ne : other ≠ racer := by
    rintro rfl
    exact differ isBefore
  exact ⟨ne, (withWaiter_of_ne ne).trans isBefore⟩

theorem Future.present.withWaiter (held : fut.present) (stays : waiter ≠ .absent) :
    (fut.withWaiter racer waiter).present := by
  have kept : ∀ other, fut.waiter other ≠ .absent →
      (fut.withWaiter racer waiter).waiter other ≠ .absent :=
    fun other before isAbsent => before (withWaiter_eq isAbsent stays).2
  exact ⟨kept _ held.1, fun captured => kept _ (held.2 captured)⟩

theorem finished_of_done (done : fut.waiter racer = .done) (ne : racer ≠ .work) :
    fut.finished racer = true := by
  cases racer with
  | work => exact absurd rfl ne
  | ownCancel | ambientCancel | deadline => simp [Future.finished, done]

theorem requeued (waiting : fut.waiter racer = .waiting) (other : Racer) :
    ((fut.withWaiter racer .queued).waiter other = .done ↔ fut.waiter other = .done) ∧
      ((fut.withWaiter racer .queued).waiter other = .absent ↔ fut.waiter other = .absent) ∧
      (fut.waiter other = .queued → (fut.withWaiter racer .queued).waiter other = .queued) := by
  have differs : ∀ state, state ≠ .waiting → fut.waiter racer ≠ state :=
    fun state ne same => ne (same.symm.trans waiting)
  refine ⟨⟨fun done => ?_, fun done => ?_⟩, ⟨fun absent => ?_, fun absent => ?_⟩,
    fun isQueued => ?_⟩
  · exact (withWaiter_eq done (by simp)).2
  · exact (withWaiter_kept done (differs _ (by simp))).2
  · exact (withWaiter_eq absent (by simp)).2
  · exact (withWaiter_kept absent (differs _ (by simp))).2
  · exact (withWaiter_kept isQueued (differs _ (by simp))).2

end WithWaiter

def Future.wakesUp (fut : Future) (id : Nat) (racer : Racer) : List Callback :=
  match fut.stage with
  | .racing _ => [.completed id]
  | .tidying _ current _ _ => if current = racer then [.mainStep id] else []
  | _ => []

def Future.waiterDone (fut : Future) (id : Nat) (racer : Racer) : Effect :=
  .pushing (fut.withWaiter racer .done) (fut.wakesUp id racer)

def Future.waiterWaits (fut : Future) (id : Nat) (racer : Racer) : Effect :=
  ⟨fut.withWaiter racer .waiting, [], fut.event id racer, none⟩

theorem waiterStep_eq (fut : Future) (id : Nat) (racer : Racer) (fired foreign : Bool) :
    fut.waiterStep id racer fired foreign =
      if fut.waiter racer = .queued then
        if fut.withdrawn racer || fired || foreign then fut.waiterDone id racer
        else fut.waiterWaits id racer
      else .still fut := rfl

theorem waiterDone_inv (held : FutInv s id fut)
    (others : Taken s ready (.waiterStep id racer)) (queued : fut.waiter racer = .queued)
    (ends : fut.withdrawn racer = true ∨ s.fired fut id racer = true) :
    FutInv (s.after ready id (fut.waiterDone id racer)) id (fut.withWaiter racer .done) := by
  have stageHeld := held.2
  have notWork := waiterStep_not_work held.1 queued
  refine ⟨@wired_apply s id fut held.1 ready (fut.waiterDone id racer) rfl rfl
    (fun held => held) (fun held => held) ?_ ?_ (update_occupied (by simp [queued])), ?_⟩
  · intro other event waiting _
    exact .inl ⟨(withWaiter_eq waiting (by simp)).2, by simp [Future.waiterDone, Effect.pushing]⟩
  · intro other isQueued
    obtain ⟨ne, before⟩ := withWaiter_eq isQueued (by simp)
    exact .inl (others.other (held.1.stepping other before) (by simpa using ne))
  · have kept : ∀ callback, callback ≠ .waiterStep id racer → callback ∈ s.ready fut.loop →
        callback ∈ (s.after ready id (fut.waiterDone id racer)).ready fut.loop :=
      fun callback ne waits => mem_apply_ready.mpr (.inl (others.other waits ne))
    have pushed : ∀ callback, callback ∈ fut.wakesUp id racer →
        callback ∈ (s.after ready id (fut.waiterDone id racer)).ready fut.loop :=
      fun callback woken => mem_apply_ready.mpr (.inr ⟨rfl, woken⟩)
    cases stage : fut.stage with
    | captured =>
        simp only [StageInv, stage] at stageHeld
        exact Waiter.noConfusion ((stageHeld.unused racer).1.symm.trans queued)
    | queued | created =>
        simp only [StageInv, stage] at stageHeld
        exact Waiter.noConfusion ((stageHeld.2.unused racer).1.symm.trans queued)
    | racing woken =>
        simp only [StageInv, stage] at stageHeld
        obtain ⟨present, unasked, asked, fired, awake, _⟩ := stageHeld
        have done : (fut.withWaiter racer .done).finished racer = true :=
          finished_of_done withWaiter_self notWork
        simp only [StageInv, Future.withWaiter, stage]
        refine ⟨present.withWaiter (by simp), unasked, asked, ?_,
          fun isWoken => ⟨?_, racer, done⟩, ?_⟩
        · intro other isDone
          by_cases same : other = racer
          · subst same
            exact ends.elim (fun withdrawn => .inr (asked other withdrawn)) .inl
          · rw [Function.update_of_ne same] at isDone
            exact fired other isDone
        · exact kept _ (by simp) (awake isWoken).1
        · exact fun _ _ _ => pushed _ (by simp [Future.wakesUp, stage])
    | tidying verdict current rest acknowledged =>
        simp only [StageInv, stage] at stageHeld
        obtain ⟨holds, covered, atWork, atWaiter⟩ := stageHeld
        simp only [StageInv, Future.withWaiter, stage]
        refine ⟨?_, covered, atWork, fun isWaiter => ⟨(atWaiter isWaiter).1, ?_⟩⟩
        · cases verdict with
          | won body => exact holds
          | timedOut => trivial
          | cancelled => exact holds
        · by_cases same : current = racer
          · subst same
            exact .inr ⟨Function.update_self .., pushed _ (by simp [Future.wakesUp, stage])⟩
          · rw [Function.update_of_ne same]
            exact (atWaiter isWaiter).2.imp_right fun due => ⟨due.1, kept _ (by simp) due.2⟩
    | resolved done =>
        simp only [StageInv, stage] at stageHeld
        simp only [StageInv, Future.withWaiter, stage]
        exact stageHeld

theorem waiterWaits_inv (held : FutInv s id fut)
    (others : Taken s ready (.waiterStep id racer)) (queued : fut.waiter racer = .queued)
    (stays : fut.withdrawn racer = false) (unfired : s.fired fut id racer = false) :
    FutInv (s.after ready id (fut.waiterWaits id racer)) id (fut.withWaiter racer .waiting) := by
  have stageHeld := held.2
  refine ⟨@wired_apply s id fut held.1 ready (fut.waiterWaits id racer) rfl rfl
    (fun held => held) (fun held => held) ?_ ?_ (update_occupied (by simp [queued])), ?_⟩
  · intro other event waiting isEvent
    by_cases same : other = racer
    · subst same
      simp only [State.fired, isEvent] at unfired
      exact .inr ⟨isEvent, unfired⟩
    · exact .inl ⟨(withWaiter_of_ne same).symm.trans waiting, by simp [Future.waiterWaits]⟩
  · intro other isQueued
    obtain ⟨ne, before⟩ := withWaiter_eq isQueued (by simp)
    exact .inl (others.other (held.1.stepping other before) (by simpa using ne))
  · refine stageHeld.later ⟨rfl, rfl, rfl, rfl, fun held => held, .inl, ?_, ?_, ?_,
      fun _ held => held, fun _ held => .inl held,
      fun held => held, fun _ held => held, fun _ held => held, ?_⟩
    · intro other
      refine ⟨fun done => (withWaiter_eq done (by simp)).2, fun done => ?_⟩
      exact (withWaiter_kept done (by simp [queued])).2
    · intro other
      refine ⟨fun absent => (withWaiter_eq absent (by simp)).2, fun absent => ?_⟩
      exact (withWaiter_kept absent (by simp [queued])).2
    · intro other withdrawn isQueued
      have ne : other ≠ racer := by
        rintro rfl
        rw [stays] at withdrawn
        cases withdrawn
      exact (withWaiter_of_ne ne).trans isQueued
    · exact fun callback _ notStep waits =>
        mem_apply_ready.mpr (.inl (others.other waits (notStep racer)))

theorem waiterStep_inv (held : FutInv s id fut) (present : s.futures id = some fut)
    (others : Taken s ready (.waiterStep id racer)) {effect : Effect}
    (isEffect : fut.waiterStep id racer (s.fired fut id racer) (s.foreign fut id racer) = effect) :
    FutInv (s.after ready id effect) id effect.future := by
  rw [waiterStep_eq, not_foreign held.1 present] at isEffect
  split at isEffect
  · next queued =>
      split at isEffect
      · next ends =>
          subst isEffect
          exact waiterDone_inv held others queued (by simpa using ends)
      · next waits =>
          subst isEffect
          simp only [Bool.or_false, Bool.or_eq_true, not_or, Bool.not_eq_true] at waits
          exact waiterWaits_inv held others queued waits.1 waits.2
  · next notQueued =>
      subst isEffect
      refine still_inv held fun callback needed waits => others.other waits ?_
      rintro rfl
      exact notQueued needed.2

def State.afterOwn (s : State) (id : Nat) (effect : Effect) : State := s.after s.ready id effect

theorem marked_inv (held : FutInv s id fut) (requested graceOver : Bool)
    (pushed : List Callback) :
    FutInv
      (s.afterOwn id (.pushing { fut with requested := requested, graceOver := graceOver } pushed))
      id { fut with requested := requested, graceOver := graceOver } := by
  refine ⟨wired_still held.1 held.1.stepping rfl rfl (fun held => held) (fun held => held) rfl rfl,
    held.2.later ?_⟩
  exact ⟨rfl, rfl, rfl, rfl, fun held => held, .inl, fun _ => Iff.rfl, fun _ => Iff.rfl,
    fun _ _ held => held, fun _ held => held, fun _ held => .inl held, fun held => held,
    fun _ held => held, fun _ held => held,
    fun _ _ _ waits => mem_apply_ready.mpr (.inl waits)⟩

theorem submit_inv (held : FutInv s id fut) (stage : fut.stage = .captured) :
    FutInv (s.afterOwn id (.pushing { fut with stage := .queued } [.start id])) id
      { fut with stage := .queued } := by
  have stageHeld := held.2
  simp only [StageInv, stage] at stageHeld
  refine ⟨wired_still held.1 held.1.stepping rfl rfl (fun held => held) (fun held => held) rfl rfl,
    mem_apply_ready.mpr (.inr ⟨rfl, ?_⟩), stageHeld.running, stageHeld.unasked, stageHeld.unused⟩
  exact List.mem_singleton_self _

def Future.timerFires (fut : Future) (id : Nat) : Effect :=
  .pushing { fut.withWaiter .deadline .queued with expired := true } [.waiterStep id .deadline]

theorem timer_inv (held : FutInv s id fut) (waiting : fut.waiter .deadline = .waiting) :
    FutInv (s.afterOwn id (fut.timerFires id)) id (fut.timerFires id).future := by
  refine ⟨@wired_requeued s id fut s.ready held.1 (fut.timerFires id) _ waiting held.1.stepping
    rfl rfl (fun held => held) (fun held => held) rfl (List.mem_singleton_self _) rfl,
    held.2.later ?_⟩
  exact ⟨rfl, rfl, rfl, rfl, fun held => held, .inl, fun other => (requeued waiting other).1,
    fun other => (requeued waiting other).2.1, fun other _ => (requeued waiting other).2.2,
    fun _ held => held, fun _ held => .inl held, fun _ => rfl, fun _ held => held,
    fun _ held => held, fun _ _ _ waits => mem_apply_ready.mpr (.inl waits)⟩

theorem workEnds_inv (held : FutInv s id fut) {body : Except Exc Unit} {effect : Effect}
    (ends : fut.workEnds id body = some effect) :
    FutInv (s.afterOwn id effect) id effect.future := by
  have stageHeld := held.2
  have pushing : ∀ pushed, ∀ callback ∈ pushed, callback ∈ (s.afterOwn id (.pushing
      { fut with work := some (TaskEnd.ofCoroutine body) } pushed)).ready fut.loop :=
    fun pushed callback member => mem_apply_ready.mpr (.inr ⟨rfl, member⟩)
  have keeping : ∀ pushed, ∀ callback ∈ s.ready fut.loop, callback ∈ (s.afterOwn id (.pushing
      { fut with work := some (TaskEnd.ofCoroutine body) } pushed)).ready fut.loop :=
    fun pushed callback member => mem_apply_ready.mpr (.inl member)
  unfold Future.workEnds at ends
  cases work : fut.work with
  | some done => simp [work] at ends
  | none =>
      cases stage : fut.stage with
      | captured | queued | created => simp [work, stage] at ends
      | racing woken =>
          simp only [work, stage] at ends
          cases ends
          simp only [StageInv, stage] at stageHeld
          obtain ⟨present, unasked, asked, fired, awake, _⟩ := stageHeld
          refine ⟨wired_still held.1 held.1.stepping rfl rfl (fun held => held) (fun held => held)
            rfl rfl, ?_⟩
          refine ⟨present, unasked, asked, fired, fun isWoken => ⟨?_, .work, rfl⟩, fun _ _ _ => ?_⟩
          · exact keeping _ _ (awake isWoken).1
          · exact pushing _ _ (List.mem_singleton_self _)
      | tidying verdict current rest acknowledged =>
          simp only [work, stage] at ends
          cases ends
          simp only [StageInv, stage] at stageHeld
          obtain ⟨holds, _, _, atWaiter⟩ := stageHeld
          refine ⟨wired_still held.1 held.1.stepping rfl rfl (fun held => held) (fun held => held)
            rfl rfl, ?_⟩
          refine ⟨?_, .inl rfl, fun _ => .inl rfl, fun isWaiter => ⟨(atWaiter isWaiter).1, ?_⟩⟩
          · cases verdict with
            | won body' => simp [VerdictHolds, work] at holds
            | timedOut => trivial
            | cancelled => exact holds
          · exact (atWaiter isWaiter).2.imp_right fun due => ⟨due.1, keeping _ _ due.2⟩
      | resolved done =>
          simp only [work, stage] at ends
          split at ends
          · cases ends
          · cases ends
            simp only [StageInv, stage] at stageHeld
            refine ⟨wired_still held.1 held.1.stepping rfl rfl (fun held => held)
              (fun held => held) rfl rfl, fun cancelled => ?_, .inl rfl⟩
            rcases stageHeld.1 cancelled with set | ⟨_, isBody, _⟩ | shutting
            · exact .inl set
            · simp [work] at isBody
            · exact .inr (.inr shutting)

theorem throw_inv (held : FutInv s id fut) {effect : Effect} (thrown : fut.throw id = some effect) :
    FutInv (s.afterOwn id effect) id effect.future := by
  have stageHeld := held.2
  unfold Future.throw at thrown
  split at thrown
  · next isThrown =>
      obtain ⟨shutting, asked⟩ := held.1.thrown isThrown
      cases stage : fut.stage with
      | captured | queued => simp [stage] at thrown
      | resolved done => simp [stage] at thrown
      | created =>
          simp only [stage] at thrown
          cases thrown
          refine ⟨wired_still held.1 held.1.stepping rfl rfl Bool.noConfusion (fun held => held)
            rfl rfl, fun _ => .inr (.inr shutting), .inr asked⟩
      | racing woken =>
          simp only [stage] at thrown
          cases thrown
          refine ⟨wired_still held.1 held.1.stepping rfl rfl Bool.noConfusion (fun held => held)
            rfl rfl, fun _ => .inr (.inr shutting), .inr asked⟩
      | tidying verdict current rest acknowledged =>
          simp only [stage] at thrown
          cases thrown
          simp only [StageInv, stage] at stageHeld
          refine tidy_inv verdict rest acknowledged ?_ held.1.stepping ?_ (.inr (.inl asked))
          · exact ⟨held.1.bound, held.1.listening, held.1.stepping, held.1.occupied,
              Bool.noConfusion⟩
          · cases verdict with
            | won body => exact stageHeld.1
            | timedOut => trivial
            | cancelled => exact stageHeld.1
  · cases thrown

theorem withdraw_inv (held : FutInv s id fut) (shutting : s.shutting fut.loop = true)
    {effect : Effect} (withdrawn : fut.withdraw id racer = some effect) :
    FutInv (s.afterOwn id effect) id effect.future := by
  have asked : ∀ other, fut.withdrawn other = true →
      Function.update fut.withdrawn racer true other = true := by
    intro other before
    by_cases same : other = racer
    · subst same
      exact Function.update_self ..
    · rw [Function.update_of_ne same]
      exact before
  have kept : fut.waiter racer ≠ .absent → ∀ other,
      Function.update fut.withdrawn racer true other = true →
      fut.withdrawn other = true ∨ (fut.waiter other ≠ .absent ∧ s.shutting fut.loop = true) := by
    intro present other isAsked
    by_cases same : other = racer
    · subst same
      exact .inr ⟨present, shutting⟩
    · rw [Function.update_of_ne same] at isAsked
      exact .inl isAsked
  unfold Future.withdraw at withdrawn
  split at withdrawn
  · next waiting =>
      cases withdrawn
      refine ⟨wired_requeued held.1 waiting held.1.stepping rfl rfl (fun held => held)
        (fun held => held) rfl (List.mem_singleton_self _) rfl, held.2.later ?_⟩
      exact ⟨rfl, rfl, rfl, rfl, fun held => held, .inl, fun other => (requeued waiting other).1,
        fun other => (requeued waiting other).2.1, fun other _ => (requeued waiting other).2.2,
        asked, kept (by simp [waiting]), fun held => held, fun _ held => held,
        fun _ held => held, fun _ _ _ waits => mem_apply_ready.mpr (.inl waits)⟩
  · next queued =>
      cases withdrawn
      refine ⟨wired_still held.1 held.1.stepping rfl rfl (fun held => held) (fun held => held)
        rfl rfl, held.2.later ?_⟩
      exact ⟨rfl, rfl, rfl, rfl, fun held => held, .inl, fun _ => Iff.rfl, fun _ => Iff.rfl,
        fun _ _ held => held, asked, kept (by simp [queued]), fun held => held,
        fun _ held => held, fun _ held => held, fun _ _ _ waits => mem_apply_ready.mpr (.inl waits)⟩
  · cases withdrawn

end Koil.CancelScope
