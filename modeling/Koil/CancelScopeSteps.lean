import Koil.CancelScopeFutures

namespace Koil.CancelScope

open Race Runs

variable {s : State} {id : Nat} {fut : Future} {ready : Nat → List Callback}

def State.after (s : State) (ready : Nat → List Callback) (id : Nat) (effect : Effect) : State :=
  (s.withReady ready).apply id effect

theorem event_racer {racer : Racer} {event : EventId} (isEvent : fut.event id racer = some event) :
    racer = event.racer := by
  cases racer with
  | work | deadline => cases isEvent
  | ownCancel =>
      cases isEvent
      rfl
  | ambientCancel =>
      simp only [Future.event, Option.map_eq_some_iff] at isEvent
      obtain ⟨worker, _, rfl⟩ := isEvent
      rfl

theorem wired_still (held : Wired s id fut) {effect : Effect}
    (stepping : ∀ racer, fut.waiter racer = .queued → .waiterStep id racer ∈ ready fut.loop)
    (loop : effect.future.loop = fut.loop) (ambient : effect.future.ambient = fut.ambient)
    (thrown : effect.future.thrown = true → fut.thrown = true)
    (asked : fut.asked = true → effect.future.asked = true)
    (waiter : effect.future.waiter = fut.waiter) (leaves : effect.leaves = none) :
    Wired (s.after ready id effect) id effect.future := by
  refine wired_apply held loop ambient thrown asked ?_ ?_
    (fun racer present => .inl (by rw [waiter] at present; exact present))
  · intro racer event waiting _
    rw [waiter] at waiting
    exact .inl ⟨waiting, by simp [leaves]⟩
  · intro racer queued
    rw [waiter] at queued
    exact .inl (stepping racer queued)

theorem update_occupied {racer : Racer} {waiter : Waiter} {P : Racer → Prop}
    (present : fut.waiter racer ≠ .absent) (other : Racer)
    (updated : Function.update fut.waiter racer waiter other ≠ .absent) :
    fut.waiter other ≠ .absent ∨ P other := by
  by_cases same : other = racer
  · exact .inl (same ▸ present)
  · rw [Function.update_of_ne same] at updated
    exact .inl updated

theorem wired_requeued (held : Wired s id fut) {effect : Effect} {racer : Racer}
    (waiting : fut.waiter racer = .waiting)
    (stepping : ∀ racer, fut.waiter racer = .queued → .waiterStep id racer ∈ ready fut.loop)
    (loop : effect.future.loop = fut.loop) (ambient : effect.future.ambient = fut.ambient)
    (thrown : effect.future.thrown = true → fut.thrown = true)
    (asked : fut.asked = true → effect.future.asked = true)
    (waiter : effect.future.waiter = Function.update fut.waiter racer .queued)
    (pushed : .waiterStep id racer ∈ effect.pushed) (leaves : effect.leaves = fut.event id racer) :
    Wired (s.after ready id effect) id effect.future := by
  refine wired_apply held loop ambient thrown asked ?_ ?_ ?_
  · intro other event isWaiting isEvent
    rw [waiter] at isWaiting
    by_cases same : other = racer
    · subst same
      rw [Function.update_self] at isWaiting
      cases isWaiting
    · rw [Function.update_of_ne same] at isWaiting
      refine .inl ⟨isWaiting, fun forgets => ?_⟩
      exact same ((event_racer isEvent).trans (event_racer (leaves.symm.trans forgets)).symm)
  · intro other isQueued
    rw [waiter] at isQueued
    by_cases same : other = racer
    · subst same
      exact .inr pushed
    · rw [Function.update_of_ne same] at isQueued
      exact .inl (stepping other isQueued)
  · rw [waiter]
    exact update_occupied (by simp [waiting])

theorem timeoutError_not_cancellation (config : Config) (acknowledged : Bool) :
    (FutureEnd.exception ((runAsync : Flavour Empty Unit).timeoutError config acknowledged) :
      FutureEnd Unit).isCancellation = false := rfl

theorem verdictHolds_left {verdict : Verdict} (holds : VerdictHolds s id fut verdict)
    (withdrawn : Racer → Bool) (waiter : Racer → Waiter) (stage : Stage)
    (pushed : List Callback) (leaves : Option EventId) :
    VerdictHolds (s.after ready id ⟨{ fut with withdrawn, waiter, stage }, pushed, none, leaves⟩)
      id { fut with withdrawn, waiter, stage } verdict := by
  cases verdict with
  | won body => exact holds
  | timedOut => trivial
  | cancelled => exact holds

/-- The loop over the losers ends with the verdict or waits for a loser which was
asked to end. -/
theorem tidy_inv (verdict : Verdict) (rest : List Racer) (acknowledged : Bool)
    (wired : Wired s id fut)
    (stepping : ∀ racer, fut.waiter racer = .queued → .waiterStep id racer ∈ ready fut.loop)
    (holds : VerdictHolds s id fut verdict) (covered : fut.covered rest) :
    FutInv (s.after ready id (fut.tidy id verdict acknowledged rest)) id
      (fut.tidy id verdict acknowledged rest).future := by
  induction rest generalizing acknowledged with
  | nil =>
      refine ⟨wired_still wired stepping rfl rfl (fun held => held) (fun held => held) rfl rfl, ?_⟩
      simp only [Future.tidy, Effect.still, StageInv]
      refine ⟨?_, by simpa [Future.covered] using covered⟩
      intro cancelled
      cases verdict with
      | won body =>
          by_cases asked : fut.asked = true
          · exact .inr (.inr (holds.2 asked))
          · exact .inr (.inl ⟨body, holds.1, cancelled, .inl (eq_false_of_ne_true asked)⟩)
      | timedOut =>
          rw [Future.resolution, timeoutError_not_cancellation] at cancelled
          cases cancelled
      | cancelled => exact holds.imp_right .inr
  | cons racer rest ih =>
      by_cases isWork : racer = .work
      · cases work : fut.work with
        | none =>
            simp only [Future.tidy, isWork, if_true, work]
            refine ⟨wired_still wired stepping rfl rfl (fun held => held) (fun _ => rfl)
              rfl rfl, ?_⟩
            refine ⟨?_, .inr (.inl rfl), fun _ => .inr rfl, fun other => absurd rfl other⟩
            cases verdict with
            | won body => simp [VerdictHolds, work] at holds
            | timedOut => trivial
            | cancelled => exact holds
        | some body =>
            simp only [Future.tidy, isWork, if_true, work]
            have ended : fut.work.isSome = true := by rw [work]; rfl
            cases settled : settleLoser (awaitEnd body) with
            | finished settled' => exact ih _ (.inl ended)
            | stuck => exact ih _ (.inl ended)
            | escaped exc =>
                simp only
                refine ⟨wired_still wired stepping rfl rfl (fun held => held) (fun held => held)
                  rfl rfl, ?_⟩
                refine ⟨fun cancelled => .inr (.inl ⟨body, rfl, ?_⟩), .inl rfl⟩
                cases body with
                | returned value => cases settled
                | cancelled =>
                    simp [awaitEnd, TaskEnd.get, settleLoser, Builtin.isA, Builtin.mro] at settled
                | raised inner =>
                    simp only [awaitEnd, TaskEnd.get, settleLoser] at settled
                    split at settled
                    · cases settled
                    · split at settled
                      · cases settled
                      · cases settled
                        exact ⟨cancelled, .inr (by simp)⟩
      · have later : fut.covered rest := by
          rcases covered with ended | asked | member
          · exact .inl ended
          · exact .inr (.inl asked)
          · rcases List.mem_cons.mp member with same | member
            · exact absurd same.symm isWork
            · exact .inr (.inr member)
        cases waiter : fut.waiter racer with
        | absent =>
            simp only [Future.tidy, isWork, if_false, waiter]
            exact ih acknowledged later
        | done =>
            simp only [Future.tidy, isWork, if_false, waiter]
            exact ih acknowledged later
        | queued =>
            simp only [Future.tidy, isWork, if_false, waiter]
            refine ⟨wired_still wired stepping rfl rfl (fun held => held) (fun held => held)
              rfl rfl, ?_⟩
            exact ⟨verdictHolds_left holds .., later, fun same => absurd same isWork,
              fun _ => ⟨by simp [Effect.still], .inl waiter⟩⟩
        | waiting =>
            simp only [Future.tidy, isWork, if_false, waiter]
            refine ⟨wired_requeued wired waiter stepping rfl rfl (fun held => held)
              (fun held => held) rfl (List.mem_singleton_self _) rfl, ?_⟩
            exact ⟨verdictHolds_left holds .., later, fun same => absurd same isWork,
              fun _ => ⟨by simp, .inl (by simp)⟩⟩

theorem still_inv (held : FutInv s id fut)
    (kept : ∀ callback, fut.needs id callback → callback ∈ s.ready fut.loop →
      callback ∈ ready fut.loop) :
    FutInv (s.after ready id (.still fut)) id fut := by
  refine held.frame rfl ?_ ?_ (fun _ _ same => same) rfl
  · exact fun callback needed waits => mem_apply_ready.mpr (.inl (kept callback needed waits))
  · exact fun event waits => mem_apply_waiters waits (.inr (by simp [Effect.still]))

/-- The callback that a loop takes is the only one it takes. -/
def Taken (s : State) (ready : Nat → List Callback) (taken : Callback) : Prop :=
  ∀ loop callback, callback ∈ s.ready loop → callback = taken ∨ callback ∈ ready loop

theorem Taken.other {taken : Callback} (others : Taken s ready taken) {loop : Nat}
    {callback : Callback} (waits : callback ∈ s.ready loop) (ne : callback ≠ taken) :
    callback ∈ ready loop :=
  (others loop callback waits).resolve_left ne

theorem begin_inv (held : FutInv s id fut) (others : Taken s ready (.start id)) :
    FutInv (s.after ready id (fut.begin id)) id (fut.begin id).future := by
  have stepping := fun racer queued => others.other (held.1.stepping racer queued) (by simp)
  cases stage : fut.stage with
  | queued =>
      have stageHeld := held.2
      simp only [StageInv, stage] at stageHeld
      simp only [Future.begin, stage]
      refine ⟨wired_still held.1 stepping rfl rfl (fun held => held) (fun held => held) rfl rfl, ?_⟩
      obtain ⟨_, running, unasked, unused⟩ := stageHeld
      refine ⟨mem_apply_ready.mpr (.inr ⟨rfl, ?_⟩), running, unasked, unused⟩
      exact List.mem_singleton_self _
  | captured | created | racing _ | tidying _ _ _ _ | resolved _ =>
      simp only [Future.begin, stage]
      refine still_inv held fun callback needed waits => others.other waits ?_
      rintro rfl
      simp [Future.needs, stage] at needed

theorem completed_inv (held : FutInv s id fut) (others : Taken s ready (.completed id))
    (completing : ∃ racer, fut.finished racer = true) :
    FutInv (s.after ready id (fut.completed id)) id (fut.completed id).future := by
  have stepping := fun racer queued => others.other (held.1.stepping racer queued) (by simp)
  by_cases racing : fut.stage = .racing false
  · have stageHeld := held.2
    simp only [StageInv, racing] at stageHeld
    obtain ⟨present, unasked, kept, fired, _, _⟩ := stageHeld
    simp only [Future.completed, racing]
    refine ⟨wired_still held.1 stepping rfl rfl (fun held => held) (fun held => held) rfl rfl, ?_⟩
    refine ⟨present, unasked, kept, fired,
      fun _ => ⟨mem_apply_ready.mpr (.inr ⟨rfl, ?_⟩), completing⟩, Bool.noConfusion⟩
    exact List.mem_singleton_self _
  · have still : fut.completed id = .still fut := by
      unfold Future.completed
      split
      · next stage => exact absurd stage racing
      · rfl
    rw [still]
    refine still_inv held fun callback needed waits => others.other waits ?_
    rintro rfl
    exact racing needed.2

theorem waits_of_raced {racer : Racer} (member : racer ∈ fut.config.race) (ne : racer ≠ .work) :
    racer = .deadline ∨ (fut.event id racer).isSome = true := by
  cases racer with
  | work => exact absurd rfl ne
  | deadline => exact .inl rfl
  | ownCancel => exact .inr rfl
  | ambientCancel =>
      right
      cases captured : fut.ambient with
      | none => simp [Config.race, Future.config, captured] at member
      | some worker => simp [Future.event, captured]

theorem beginRace_waiter (fut : Future) (id : Nat) (racer : Racer) :
    (racer ∈ fut.config.race ∧ racer ≠ .work ∧
      (fut.beginRace id).future.waiter racer = .queued ∧
      .waiterStep id racer ∈ (fut.beginRace id).pushed) ∨
    (¬(racer ∈ fut.config.race ∧ racer ≠ .work) ∧
      (fut.beginRace id).future.waiter racer = .absent) := by
  simp only [Future.beginRace, Effect.pushing]
  by_cases raced : racer ∈ fut.config.race ∧ racer ≠ .work
  · have member : racer ∈ fut.config.race.filter (· ≠ .work) := by
      rw [List.mem_filter]
      exact ⟨raced.1, by simpa using raced.2⟩
    exact .inl ⟨raced.1, raced.2, if_pos member, List.mem_map.mpr ⟨racer, member, rfl⟩⟩
  · refine .inr ⟨raced, if_neg ?_⟩
    rw [List.mem_filter]
    simpa using raced

theorem beginRace_inv (held : FutInv s id fut) (stage : fut.stage = .created) :
    FutInv (s.after ready id (fut.beginRace id)) id (fut.beginRace id).future := by
  have stageHeld := held.2
  simp only [StageInv, stage] at stageHeld
  obtain ⟨_, running, unasked, unused⟩ := stageHeld
  have fresh : ∀ racer, (fut.beginRace id).future.waiter racer ≠ .waiting ∧
      (fut.beginRace id).future.waiter racer ≠ .done := by
    intro racer
    rcases beginRace_waiter fut id racer with ⟨_, _, queued, _⟩ | ⟨_, absent⟩
    · simp [queued]
    · simp [absent]
  have present : ∀ racer, racer ∈ fut.config.race → racer ≠ .work →
      (fut.beginRace id).future.waiter racer ≠ .absent := by
    intro racer member ne
    rcases beginRace_waiter fut id racer with ⟨_, _, queued, _⟩ | ⟨notRaced, _⟩
    · simp [queued]
    · exact absurd ⟨member, ne⟩ notRaced
  refine ⟨wired_apply held.1 rfl rfl (fun held => held) (fun held => held) ?_ ?_ ?_, ?_⟩
  · exact fun racer _ waiting _ => absurd waiting (fresh racer).1
  · intro racer isQueued
    rcases beginRace_waiter fut id racer with ⟨_, _, _, pushed⟩ | ⟨_, absent⟩
    · exact .inr pushed
    · rw [absent] at isQueued
      cases isQueued
  · intro racer notAbsent
    rcases beginRace_waiter fut id racer with ⟨member, ne, _⟩ | ⟨_, absent⟩
    · exact .inr (waits_of_raced member ne)
    · exact absurd absent notAbsent
  · have unfinished : ∀ racer, (fut.beginRace id).future.finished racer = false := by
      intro racer
      cases racer with
      | work => simp [Future.beginRace, Effect.pushing, Future.finished, running]
      | ownCancel | ambientCancel | deadline => simpa [Future.finished] using (fresh _).2
    refine ⟨⟨present _ (by simp [Config.race]) (by simp), fun captured => ?_⟩,
      unasked, fun racer asked => Bool.noConfusion ((unused racer).2.symm.trans asked),
      fun racer done => absurd done (fresh racer).2,
      Bool.noConfusion, ?_⟩
    · have ambient : fut.config.ambient = true := captured
      exact present _ (by simp [Config.race, ambient]) (by simp)
    · intro _ racer finished
      rw [unfinished racer] at finished
      cases finished

theorem verdict_holds (wired : Wired s id fut)
    (fired : ∀ racer, fut.waiter racer = .done →
      s.fired fut id racer = true ∨ s.shutting fut.loop = true)
    (unasked : fut.asked = true → s.shutting fut.loop = true)
    (completing : ∃ racer, fut.finished racer = true) : VerdictHolds s id fut fut.verdict := by
  unfold Future.verdict
  cases work : fut.work with
  | some body => exact ⟨work, unasked⟩
  | none =>
      simp only
      split
      · trivial
      · next noDeadline =>
          obtain ⟨racer, finished⟩ := completing
          cases racer with
          | work => simp [Future.finished, work] at finished
          | deadline => exact absurd (by simpa [Future.finished] using finished) noDeadline
          | ownCancel =>
              have done : fut.waiter .ownCancel = .done := by simpa [Future.finished] using finished
              exact (fired _ done).imp_left .inl
          | ambientCancel =>
              have done : fut.waiter .ambientCancel = .done := by
                simpa [Future.finished] using finished
              refine (fired _ done).imp_left fun set => ?_
              cases captured : fut.ambient with
              | none =>
                  have named := wired.occupied .ambientCancel (by rw [done]; simp)
                  simp [Future.event, captured] at named
              | some worker =>
                  refine .inr ⟨worker, captured, ?_⟩
                  simpa [State.fired, Future.event, captured] using set

theorem mainStep_inv (held : FutInv s id fut) (others : Taken s ready (.mainStep id))
    {iterated : List Racer} {effect : Effect} (taken : fut.mainStep id iterated = some effect) :
    FutInv (s.after ready id effect) id effect.future := by
  have stepping := fun racer queued => others.other (held.1.stepping racer queued) (by simp)
  have still : fut.needsStep = false → FutInv (s.after ready id (.still fut)) id fut := by
    intro notDue
    refine still_inv held fun callback needed waits => others.other waits ?_
    rintro rfl
    rw [needed.2] at notDue
    cases notDue
  have stageHeld := held.2
  unfold Future.mainStep at taken
  cases stage : fut.stage with
  | captured | queued =>
      simp only [stage] at taken
      cases taken
      exact still (by simp [Future.needsStep, stage])
  | created =>
      simp only [stage] at taken
      cases taken
      exact beginRace_inv held stage
  | racing woken =>
      simp only [StageInv, stage] at stageHeld
      obtain ⟨_, unasked, _, fired, awake, _⟩ := stageHeld
      cases woken with
      | false =>
          simp only [stage] at taken
          cases taken
          exact still (by simp [Future.needsStep, stage])
      | true =>
          simp only [stage] at taken
          split at taken
          · next perm =>
              cases taken
              refine tidy_inv _ _ _ held.1 stepping
                (verdict_holds held.1 fired unasked (awake rfl).2) ?_
              cases work : fut.work with
              | some body => exact .inl (by simp [work])
              | none =>
                  refine .inr (.inr (perm.mem_iff.mpr ?_))
                  simp [Config.race, Future.finished, work]
          · cases taken
  | tidying verdict current rest acknowledged =>
      simp only [StageInv, stage] at stageHeld
      obtain ⟨holds, covered, atWork, atWaiter⟩ := stageHeld
      by_cases isWork : current = .work
      · subst isWork
        simp only [stage] at taken
        split at taken
        · next body work =>
            cases taken
            exact tidy_inv _ _ _ held.1 stepping holds (.inl (by simp [work]))
        · next work =>
            split at taken
            · cases taken
              refine tidy_inv _ _ _ held.1 stepping holds ?_
              exact (atWork rfl).imp_right .inl
            · cases taken
              exact still (by simp [Future.needsStep, stage])
      · have byWaiter : (if fut.waiter current = .done then
            some (fut.tidy id verdict acknowledged rest) else some (.still fut)) = some effect := by
          cases current with
          | work => exact absurd rfl isWork
          | ownCancel | ambientCancel | deadline => simpa only [stage] using taken
        split at byWaiter
        · cases byWaiter
          exact tidy_inv _ _ _ held.1 stepping holds covered
        · next notDone =>
            cases byWaiter
            exact still (by simp [Future.needsStep, stage, notDone])
  | resolved done =>
      simp only [stage] at taken
      cases taken
      exact still (by simp [Future.needsStep, stage])

end Koil.CancelScope
