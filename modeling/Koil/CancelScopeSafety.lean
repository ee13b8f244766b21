import Koil.CancelScopeEvents

namespace Koil.CancelScope

open Race Runs

variable {s t : State} {id : Nat} {fut : Future} {ready : Nat → List Callback} {racer : Racer}

def Caused (s : State) : EventId → Prop
  | .own id => ∃ fut, s.futures id = some fut ∧ fut.requested = true
  | .worker id => ∃ worker, s.workers id = some worker ∧
      (worker.awaiterCancelled = true ∨ worker.endedCancelled = true)

def Justified (s : State) : Callback → Prop
  | .setEvent event => Caused s event
  | .handler worker => Caused s (.worker worker)
  | .completed id => ∃ fut, s.futures id = some fut ∧ ∃ racer, fut.finished racer = true
  | _ => True

structure Inv (s : State) : Prop where
  futures : ∀ id fut, s.futures id = some fut → FutInv s id fut
  flagged : ∀ event, s.flag event = true → Caused s event
  justified : ∀ loop, ∀ callback ∈ s.ready loop, Justified s callback

/-- Nothing that justifies an event or a callback is ever undone. -/
structure Grows (s t : State) : Prop where
  futures : ∀ id fut, s.futures id = some fut → ∃ fut', t.futures id = some fut' ∧
    (fut.requested = true → fut'.requested = true) ∧
    (∀ racer, fut.finished racer = true → fut'.finished racer = true)
  workers : ∀ id worker, s.workers id = some worker → ∃ worker', t.workers id = some worker' ∧
    (worker.awaiterCancelled = true → worker'.awaiterCancelled = true) ∧
    (worker.endedCancelled = true → worker'.endedCancelled = true)

theorem Caused.grows {event : EventId} (caused : Caused s event) (grows : Grows s t) :
    Caused t event := by
  cases event with
  | own id =>
      obtain ⟨fut, present, requested⟩ := caused
      obtain ⟨fut', present', kept, _⟩ := grows.futures id fut present
      exact ⟨fut', present', kept requested⟩
  | worker id =>
      obtain ⟨worker, present, reason⟩ := caused
      obtain ⟨worker', present', awaiter, ended⟩ := grows.workers id worker present
      exact ⟨worker', present', reason.imp awaiter ended⟩

theorem Justified.grows {callback : Callback} (justified : Justified s callback)
    (grows : Grows s t) : Justified t callback := by
  cases callback with
  | start _ | mainStep _ | waiterStep _ _ => trivial
  | setEvent event => exact Caused.grows justified grows
  | handler worker => exact @Caused.grows s t (.worker worker) justified grows
  | completed id =>
      obtain ⟨fut, present, racer, finished⟩ := justified
      obtain ⟨fut', present', _, kept⟩ := grows.futures id fut present
      exact ⟨fut', present', racer, kept racer finished⟩

def Effect.allows (effect : Effect) (id : Nat) : Callback → Prop
  | .setEvent event => event = .own id ∧ effect.future.requested = true
  | .handler _ => False
  | .completed other => other = id ∧ ∃ racer, effect.future.finished racer = true
  | _ => True

/-- A step stays on its loop, undoes nothing, and queues only what it may. -/
structure Effect.Proper (effect : Effect) (fut : Future) (id : Nat) : Prop where
  requested : fut.requested = true → effect.future.requested = true
  finished : ∀ racer, fut.finished racer = true → effect.future.finished racer = true
  pushed : ∀ callback ∈ effect.pushed, effect.allows id callback

theorem finished_mono {fut' : Future} (work : fut.work.isSome = true → fut'.work.isSome = true)
    (done : ∀ racer, fut.waiter racer = .done → fut'.waiter racer = .done) (racer : Racer)
    (finished : fut.finished racer = true) : fut'.finished racer = true := by
  cases racer with
  | work => exact work finished
  | ownCancel | ambientCancel | deadline =>
      simp only [Future.finished, beq_iff_eq] at finished ⊢
      exact done _ finished

theorem proper_of {effect : Effect} (requested : effect.future.requested = fut.requested)
    (work : fut.work.isSome = true → effect.future.work.isSome = true)
    (done : ∀ racer, fut.waiter racer = .done → effect.future.waiter racer = .done)
    (pushed : ∀ callback ∈ effect.pushed, effect.allows id callback) : effect.Proper fut id :=
  ⟨fun held => requested.trans held, fun racer => finished_mono work done racer, pushed⟩

theorem still_proper {fut' : Future} (requested : fut'.requested = fut.requested)
    (work : fut'.work = fut.work) (waiter : fut'.waiter = fut.waiter) :
    (Effect.still fut').Proper fut id :=
  proper_of requested (fun held => by rw [Effect.still, work]; exact held)
    (fun racer held => by rw [Effect.still, waiter]; exact held) (by simp [Effect.still])

theorem tidy_proper (verdict : Verdict) (rest : List Racer) (acknowledged : Bool) :
    (fut.tidy id verdict acknowledged rest).Proper fut id := by
  induction rest generalizing acknowledged with
  | nil => exact still_proper rfl rfl rfl
  | cons racer rest ih =>
      unfold Future.tidy
      split
      · split
        · exact still_proper rfl rfl rfl
        · split
          · exact still_proper rfl rfl rfl
          · exact ih _
          · exact ih _
      · simp only
        split
        · next waiting =>
            refine proper_of rfl (fun held => held) (fun other done => ?_)
              (by simp [Effect.allows])
            exact (@withWaiter_kept fut racer .queued other .done done (by simp [waiting])).2
        · exact still_proper rfl rfl rfl
        · exact ih _

theorem begin_proper : (fut.begin id).Proper fut id := by
  unfold Future.begin
  split
  · exact proper_of rfl (fun held => held) (fun _ held => held)
      (by simp [Effect.pushing, Effect.allows])
  · exact still_proper rfl rfl rfl

theorem completed_proper : (fut.completed id).Proper fut id := by
  unfold Future.completed
  split
  · exact proper_of rfl (fun held => held) (fun _ held => held)
      (by simp [Effect.pushing, Effect.allows])
  · exact still_proper rfl rfl rfl

theorem beginRace_proper (unused : ∀ racer, fut.waiter racer = .absent) :
    (fut.beginRace id).Proper fut id := by
  refine proper_of rfl (fun held => held) (fun racer done => ?_) ?_
  · rw [unused racer] at done
    cases done
  · intro callback member
    simp only [Future.beginRace, Effect.pushing, List.mem_map] at member
    obtain ⟨racer, _, rfl⟩ := member
    trivial

theorem mainStep_proper (held : StageInv s id fut) {iterated : List Racer} {effect : Effect}
    (taken : fut.mainStep id iterated = some effect) : effect.Proper fut id := by
  unfold Future.mainStep at taken
  split at taken
  · next stage =>
      cases taken
      simp only [StageInv, stage] at held
      exact beginRace_proper fun racer => (held.2.unused racer).1
  · split at taken
    · cases taken
      exact tidy_proper ..
    · cases taken
  · split at taken
    · cases taken
      exact tidy_proper ..
    · split at taken
      · cases taken
        exact tidy_proper ..
      · cases taken
        exact still_proper rfl rfl rfl
  · split at taken
    · cases taken
      exact tidy_proper ..
    · cases taken
      exact still_proper rfl rfl rfl
  · cases taken
    exact still_proper rfl rfl rfl

theorem waiterStep_proper (wired : Wired s id fut) (fired foreign : Bool) :
    (fut.waiterStep id racer fired foreign).Proper fut id := by
  rw [waiterStep_eq]
  split
  · next queued =>
      have notWork := waiterStep_not_work wired queued
      split
      · refine proper_of rfl (fun held => held) (fun other done => ?_) ?_
        · exact (withWaiter_kept done (by simp [queued])).2
        · intro callback member
          simp only [Future.waiterDone, Effect.pushing, Future.wakesUp] at member
          split at member
          · obtain rfl := List.mem_singleton.mp member
            exact ⟨rfl, racer, finished_of_done withWaiter_self notWork⟩
          · split at member
            · obtain rfl := List.mem_singleton.mp member
              trivial
            · cases member
          · cases member
      · refine proper_of rfl (fun held => held) (fun other done => ?_)
          (by simp [Future.waiterWaits])
        exact (withWaiter_kept done (by simp [queued])).2
  · exact still_proper rfl rfl rfl

theorem workEnds_proper {body : Except Exc Unit} {effect : Effect}
    (ends : fut.workEnds id body = some effect) : effect.Proper fut id := by
  unfold Future.workEnds at ends
  split at ends
  · cases ends
    refine proper_of rfl (fun _ => rfl) (fun _ held => held) ?_
    intro callback member
    obtain rfl := List.mem_singleton.mp member
    exact ⟨rfl, .work, rfl⟩
  · cases ends
    refine proper_of rfl (fun _ => rfl) (fun _ held => held) ?_
    intro callback member
    simp only [Effect.pushing] at member
    split at member
    · obtain rfl := List.mem_singleton.mp member
      trivial
    · cases member
  · split at ends
    · cases ends
    · cases ends
      exact proper_of rfl (fun _ => rfl) (fun _ held => held) (by simp [Effect.still])
  · cases ends

theorem throw_proper {effect : Effect} (thrown : fut.throw id = some effect) :
    effect.Proper fut id := by
  unfold Future.throw at thrown
  split at thrown
  · simp only at thrown
    split at thrown
    · next verdict _ rest acknowledged _ =>
        cases thrown
        have proper := @tidy_proper id { fut with thrown := false } verdict rest acknowledged
        exact ⟨proper.requested, proper.finished, proper.pushed⟩
    · cases thrown
      exact still_proper rfl rfl rfl
    · cases thrown
      exact still_proper rfl rfl rfl
    · cases thrown
  · cases thrown

theorem timer_proper (waiting : fut.waiter .deadline = .waiting) :
    (fut.timerFires id).Proper fut id := by
  refine proper_of rfl (fun held => held) (fun other done => ?_) ?_
  · exact (withWaiter_kept done (by simp [waiting])).2
  · simp [Future.timerFires, Effect.pushing, Effect.allows]

theorem Effect.Proper.grows {effect : Effect} (proper : effect.Proper fut id)
    (present : s.futures id = some fut) : Grows s (s.after ready id effect) where
  futures other fut' present' := by
    by_cases same : other = id
    · subst same
      cases present.symm.trans present'
      exact ⟨effect.future, by simp [State.after, State.apply], proper.requested, proper.finished⟩
    · refine ⟨fut', ?_, fun held => held, fun _ held => held⟩
      simp only [State.after, State.apply, State.withReady]
      rw [Function.update_of_ne same]
      exact present'
  workers _ worker present' := ⟨worker, present', fun held => held, fun held => held⟩

theorem Inv.after (inv : Inv s) {effect : Effect} (grows : Grows s (s.after ready id effect))
    (pushed : ∀ callback ∈ effect.pushed, effect.allows id callback)
    (own : FutInv (s.after ready id effect) id effect.future)
    (fewer : ∀ loop, ∀ callback ∈ ready loop, callback ∈ s.ready loop)
    (others : ∀ other fut', other ≠ id → s.futures other = some fut' → ∀ callback,
      fut'.needs other callback → callback ∈ s.ready fut'.loop → callback ∈ ready fut'.loop) :
    Inv (s.after ready id effect) where
  futures other fut' present := by
    by_cases same : other = id
    · subst same
      have isFuture : some effect.future = some fut' := by
        simpa [State.after, State.apply] using present
      cases isFuture
      exact own
    · have before : s.futures other = some fut' := by
        simp only [State.after, State.apply, State.withReady] at present
        rwa [Function.update_of_ne same] at present
      refine (inv.futures other fut' before).frame rfl ?_ ?_ (fun _ _ same => same) rfl
      · exact fun callback needed waits =>
          mem_apply_ready.mpr (.inl (others other fut' same before callback needed waits))
      · exact fun event waits => mem_apply_waiters waits (.inl same)
  flagged event set := (inv.flagged event set).grows grows
  justified loop callback member := by
    rcases mem_apply_ready.mp member with before | ⟨_, isPushed⟩
    · exact (inv.justified loop callback (fewer loop callback before)).grows grows
    · have isFuture : (s.after ready id effect).futures id = some effect.future := by
        simp [State.after, State.apply]
      have allowed := pushed callback isPushed
      cases callback with
      | start _ | mainStep _ | waiterStep _ _ => trivial
      | setEvent event =>
          obtain ⟨rfl, requested⟩ := allowed
          exact ⟨effect.future, isFuture, requested⟩
      | handler worker => exact False.elim allowed
      | completed other =>
          obtain ⟨rfl, finished⟩ := allowed
          exact ⟨effect.future, isFuture, finished⟩

theorem withFuture_some {effect : Future → Option Effect} {s' : State}
    (taken : s.withFuture id effect = some s') :
    ∃ fut done, s.futures id = some fut ∧ effect fut = some done ∧ s' = s.apply id done := by
  unfold State.withFuture at taken
  cases present : s.futures id with
  | none => simp [present] at taken
  | some fut =>
      cases isEffect : effect fut with
      | none => simp [present, isEffect] at taken
      | some done =>
          refine ⟨fut, done, rfl, isEffect, ?_⟩
          simpa [present, isEffect] using taken.symm

theorem Inv.own (inv : Inv s) {effect : Effect} (present : s.futures id = some fut)
    (proper : effect.Proper fut id) (held : FutInv (s.afterOwn id effect) id effect.future) :
    Inv (s.apply id effect) :=
  @Inv.after s id s.ready inv effect (proper.grows present) proper.pushed held
    (fun _ _ member => member) (fun _ _ _ _ _ _ waits => waits)

theorem taken_of_ready {loop : Nat} {callback : Callback} {tail : List Callback}
    (first : s.ready loop = callback :: tail) :
    Taken s (Function.update s.ready loop tail) callback := by
  intro other callback' waits
  by_cases same : other = loop
  · subst same
    rw [first] at waits
    rw [Function.update_self]
    exact List.mem_cons.mp waits
  · rw [Function.update_of_ne same]
    exact .inr waits

theorem fewer_of_ready {loop : Nat} {callback : Callback} {tail : List Callback}
    (first : s.ready loop = callback :: tail) (other : Nat) :
    ∀ callback' ∈ Function.update s.ready loop tail other, callback' ∈ s.ready other := by
  intro callback' member
  by_cases same : other = loop
  · subst same
    rw [Function.update_self] at member
    rw [first]
    exact List.mem_cons_of_mem _ member
  · rwa [Function.update_of_ne same] at member

theorem Inv.taking (inv : Inv s) {effect : Effect} {callback : Callback}
    (present : s.futures id = some fut) (proper : effect.Proper fut id)
    (held : FutInv (s.after ready id effect) id effect.future)
    (fewer : ∀ loop, ∀ callback ∈ ready loop, callback ∈ s.ready loop)
    (others : Taken s ready callback)
    (owned : ∀ other (fut' : Future), other ≠ id → ¬fut'.needs other callback) :
    Inv (s.after ready id effect) := by
  refine inv.after (proper.grows present) proper.pushed held fewer ?_
  intro other fut' ne _ needed isNeeded waits
  refine others.other waits ?_
  rintro rfl
  exact owned other fut' ne isNeeded

/-- What is in no future's way: workers may be added and changed, and callbacks
queued or taken that no future needs. -/
theorem Inv.frame (inv : Inv s) (grows : Grows s t) (futures : t.futures = s.futures)
    (flag : t.flag = s.flag) (waiters : t.waiters = s.waiters) (shutting : t.shutting = s.shutting)
    (workers : ∀ worker loop, (s.workers worker).map Worker.loop = some loop →
      (t.workers worker).map Worker.loop = some loop)
    (needed : ∀ id (fut : Future) callback loop, fut.needs id callback → callback ∈ s.ready loop →
      callback ∈ t.ready loop)
    (justified : ∀ loop, ∀ callback ∈ t.ready loop,
      callback ∈ s.ready loop ∨ Justified t callback) : Inv t where
  futures id fut present := by
    rw [futures] at present
    refine (inv.futures id fut present).frame flag ?_ ?_ workers shutting
    · exact fun callback isNeeded waits => needed id fut callback fut.loop isNeeded waits
    · exact fun event waits => by rw [waiters]; exact waits
  flagged event set := by
    rw [flag] at set
    exact (inv.flagged event set).grows grows
  justified loop callback member := by
    rcases justified loop callback member with before | isJustified
    · exact (inv.justified loop callback before).grows grows
    · exact isJustified

end Koil.CancelScope
