import Koil.CancelScopeSafety

namespace Koil.CancelScope

open Race Runs

variable {s : State} {id : Nat} {fut : Future} {ready : Nat → List Callback} {event : EventId}

def State.woken (s : State) (event : EventId) (id : Nat) (fut : Future) : Bool :=
  (s.waiters event).contains id && fut.wakes id event

theorem woken_iff : s.woken event id fut = true ↔
    id ∈ s.waiters event ∧ fut.waiter event.racer = .waiting ∧
      fut.event id event.racer = some event := by
  simp [State.woken, Future.wakes]

def State.afterSet (s : State) (event : EventId) (id : Nat) (fut : Future) : Future :=
  if s.woken event id fut then fut.withWaiter event.racer .queued else fut

theorem setEvent_futures :
    (s.setEvent event).futures id = (s.futures id).map (s.afterSet event id) := rfl

theorem setEvent_ready_kept {loop : Nat} {callback : Callback} (waits : callback ∈ s.ready loop) :
    callback ∈ (s.setEvent event).ready loop :=
  List.mem_append_left _ waits

theorem setEvent_ready_woken (present : s.futures id = some fut)
    (woken : s.woken event id fut = true) :
    .waiterStep id event.racer ∈ (s.setEvent event).ready fut.loop := by
  refine List.mem_append_right _ (List.mem_map.mpr ⟨id, List.mem_filter.mpr ⟨?_, ?_⟩, rfl⟩)
  · exact (woken_iff.mp woken).1
  · simp only [present]
    simpa [State.woken] using woken

theorem setEvent_flag_kept {event' : EventId} (set : s.flag event' = true) :
    (s.setEvent event).flag event' = true := by
  by_cases same : event' = event
  · subst same
    exact Function.update_self ..
  · exact (Function.update_of_ne same ..).trans set

theorem setEvent_listening (wired : Wired s id fut) {racer : Racer} {event' : EventId}
    (waiting : fut.waiter racer = .waiting) (isEvent : fut.event id racer = some event')
    (other : event' ≠ event) :
    (s.setEvent event).flag event' = false ∧ id ∈ (s.setEvent event).waiters event' := by
  obtain ⟨unset, member⟩ := wired.listening racer event' waiting isEvent
  simp only [State.setEvent]
  rw [Function.update_of_ne other, Function.update_of_ne other]
  exact ⟨unset, member⟩

theorem setEvent_woken (held : FutInv s id fut) (present : s.futures id = some fut)
    (woken : s.woken event id fut = true) :
    FutInv (s.setEvent event) id (fut.withWaiter event.racer .queued) := by
  obtain ⟨_, waiting, isEvent⟩ := woken_iff.mp woken
  refine ⟨⟨held.1.bound, ?_, ?_, ?_, held.1.thrown⟩, held.2.later ⟨rfl, rfl, rfl, rfl,
    fun held => held, .inl, fun other => (requeued waiting other).1,
    fun other => (requeued waiting other).2.1, fun other _ => (requeued waiting other).2.2,
    fun _ held => held, fun _ held => .inl held, fun held => held,
    fun _ set => setEvent_flag_kept set, fun _ held => held,
    fun _ _ _ waits => setEvent_ready_kept waits⟩⟩
  · intro racer event' isWaiting isEvent'
    obtain ⟨ne, before⟩ := withWaiter_eq isWaiting (by simp)
    refine setEvent_listening held.1 before isEvent' ?_
    rintro rfl
    exact ne (event_racer isEvent')
  · intro racer isQueued
    by_cases same : racer = event.racer
    · subst same
      have step := setEvent_ready_woken present woken
      exact step
    · exact setEvent_ready_kept
        (held.1.stepping racer ((withWaiter_of_ne same).symm.trans isQueued))
  · intro racer isPresent
    have before : fut.waiter racer ≠ .absent :=
      fun absent => isPresent ((requeued waiting racer).2.1.mpr absent)
    exact held.1.occupied racer before

theorem setEvent_asleep (held : FutInv s id fut) (asleep : ¬s.woken event id fut = true) :
    FutInv (s.setEvent event) id fut := by
  refine ⟨⟨held.1.bound, ?_, ?_, held.1.occupied, held.1.thrown⟩, held.2.later ⟨rfl, rfl, rfl, rfl,
    fun held => held, .inl, fun _ => Iff.rfl, fun _ => Iff.rfl, fun _ _ held => held,
    fun _ held => held, fun _ held => .inl held,
    fun held => held, fun _ set => setEvent_flag_kept set, fun _ held => held,
    fun _ _ _ waits => setEvent_ready_kept waits⟩⟩
  · intro racer event' isWaiting isEvent
    refine setEvent_listening held.1 isWaiting isEvent ?_
    rintro rfl
    obtain rfl := event_racer isEvent
    have member := (held.1.listening _ _ isWaiting isEvent).2
    exact asleep (woken_iff.mpr ⟨member, isWaiting, isEvent⟩)
  · exact fun racer isQueued => setEvent_ready_kept (held.1.stepping racer isQueued)

theorem setEvent_grows : Grows s (s.setEvent event) where
  futures id fut present := by
    refine ⟨s.afterSet event id fut, by rw [setEvent_futures, present]; rfl, ?_⟩
    unfold State.afterSet
    split
    · next woken =>
        have waiting := (woken_iff.mp woken).2.1
        refine ⟨fun held => held, finished_mono (fun held => held) fun other done => ?_⟩
        exact (withWaiter_kept done (by simp [waiting])).2
    · exact ⟨fun held => held, fun _ held => held⟩
  workers _ worker present := ⟨worker, present, fun held => held, fun held => held⟩

theorem Inv.setEvent (inv : Inv s) (caused : Caused s event) : Inv (s.setEvent event) where
  futures id fut' present' := by
    rw [setEvent_futures, Option.map_eq_some_iff] at present'
    obtain ⟨fut, present, rfl⟩ := present'
    unfold State.afterSet
    split
    · next woken => exact setEvent_woken (inv.futures id fut present) present woken
    · next asleep => exact setEvent_asleep (inv.futures id fut present) asleep
  flagged event' set := by
    by_cases same : event' = event
    · subst same
      exact caused.grows setEvent_grows
    · have before : s.flag event' = true := by
        simp only [State.setEvent] at set
        rwa [Function.update_of_ne same] at set
      exact (inv.flagged event' before).grows setEvent_grows
  justified loop callback member := by
    rcases List.mem_append.mp member with before | isWoken
    · exact (inv.justified loop callback before).grows setEvent_grows
    · obtain ⟨_, _, rfl⟩ := List.mem_map.mp isWoken
      trivial

def Future.afterShutdown (fut : Future) (loop : Nat) : Future :=
  if fut.loop = loop ∧ fut.stage.live then { fut with asked := true, thrown := true } else fut

theorem shutdown_futures (loop : Nat) :
    (s.shutdown loop).futures id = (s.futures id).map (·.afterShutdown loop) := rfl

theorem shutdown_kept {loop loop' : Nat} (shutting : s.shutting loop' = true) :
    (s.shutdown loop).shutting loop' = true := by
  simp only [State.shutdown, Function.update_apply]
  split
  · rfl
  · exact shutting

theorem shutdown_futInv (held : FutInv s id fut) (loop : Nat) :
    FutInv (s.shutdown loop) id (fut.afterShutdown loop) := by
  have later : ∀ asked thrown, (fut.asked = true → asked = true) →
      (asked = true → fut.asked = true ∨ (s.shutdown loop).shutting fut.loop = true) →
      Later s (s.shutdown loop) id fut { fut with asked := asked, thrown := thrown } :=
    fun _ _ kept cause => ⟨rfl, rfl, rfl, rfl, kept, cause, fun _ => Iff.rfl, fun _ => Iff.rfl,
      fun _ _ held => held, fun _ held => held, fun _ held => .inl held, fun held => held,
      fun _ held => held,
      fun _ held => shutdown_kept held, fun _ _ _ waits => waits⟩
  unfold Future.afterShutdown
  split
  · next live =>
      have shutting : (s.shutdown loop).shutting fut.loop = true := by
        simp only [State.shutdown, live.1, Function.update_self]
      exact ⟨⟨held.1.bound, held.1.listening, held.1.stepping, held.1.occupied,
        fun _ => ⟨shutting, rfl⟩⟩,
        held.2.later (later true true (fun _ => rfl) fun _ => .inr shutting)⟩
  · refine ⟨⟨held.1.bound, held.1.listening, held.1.stepping, held.1.occupied, fun thrown => ?_⟩,
      held.2.later (later fut.asked fut.thrown (fun held => held) .inl)⟩
    exact ⟨shutdown_kept (held.1.thrown thrown).1, (held.1.thrown thrown).2⟩

theorem Inv.shutdown (inv : Inv s) (loop : Nat) : Inv (s.shutdown loop) := by
  have grows : Grows s (s.shutdown loop) := by
    refine ⟨fun id fut present => ?_,
      fun _ worker present => ⟨worker, present, fun held => held, fun held => held⟩⟩
    refine ⟨fut.afterShutdown loop, by rw [shutdown_futures, present]; rfl, ?_⟩
    unfold Future.afterShutdown
    split
    · exact ⟨fun held => held,
        fun racer => finished_mono (fun held => held) (fun _ held => held) racer⟩
    · exact ⟨fun held => held, fun _ held => held⟩
  refine ⟨fun id fut' present' => ?_, fun event set => (inv.flagged event set).grows grows,
    fun loop callback member => (inv.justified loop callback member).grows grows⟩
  rw [shutdown_futures, Option.map_eq_some_iff] at present'
  obtain ⟨fut, present, rfl⟩ := present'
  exact shutdown_futInv (inv.futures id fut present) loop

theorem Inv.setWorker (inv : Inv s) {worker : Worker}
    (noted : ∀ before, s.workers id = some before → worker.loop = before.loop ∧
      (before.awaiterCancelled = true → worker.awaiterCancelled = true) ∧
      (before.endedCancelled = true → worker.endedCancelled = true)) :
    Inv (s.setWorker id worker) := by
  have others : ∀ other, other ≠ id → (s.setWorker id worker).workers other = s.workers other :=
    fun other ne => Function.update_of_ne ne ..
  have itself : (s.setWorker id worker).workers id = some worker := Function.update_self ..
  refine inv.frame ⟨?_, ?_⟩ rfl rfl rfl rfl ?_ (fun _ _ _ _ _ waits => waits)
    (fun _ _ member => .inl member)
  · exact fun _ fut present => ⟨fut, present, fun held => held, fun _ held => held⟩
  · intro other before present
    by_cases same : other = id
    · subst same
      exact ⟨worker, itself, (noted before present).2⟩
    · exact ⟨before, (others other same).trans present, fun held => held, fun held => held⟩
  · intro other loop isLoop
    by_cases same : other = id
    · subst same
      obtain ⟨before, present, rfl⟩ := Option.map_eq_some_iff.mp isLoop
      rw [itself, ← (noted before present).1]
      rfl
    · rw [others other same]
      exact isLoop

theorem grows_withReady : Grows s (s.withReady ready) where
  futures _ fut present := ⟨fut, present, fun held => held, fun _ held => held⟩
  workers _ worker present := ⟨worker, present, fun held => held, fun held => held⟩

theorem Inv.push (inv : Inv s) (loop : Nat) {callback : Callback}
    (justified : Justified s callback) : Inv (s.push loop callback) := by
  have pushed : ∀ other callback', callback' ∈ (s.push loop callback).ready other ↔
      callback' ∈ s.ready other ∨ other = loop ∧ callback' = callback := by
    intro other callback'
    by_cases same : other = loop
    · subst same
      simp [State.push, State.withReady]
    · simp [State.push, State.withReady, same]
  refine inv.frame grows_withReady rfl rfl rfl rfl (fun _ _ same => same)
    (fun _ _ callback' other _ waits => (pushed other callback').mpr (.inl waits)) ?_
  intro other callback' member
  rcases (pushed other callback').mp member with before | ⟨_, rfl⟩
  · exact .inl before
  · exact .inr (justified.grows grows_withReady)

theorem Inv.taken (inv : Inv s) {callback : Callback}
    (fewer : ∀ loop, ∀ callback ∈ ready loop, callback ∈ s.ready loop)
    (others : Taken s ready callback)
    (unneeded : ∀ id (fut : Future), ¬fut.needs id callback) : Inv (s.withReady ready) := by
  refine inv.frame grows_withReady rfl rfl rfl rfl (fun _ _ same => same) ?_
    (fun loop callback' member => .inl (fewer loop callback' member))
  intro id fut callback' loop needed waits
  refine others.other waits ?_
  rintro rfl
  exact unneeded id fut needed

theorem Inv.capture (inv : Inv s) {loop : Nat} {ambient : Option Nat} {timeout : Option String}
    (unused : s.futures id = none)
    (bound : ∀ worker, ambient = some worker → (s.workers worker).map Worker.loop = some loop) :
    Inv (s.apply id (.still (.fresh loop ambient timeout))) := by
  have grows : Grows s (s.apply id (.still (.fresh loop ambient timeout))) := by
    refine ⟨fun other fut' present => ?_,
      fun _ worker present => ⟨worker, present, fun held => held, fun held => held⟩⟩
    have ne : other ≠ id := by
      rintro rfl
      rw [unused] at present
      cases present
    exact ⟨fut', (Function.update_of_ne ne ..).trans present, fun held => held, fun _ held => held⟩
  refine @Inv.after s id s.ready inv _ grows ?_ ⟨⟨bound, ?_, ?_, ?_, ?_⟩, ?_⟩
    (fun _ _ member => member) (fun _ _ _ _ _ _ waits => waits)
  · exact fun _ member => absurd member List.not_mem_nil
  · exact fun racer _ waiting _ => Waiter.noConfusion waiting
  · exact fun racer isQueued => Waiter.noConfusion isQueued
  · exact fun racer present => absurd rfl present
  · exact fun thrown => Bool.noConfusion thrown
  · exact ⟨rfl, Bool.noConfusion, fun _ => ⟨rfl, rfl⟩⟩

theorem inv_runCallback (inv : Inv s) {loop : Nat} {iterated : List Racer} {callback : Callback}
    {tail : List Callback} (first : s.ready loop = callback :: tail) {s' : State}
    (stepped : (s.withReady (Function.update s.ready loop tail)).runCallback loop iterated
      callback = some s') : Inv s' := by
  have others := taken_of_ready first
  have fewer := fewer_of_ready first
  have justified := inv.justified loop callback (by rw [first]; exact List.mem_cons_self)
  cases callback with
  | start id =>
      obtain ⟨fut, _, present, isEffect, rfl⟩ := withFuture_some stepped
      cases isEffect
      exact inv.taking present begin_proper (begin_inv (inv.futures id fut present) others) fewer
        others (fun other fut' ne needed => ne needed.1.symm)
  | mainStep id =>
      obtain ⟨fut, _, present, isEffect, rfl⟩ := withFuture_some stepped
      have held := inv.futures id fut present
      exact inv.taking present (mainStep_proper held.2 isEffect) (mainStep_inv held others isEffect)
        fewer others (fun other fut' ne needed => ne needed.1.symm)
  | waiterStep id racer =>
      obtain ⟨fut, _, present, isEffect, rfl⟩ := withFuture_some stepped
      have held := inv.futures id fut present
      cases isEffect
      exact inv.taking present (waiterStep_proper held.1 _ _)
        (waiterStep_inv held present others rfl) fewer others
        (fun other fut' ne needed => ne needed.1.symm)
  | completed id =>
      obtain ⟨fut, _, present, isEffect, rfl⟩ := withFuture_some stepped
      cases isEffect
      obtain ⟨_, present', completing⟩ := justified
      cases present.symm.trans present'
      exact inv.taking present completed_proper
        (completed_inv (inv.futures id fut present) others completing) fewer others
        (fun other fut' ne needed => ne needed.1.symm)
  | setEvent event =>
      cases stepped
      have taken := inv.taken fewer others (fun _ _ needed => needed)
      exact taken.setEvent (justified.grows grows_withReady)
  | handler worker =>
      cases stepped
      have taken := inv.taken fewer others (fun _ _ needed => needed)
      exact taken.push loop (justified.grows grows_withReady)

end Koil.CancelScope
