import Koil.CancelScope

namespace Koil.CancelScope

open Race Runs

variable {s t : State} {id : Nat} {fut fut' : Future}

/-- The waiters and the wiring of a future, whatever its stage. -/
structure Wired (s : State) (id : Nat) (fut : Future) : Prop where
  bound : ∀ worker, fut.ambient = some worker →
    (s.workers worker).map Worker.loop = some fut.loop
  listening : ∀ racer event, fut.waiter racer = .waiting → fut.event id racer = some event →
    s.flag event = false ∧ id ∈ s.waiters event
  stepping : ∀ racer, fut.waiter racer = .queued → .waiterStep id racer ∈ s.ready fut.loop
  occupied : ∀ racer, fut.waiter racer ≠ .absent →
    racer = .deadline ∨ (fut.event id racer).isSome = true
  thrown : fut.thrown = true → s.shutting fut.loop = true ∧ fut.asked = true

def Future.present (fut : Future) : Prop :=
  fut.waiter .ownCancel ≠ .absent ∧
    (fut.ambient.isSome = true → fut.waiter .ambientCancel ≠ .absent)

def VerdictHolds (s : State) (id : Nat) (fut : Future) : Verdict → Prop
  | .won body => fut.work = some body ∧ (fut.asked = true → s.shutting fut.loop = true)
  | .timedOut => True
  | .cancelled => s.eventSet id fut ∨ s.shutting fut.loop = true

/-- The work has ended, was asked to cancel, or is still to be asked. -/
def Future.covered (fut : Future) (rest : List Racer) : Prop :=
  fut.work.isSome = true ∨ fut.asked = true ∨ .work ∈ rest

structure Unraced (s : State) (fut : Future) : Prop where
  running : fut.work = none
  unasked : fut.asked = true → s.shutting fut.loop = true
  unused : ∀ racer, fut.waiter racer = .absent ∧ fut.withdrawn racer = false

/-- What holds in a stage; its callbacks are there as long as the stage needs them. -/
def StageInv (s : State) (id : Nat) (fut : Future) : Prop :=
  match fut.stage with
  | .captured => Unraced s fut
  | .queued => .start id ∈ s.ready fut.loop ∧ Unraced s fut
  | .created => .mainStep id ∈ s.ready fut.loop ∧ Unraced s fut
  | .racing woken =>
      fut.present ∧ (fut.asked = true → s.shutting fut.loop = true) ∧
      (∀ racer, fut.withdrawn racer = true → s.shutting fut.loop = true) ∧
      (∀ racer, fut.waiter racer = .done →
        s.fired fut id racer = true ∨ s.shutting fut.loop = true) ∧
      (woken = true → .mainStep id ∈ s.ready fut.loop ∧ ∃ racer, fut.finished racer = true) ∧
      (woken = false → ∀ racer, fut.finished racer = true → .completed id ∈ s.ready fut.loop)
  | .tidying verdict current rest _ =>
      VerdictHolds s id fut verdict ∧ fut.covered rest ∧
      (current = .work → fut.work.isSome = true ∨ fut.asked = true) ∧
      (current ≠ .work → fut.withdrawn current = true ∧
        (fut.waiter current = .queued ∨
          (fut.waiter current = .done ∧ .mainStep id ∈ s.ready fut.loop)))
  | .resolved done =>
      (done.isCancellation = true →
        s.eventSet id fut ∨ fut.selfCancelled ∨ s.shutting fut.loop = true) ∧
      (fut.work.isSome = true ∨ fut.asked = true)

def FutInv (s : State) (id : Nat) (fut : Future) : Prop := Wired s id fut ∧ StageInv s id fut

def Future.needsStep (fut : Future) : Bool :=
  match fut.stage with
  | .created => true
  | .racing woken => woken
  | .tidying _ current _ _ => current != .work && fut.waiter current == .done
  | _ => false

def Future.needs (fut : Future) (id : Nat) : Callback → Prop
  | .start other => other = id ∧ fut.stage = .queued
  | .mainStep other => other = id ∧ fut.needsStep = true
  | .waiterStep other racer => other = id ∧ fut.waiter racer = .queued
  | .completed other => other = id ∧ fut.stage = .racing false
  | _ => False

structure Later (s t : State) (id : Nat) (fut fut' : Future) : Prop where
  loop : fut'.loop = fut.loop
  ambient : fut'.ambient = fut.ambient
  stage : fut'.stage = fut.stage
  work : fut'.work = fut.work
  asked : fut.asked = true → fut'.asked = true
  unasked : fut'.asked = true → fut.asked = true ∨ t.shutting fut.loop = true
  done : ∀ racer, fut'.waiter racer = .done ↔ fut.waiter racer = .done
  absent : ∀ racer, fut'.waiter racer = .absent ↔ fut.waiter racer = .absent
  queued : ∀ racer, fut.withdrawn racer = true → fut.waiter racer = .queued →
    fut'.waiter racer = .queued
  withdrawn : ∀ racer, fut.withdrawn racer = true → fut'.withdrawn racer = true
  kept : ∀ racer, fut'.withdrawn racer = true → fut.withdrawn racer = true ∨
    (fut.waiter racer ≠ .absent ∧ t.shutting fut.loop = true)
  expired : fut.expired = true → fut'.expired = true
  flag : ∀ event, s.flag event = true → t.flag event = true
  shutting : ∀ loop, s.shutting loop = true → t.shutting loop = true
  ready : ∀ callback, fut.needs id callback → (∀ racer, callback ≠ .waiterStep id racer) →
    callback ∈ s.ready fut.loop → callback ∈ t.ready fut.loop

theorem Later.eventSet (later : Later s t id fut fut') (set : s.eventSet id fut) :
    t.eventSet id fut' := by
  rcases set with own | ⟨worker, captured, ambient⟩
  · exact .inl (later.flag _ own)
  · exact .inr ⟨worker, by rw [later.ambient, captured], later.flag _ ambient⟩

theorem event_congr (ambient : fut'.ambient = fut.ambient) (racer : Racer) :
    fut'.event id racer = fut.event id racer := by
  cases racer <;> simp [Future.event, ambient]

theorem Later.fired (later : Later s t id fut fut') {racer : Racer}
    (fired : s.fired fut id racer = true) : t.fired fut' id racer = true := by
  unfold State.fired at fired ⊢
  rw [event_congr later.ambient racer]
  cases event : fut.event id racer with
  | none =>
      simp only [event] at fired
      exact later.expired fired
  | some event' =>
      simp only [event] at fired
      exact later.flag _ fired

theorem Later.finished (later : Later s t id fut fut') (racer : Racer) :
    fut'.finished racer = fut.finished racer := by
  have same := later.done racer
  cases racer with
  | work => simp [Future.finished, later.work]
  | ownCancel | ambientCancel | deadline =>
      rw [Bool.eq_iff_iff]
      simpa [Future.finished] using same

theorem Later.settled (later : Later s t id fut fut')
    (settled : fut.work.isSome = true ∨ fut.asked = true) :
    fut'.work.isSome = true ∨ fut'.asked = true := by
  rw [later.work]
  exact settled.imp_right later.asked

theorem Later.stays_unasked (later : Later s t id fut fut')
    (unasked : fut.asked = true → s.shutting fut.loop = true) (asked : fut'.asked = true) :
    t.shutting fut.loop = true :=
  (later.unasked asked).elim (fun before => later.shutting _ (unasked before)) fun after => after

theorem Later.unraced (later : Later s t id fut fut') (held : Unraced s fut) : Unraced t fut' where
  running := later.work.trans held.running
  unasked asked := by
    rw [later.loop]
    exact later.stays_unasked held.unasked asked
  unused racer := by
    obtain ⟨absent, stays⟩ := held.unused racer
    refine ⟨(later.absent racer).mpr absent, ?_⟩
    cases asked : fut'.withdrawn racer with
    | false => rfl
    | true =>
        rcases later.kept racer asked with before | ⟨present, _⟩
        · exact Bool.noConfusion (stays.symm.trans before)
        · exact absurd absent present

theorem Later.selfCancelled (later : Later s t id fut fut') (cancelled : fut.selfCancelled) :
    fut'.selfCancelled ∨ t.shutting fut.loop = true := by
  obtain ⟨body, isBody, isCancellation, reason⟩ := cancelled
  have same : fut'.work = some body := later.work.trans isBody
  rcases reason with unasked | raised
  · cases asked : fut'.asked with
    | false => exact .inl ⟨body, same, isCancellation, .inl asked⟩
    | true =>
        rcases later.unasked asked with before | shutting
        · exact Bool.noConfusion (unasked.symm.trans before)
        · exact .inr shutting
  · exact .inl ⟨body, same, isCancellation, .inr raised⟩

theorem StageInv.later (held : StageInv s id fut) (later : Later s t id fut fut') :
    StageInv t id fut' := by
  unfold StageInv at held ⊢
  rw [later.stage, later.loop]
  cases stage : fut.stage with
  | captured =>
      simp only [stage] at held ⊢
      exact later.unraced held
  | queued =>
      simp only [stage] at held ⊢
      exact ⟨later.ready _ ⟨rfl, stage⟩ (by simp) held.1, later.unraced held.2⟩
  | created =>
      simp only [stage] at held ⊢
      have due : fut.needsStep = true := by simp [Future.needsStep, stage]
      exact ⟨later.ready _ ⟨rfl, due⟩ (by simp) held.1, later.unraced held.2⟩
  | racing woken =>
      simp only [stage] at held ⊢
      obtain ⟨present, unasked, kept, fired, awake, asleep⟩ := held
      refine ⟨?_, later.stays_unasked unasked, fun racer asked => ?_, ?_, ?_, ?_⟩
      · refine ⟨fun absent => present.1 ((later.absent _).mp absent), ?_⟩
        rw [later.ambient]
        exact fun captured absent => present.2 captured ((later.absent _).mp absent)
      · rcases later.kept racer asked with before | ⟨_, shutting⟩
        · exact later.shutting _ (kept racer before)
        · exact shutting
      · exact fun racer done =>
          (fired racer ((later.done racer).mp done)).imp later.fired (later.shutting _)
      · intro isWoken
        obtain ⟨step, racer, finished⟩ := awake isWoken
        have due : fut.needsStep = true := by simp [Future.needsStep, stage, isWoken]
        refine ⟨later.ready _ ⟨rfl, due⟩ (by simp) step, racer, ?_⟩
        rw [later.finished racer]
        exact finished
      · intro notWoken racer finished
        rw [later.finished racer] at finished
        exact later.ready _ ⟨rfl, by rw [stage, notWoken]⟩ (by simp)
          (asleep notWoken racer finished)
  | tidying verdict current rest acknowledged =>
      simp only [stage] at held ⊢
      obtain ⟨holds, covered, atWork, atWaiter⟩ := held
      refine ⟨?_, ?_, fun isWork => later.settled (atWork isWork), ?_⟩
      · cases verdict with
        | won body =>
            refine ⟨later.work.trans holds.1, fun asked => ?_⟩
            rw [later.loop]
            exact later.stays_unasked holds.2 asked
        | timedOut => trivial
        | cancelled =>
            simp only [VerdictHolds, later.loop]
            exact holds.imp later.eventSet (later.shutting _)
      · rcases covered with ended | asked | still
        · exact .inl (by rw [later.work]; exact ended)
        · exact .inr (.inl (later.asked asked))
        · exact .inr (.inr still)
      · intro notWork
        obtain ⟨withdrawn, queued | ⟨done, step⟩⟩ := atWaiter notWork
        · exact ⟨later.withdrawn _ withdrawn, .inl (later.queued _ withdrawn queued)⟩
        · refine ⟨later.withdrawn _ withdrawn, .inr ⟨(later.done _).mpr done, ?_⟩⟩
          have due : fut.needsStep = true := by simp [Future.needsStep, stage, notWork, done]
          exact later.ready _ ⟨rfl, due⟩ (by simp) step
  | resolved done =>
      simp only [stage] at held ⊢
      refine ⟨fun cancelled => ?_, later.settled held.2⟩
      rcases held.1 cancelled with set | own | shutting
      · exact .inl (later.eventSet set)
      · exact .inr (later.selfCancelled own)
      · exact .inr (.inr (later.shutting _ shutting))

theorem FutInv.frame (held : FutInv s id fut) (flag : t.flag = s.flag)
    (ready : ∀ callback, fut.needs id callback → callback ∈ s.ready fut.loop →
      callback ∈ t.ready fut.loop)
    (waiters : ∀ event, id ∈ s.waiters event → id ∈ t.waiters event)
    (workers : ∀ worker loop, (s.workers worker).map Worker.loop = some loop →
      (t.workers worker).map Worker.loop = some loop)
    (shutting : t.shutting = s.shutting) : FutInv t id fut := by
  obtain ⟨wired, stage⟩ := held
  refine ⟨⟨?_, ?_, ?_, wired.occupied, ?_⟩, stage.later ?_⟩
  · exact fun worker captured => workers worker _ (wired.bound worker captured)
  · intro racer event waiting isEvent
    obtain ⟨unset, member⟩ := wired.listening racer event waiting isEvent
    exact ⟨by rw [flag]; exact unset, waiters event member⟩
  · exact fun racer queued => ready _ ⟨rfl, queued⟩ (wired.stepping racer queued)
  · rw [shutting]
    exact wired.thrown
  · refine ⟨rfl, rfl, rfl, rfl, fun held => held, .inl, fun _ => Iff.rfl, fun _ => Iff.rfl,
      fun _ _ held => held, fun _ held => held, fun _ held => .inl held, fun held => held, ?_, ?_,
      fun _ needed _ => ready _ needed⟩
    · exact fun event set => by rw [flag]; exact set
    · exact fun loop isShutting => by rw [shutting]; exact isShutting

theorem mem_apply_ready {effect : Effect} {loop : Nat} {callback : Callback} :
    callback ∈ (s.apply id effect).ready loop ↔
      callback ∈ s.ready loop ∨ (loop = effect.future.loop ∧ callback ∈ effect.pushed) := by
  by_cases same : loop = effect.future.loop
  · subst same
    simp [State.apply]
  · simp [State.apply, same]

theorem mem_apply_waiters {effect : Effect} {event : EventId} {other : Nat}
    (member : other ∈ s.waiters event) (ne : other ≠ id ∨ effect.leaves ≠ some event) :
    other ∈ (s.apply id effect).waiters event := by
  simp only [State.apply]
  refine List.mem_append_left _ ?_
  split
  · next leaves =>
      rcases ne with ne | stays
      · simpa using ⟨member, ne⟩
      · exact absurd leaves stays
  · exact member

theorem wired_apply (held : Wired s id fut) {ready : Nat → List Callback} {effect : Effect}
    (loop : effect.future.loop = fut.loop) (ambient : effect.future.ambient = fut.ambient)
    (thrown : effect.future.thrown = true → fut.thrown = true)
    (asked : fut.asked = true → effect.future.asked = true)
    (listening : ∀ racer event, effect.future.waiter racer = .waiting →
      fut.event id racer = some event →
      (fut.waiter racer = .waiting ∧ effect.leaves ≠ some event) ∨
        (effect.joins = some event ∧ s.flag event = false))
    (stepping : ∀ racer, effect.future.waiter racer = .queued →
      .waiterStep id racer ∈ ready fut.loop ∨ .waiterStep id racer ∈ effect.pushed)
    (occupied : ∀ racer, effect.future.waiter racer ≠ .absent →
      fut.waiter racer ≠ .absent ∨ racer = .deadline ∨ (fut.event id racer).isSome = true) :
    Wired ((s.withReady ready).apply id effect) id effect.future where
  bound worker captured := by
    rw [loop]
    exact held.bound worker (ambient ▸ captured)
  listening racer event waiting isEvent := by
    rw [event_congr ambient racer] at isEvent
    rcases listening racer event waiting isEvent with ⟨before, stays⟩ | ⟨joins, unset⟩
    · obtain ⟨unset, member⟩ := held.listening racer event before isEvent
      have kept : id ∈ (s.withReady ready).waiters event := member
      exact ⟨unset, mem_apply_waiters kept (.inr stays)⟩
    · exact ⟨unset, by simp [State.apply, joins]⟩
  stepping racer queued := by
    refine mem_apply_ready.mpr ?_
    rcases stepping racer queued with waits | pushed
    · exact .inl (by rw [loop]; exact waits)
    · exact .inr ⟨rfl, pushed⟩
  occupied racer present := by
    rw [event_congr ambient racer]
    rcases occupied racer present with before | named
    · exact held.occupied racer before
    · exact named
  thrown isThrown := by
    obtain ⟨shutting, isAsked⟩ := held.thrown (thrown isThrown)
    exact ⟨by rw [loop]; exact shutting, asked isAsked⟩

end Koil.CancelScope
