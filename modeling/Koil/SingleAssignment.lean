import Koil.QtFutureSteps

namespace Koil.QtFutures

open Contexts QtCalls Runs

variable {α : Type} {setup : Setup} {s s' : State α} {history : List (State α × Label α)}

/-- A state of a call that nothing on the async side has ended or is about to end. -/
structure Quiet (s : State α) : Prop where
  unthrown : s.thrown = false
  uncancelled : s.aiofuture ≠ some .cancelled
  release : .release ∈ s.ready → s.aiofuture.isSome
  stage : match s.stage with
    | .waiting .released => s.aiofuture.isSome
    | .waiting .interrupted => False
    | .stopping _ _ => False
    | .ended reason _ => reason = .slot
    | _ => True

theorem quiet_start : Quiet (start : State α) :=
  ⟨rfl, nofun, fun member => absurd member List.not_mem_nil, trivial⟩

theorem quiet_push (held : Quiet s) (callback : Callback α)
    (known : callback = .release → s.aiofuture.isSome) : Quiet (s.push callback) where
  unthrown := held.unthrown
  uncancelled := held.uncancelled
  stage := held.stage
  release := by
    intro member
    rw [State.push_ready, List.mem_append, List.mem_singleton] at member
    rcases member with before | last
    · exact held.release before
    · exact known last.symm

theorem quiet_pop (held : Quiet s) {callback : Callback α} {ready : List (Callback α)}
    (turn : s.ready = callback :: ready) : Quiet (s.pop ready) where
  unthrown := held.unthrown
  uncancelled := held.uncancelled
  stage := held.stage
  release member := held.release (turn ▸ List.mem_cons_of_mem _ member)

theorem quiet_offer (held : Quiet s) {attempt : TaskEnd (Result α)}
    (set : attempt ≠ .cancelled) : Quiet (s.offer attempt) := by
  cases done : s.aiofuture with
  | some fut =>
      rw [offer_of_done done]
      exact ⟨held.unthrown, done ▸ held.uncancelled, fun _ => rfl, by simpa [done] using held.stage⟩
  | none =>
      rw [offer_of_pending done]
      have completed : Quiet ((s.log attempt).settle (some attempt)) := by
        refine ⟨held.unthrown, by simpa using set, fun _ => rfl, ?_⟩
        have stage := held.stage
        simp only [State.settle_stage, State.log_stage, State.settle_aiofuture]
        split <;> simp_all
      unfold State.announce
      split
      · exact quiet_push completed _ nofun
      · exact quiet_push completed _ fun _ => rfl
      · exact quiet_push completed _ fun _ => rfl
      · exact completed

theorem quiet_release (held : Quiet s) (done : s.aiofuture.isSome) : Quiet s.release := by
  have stage := held.stage
  unfold State.release
  split
  · have released : Quiet (s.goto (.waiting .released)) :=
      ⟨held.unthrown, held.uncancelled, held.release, done⟩
    exact quiet_push released _ nofun
  · next stopping => simp [stopping] at stage
  · exact held

theorem quiet_await (held : Quiet s) (limit : setup.wait ≠ .past) : Quiet (s.await setup) := by
  have goes : ∀ stage : Stage α, stage = .awaiting ∨ stage = .waiting .pending →
      Quiet (s.goto stage) := by
    rintro stage (rfl | rfl)
    · exact ⟨held.unthrown, held.uncancelled, held.release, trivial⟩
    · exact ⟨held.unthrown, held.uncancelled, held.release, trivial⟩
  unfold State.await
  rw [held.unthrown]
  simp only [Bool.false_eq_true, if_false]
  split
  · exact goes _ (.inl rfl)
  · exact goes _ (.inl rfl)
  · exact goes _ (.inr rfl)
  · next past => exact absurd past limit

/-- The step neither cancels the task nor is the end of the timeout. -/
def Label.quiet : Label α → Bool
  | .cancel | .expire => false
  | _ => true

/-- Nothing on the async side is to end the call: no step cancels it or is the end of its
timeout, and the timeout is not over before it begins. -/
def Undisturbed (setup : Setup) (history : List (State α × Label α)) : Prop :=
  setup.wait ≠ .past ∧ ∀ taken ∈ history, taken.2.quiet = true

/-- The future has the outcome of the first attempt to complete it, the queued callbacks and
the cancellation included. None after it changes the future or raises on the loop, and the
call ends with that outcome if the slot ends it, which only the async side can prevent. -/
structure SingleAssignment (setup : Setup) (history : List (State α × Label α))
    (s : State α) : Prop where
  first : s.aiofuture = s.attempts.head?
  once : ∀ taken ∈ history, ∀ fut, taken.1.aiofuture = some fut → s.aiofuture = some fut
  silent : s.failures = []
  outcome : ∀ reason outcome, s.stage = .ended reason outcome →
    reason = .slot ∨ Undisturbed setup history →
      ∃ fut, s.aiofuture = some fut ∧ fut ≠ .cancelled ∧ outcome = fut.get.map Prod.snd
  settles : s.ready = [] → s.stage ≠ .calling → s.aiofuture.isSome →
    ∃ reason outcome, s.stage = .ended reason outcome

section signals

variable [Signals]

theorem quiet_finish (held : Quiet s) (waited : Except Exc (Result α)) :
    Quiet (s.finish .slot waited) := by
  rw [finish_eq]
  exact ⟨held.unthrown, held.uncancelled, held.release, rfl⟩

theorem quiet_resume (held : Quiet s) : Quiet s.resume := by
  have stage := held.stage
  unfold State.resume
  split
  · next fut _ done =>
      have uncancelled : isCancelled fut = false := by
        cases fut with
        | cancelled => exact absurd done held.uncancelled
        | returned result => rfl
        | raised exc => rfl
      simp only [State.leave, held.unthrown, uncancelled]
      exact quiet_finish held _
  · exact quiet_finish held _
  · exact quiet_finish held _
  · next released pending => simp [released, pending] at stage
  · next interrupted pending => simp [interrupted] at stage
  · next interrupted => simp [interrupted] at stage
  · next stopping => simp [stopping] at stage
  · next stopping _ => simp [stopping] at stage
  · exact held

theorem quiet_step (held : Quiet s) (limit : setup.wait ≠ .past)
    {label : Label α} (quiet : label.quiet = true) (taken : step setup s label = some s') :
    Quiet s' := by
  cases label with
  | resolve context returns =>
      cases taken
      exact quiet_push held _ nofun
  | reject exc =>
      cases taken
      exact quiet_push held _ nofun
  | awaits =>
      simp only [step] at taken
      split at taken
      · cases taken
        exact quiet_await held limit
      · cases taken
  | callback =>
      obtain ⟨callback, ready, _, turn, rfl⟩ := callback_cases taken
      have member : callback ∈ s.ready := turn ▸ List.mem_cons_self
      have popped := quiet_pop held turn
      cases callback with
      | setFutureResult result =>
          rw [setResult_eq]
          exact quiet_offer popped (by simp)
      | setFutureException exc =>
          rw [setException_eq]
          exact quiet_offer popped (by simp)
      | release => exact quiet_release popped (held.release member)
      | wake => exact quiet_resume popped
  | cancel => cases quiet
  | expire => cases quiet

theorem due_run (run : Reaches (step setup) start history s) : s.Due :=
  run.invariant due_start fun _ _ _ held taken => due_step held taken

theorem advances_run (run : Reaches (step setup) start history s) :
    Advances start s ∧ ∀ taken ∈ history, Advances taken.1 s := by
  induction run with
  | start => exact ⟨(moves_refl _).toAdvances, fun _ member => absurd member List.not_mem_nil⟩
  | @next history s s' label before taken ih =>
      have last : Advances s s' := step_advances taken
      rw [List.forall_mem_cons]
      exact ⟨ih.1.trans last, last, fun t member => (ih.2 t member).trans last⟩

theorem quiet_run (run : Reaches (step setup) start history s)
    (undisturbed : Undisturbed setup history) : Quiet s := by
  have preserved : ∀ (s : State α) (label : Label α) (s' : State α), Quiet s →
      label.quiet = true → step setup s label = some s' → Quiet s' :=
    fun s label s' held quiet taken => quiet_step held undisturbed.1 quiet taken
  exact run.guarded_invariant quiet_start preserved undisturbed.2

theorem told_eq_iff (fut : TaskEnd (Result α)) (uncancelled : fut ≠ .cancelled) :
    told fut.get = fut.get.map Prod.snd ↔
      ∀ exc, fut = .raised exc → exc.isA .asyncioCancelledError = false := by
  cases fut with
  | returned result => exact ⟨fun _ => nofun, fun _ => rfl⟩
  | cancelled => exact absurd rfl uncancelled
  | raised exc =>
      simp only [TaskEnd.get, told, Except.map, TaskEnd.raised.injEq, forall_eq']
      cases cancelled : exc.isA .asyncioCancelledError with
      | false => simp
      | true =>
          obtain ⟨message, typeError⟩ := told_typeError (α := α) cancelled
          simp only [told, cancelled, if_true] at typeError
          simp only [typeError, if_true, Except.error.injEq, Bool.true_eq_false, iff_false]
          rintro rfl
          cases cancelled

theorem settled_ended (due : s.Due) (idle : s.ready = []) (running : s.stage ≠ .calling)
    (done : s.aiofuture.isSome) : ∃ reason outcome, s.stage = .ended reason outcome := by
  cases stage : s.stage with
  | calling => exact absurd stage running
  | awaiting => simp [State.Due, stage, idle, done] at due
  | waiting waiter => cases waiter <;> simp [State.Due, stage, idle, done] at due
  | stopping cause waiter => cases waiter <;> simp [State.Due, stage, idle] at due
  | ended reason outcome => exact ⟨reason, outcome, rfl⟩

/-- The future of every call is assigned once, and the call ends with its outcome, exactly
if that outcome is not an exception which `acall` takes for its own cancellation. -/
theorem single_assignment_iff (run : Reaches (step setup) start history s) :
    SingleAssignment setup history s ↔ ∀ outcome exc, s.stage = .ended .slot outcome →
      s.attempts.head? = some (.raised exc) → exc.isA .asyncioCancelledError = false := by
  obtain ⟨fromStart, fromEach⟩ := advances_run run
  obtain ⟨attempts, logged, future⟩ := fromStart.tried
  have first : s.aiofuture = s.attempts.head? := by
    rw [future, logged]
    rfl
  have due := due_run run
  constructor
  · intro single outcome exc ended attempt
    obtain ⟨fut, done, uncancelled, same⟩ := single.outcome _ _ ended (.inl rfl)
    simp only [State.Due, ended, done, Option.some.injEq, exists_eq_left'] at due
    have whole := (told_eq_iff fut uncancelled).mp ((due trivial).2.symm.trans same)
    apply whole
    rw [first, attempt] at done
    exact (Option.some.inj done).symm
  · intro plain
    refine ⟨first, ?_, fromStart.failures, ?_, settled_ended due⟩
    · intro taken member fut done
      obtain ⟨later, _, kept⟩ := (fromEach taken member).tried
      rw [kept, done, Option.some_or]
    · intro reason outcome ended either
      have slot : reason = .slot := by
        rcases either with slot | undisturbed
        · exact slot
        · have quiet := (quiet_run run undisturbed).stage
          simpa only [ended] using quiet
      subst slot
      simp only [State.Due, ended] at due
      obtain ⟨fut, done, bySlot⟩ := due
      obtain ⟨uncancelled, same⟩ := bySlot trivial
      refine ⟨fut, done, uncancelled, same.trans ?_⟩
      rw [told_eq_iff fut uncancelled]
      rintro exc rfl
      exact plain outcome exc ended (first ▸ done)

end signals

def resolvedTwice : List (Label Nat) :=
  [.awaits, .resolve Context.empty 7, .reject (.of .valueError ""), .callback, .callback,
    .callback]

theorem single_assignment_iff_resolved_twice :
    ∃ (history : List (State Nat × Label Nat)) (s : State Nat),
      Reaches (step ⟨true, none⟩) start history s ∧ s.stage = .ended .slot (.ok 7) ∧
      s.attempts.length = 2 ∧ SingleAssignment ⟨true, none⟩ history s := by
  have initial : Reaches (step ⟨true, none⟩) (start : State Nat) [] start := .start
  have run := initial.follow resolvedTwice rfl
  refine ⟨_, _, run, rfl, rfl, (single_assignment_iff run).mpr ?_⟩
  intro outcome exc _ attempt
  cases attempt

/-- An exception of a user class that is an `Exception` and an `asyncio.CancelledError`. -/
def cancelledInQt : Exc := ⟨.user ⟨0, [], [.exception, .asyncioCancelledError], true⟩, ""⟩

def rejectedSo : List (Label Nat) := [.awaits, .reject cancelledInQt, .callback, .callback]

/-- Nobody cancels the call, and it ends with a TypeError in place of the rejection. -/
theorem rejected_call_loses_outcome :
    ∃ (history : List (State Nat × Label Nat)) (s : State Nat),
      Reaches (step ⟨true, none⟩) start history s ∧
      (∀ taken ∈ history, ∀ exc, taken.2 = .reject exc →
        exc.isA .exception = true ∧ exc.isA .stopIteration = false) ∧
      Undisturbed ⟨true, none⟩ history ∧ s.aiofuture = some (.raised cancelledInQt) ∧
      s.stage = .ended .slot (.error (.of .typeError "")) ∧
      ¬ SingleAssignment ⟨true, none⟩ history s := by
  have exceptions : ∀ label ∈ rejectedSo, (∀ exc, label = .reject exc →
      exc.isA .exception = true ∧ exc.isA .stopIteration = false) ∧ label.quiet = true := by
    simp only [rejectedSo, List.forall_mem_cons]
    refine ⟨⟨nofun, rfl⟩, ⟨?_, rfl⟩, ⟨nofun, rfl⟩, ⟨nofun, rfl⟩, nofun⟩
    intro exc same
    cases same
    decide
  have ⟨run, met⟩ := followed_run (step ⟨true, none⟩) start exceptions rfl
  refine ⟨_, _, run, fun taken member => (met taken member).1,
    ⟨by decide, fun taken member => (met taken member).2⟩, rfl, rfl, ?_⟩
  intro single
  obtain ⟨fut, done, _, same⟩ := single.outcome .slot _ rfl (.inl rfl)
  have rejected : .raised cancelledInQt = fut := Option.some.inj done
  subst rejected
  have classes := congrArg Exc.cls (Except.error.inj same)
  cases classes

end Koil.QtFutures
