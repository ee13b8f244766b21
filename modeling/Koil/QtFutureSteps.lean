import Koil.QtFutures

namespace Koil.QtFutures

open QtCalls

variable {α : Type}

theorem offer_of_done {s : State α} {fut : TaskEnd (Result α)} (done : s.aiofuture = some fut)
    (attempt : TaskEnd (Result α)) : s.offer attempt = (s.log attempt).settle (some fut) := by
  simp [State.offer, State.put, done]

theorem offer_of_pending {s : State α} (pending : s.aiofuture = none)
    (attempt : TaskEnd (Result α)) :
    s.offer attempt = ((s.log attempt).settle (some attempt)).announce := by
  simp [State.offer, State.put, pending]

/-- Whatever is done to the future is an attempt to complete it that counts if it is the
first, and raises nothing on the loop. No part of the call marks its end or tells of it. -/
structure Advances (s s' : State α) : Prop where
  tried : ∃ attempts, s'.attempts = s.attempts ++ attempts ∧
    s'.aiofuture = s.aiofuture.or attempts.head?
  failures : s'.failures = s.failures
  untold : s'.iscancelled = s.iscancelled ∧ s'.emitted = s.emitted

/-- What the call does by itself queues nothing but its own steps, and never completes the
future with a result. -/
structure Moves (s s' : State α) : Prop extends Advances s s' where
  ready : ∀ callback ∈ s'.ready, callback ∈ s.ready ∨ callback = .wake ∨ callback = .release
  results : ∀ result, s'.aiofuture = some (.returned result) →
    s.aiofuture = some (.returned result)

theorem advances_of_same {s s' : State α} (attempts : s'.attempts = s.attempts)
    (aiofuture : s'.aiofuture = s.aiofuture) (failures : s'.failures = s.failures)
    (iscancelled : s'.iscancelled = s.iscancelled) (emitted : s'.emitted = s.emitted) :
    Advances s s' :=
  ⟨⟨[], by simp [attempts], by simp [aiofuture]⟩, failures, iscancelled, emitted⟩

theorem Advances.trans {s t u : State α} (first : Advances s t) (second : Advances t u) :
    Advances s u := by
  obtain ⟨earlier, attemptsT, futureT⟩ := first.tried
  obtain ⟨later, attemptsU, futureU⟩ := second.tried
  refine ⟨⟨earlier ++ later, ?_, ?_⟩, second.failures.trans first.failures,
    second.untold.1.trans first.untold.1, second.untold.2.trans first.untold.2⟩
  · rw [attemptsU, attemptsT, List.append_assoc]
  · rw [futureU, futureT, List.head?_append, Option.or_assoc]

theorem Moves.trans {s t u : State α} (first : Moves s t) (second : Moves t u) : Moves s u where
  toAdvances := first.toAdvances.trans second.toAdvances
  ready callback member := (second.ready callback member).elim (first.ready callback) .inr
  results result done := first.results result (second.results result done)

theorem advances_push (s : State α) (callback : Callback α) : Advances s (s.push callback) :=
  advances_of_same rfl rfl rfl rfl rfl

theorem advances_offer (s : State α) (attempt : TaskEnd (Result α)) :
    Advances s (s.offer attempt) where
  tried := ⟨[attempt], offer_attempts s attempt, offer_aiofuture s attempt⟩
  failures := offer_failures s attempt
  untold := by
    unfold State.offer State.put State.announce
    split
    · exact ⟨rfl, rfl⟩
    · split <;> exact ⟨rfl, rfl⟩

theorem moves_of_ready {s s' : State α} (moved : Advances s s') (ready : s'.ready = s.ready)
    (aiofuture : s'.aiofuture = s.aiofuture) : Moves s s' :=
  ⟨moved, fun _ member => .inl (ready ▸ member), fun _ done => aiofuture ▸ done⟩

theorem moves_refl (s : State α) : Moves s s :=
  moves_of_ready (advances_of_same rfl rfl rfl rfl rfl) rfl rfl

theorem moves_goto (s : State α) (stage : Stage α) : Moves s (s.goto stage) :=
  moves_of_ready (advances_of_same rfl rfl rfl rfl rfl) rfl rfl

theorem moves_throw (s : State α) (thrown : Bool) : Moves s (s.throw thrown) :=
  moves_of_ready (advances_of_same rfl rfl rfl rfl rfl) rfl rfl

theorem moves_disturb (s : State α) : Moves s s.disturb :=
  moves_of_ready (advances_of_same rfl rfl rfl rfl rfl) rfl rfl

theorem moves_expire (s : State α) : Moves s s.expire :=
  moves_of_ready (advances_of_same rfl rfl rfl rfl rfl) rfl rfl

theorem moves_push (s : State α) {callback : Callback α}
    (own : callback = .wake ∨ callback = .release) : Moves s (s.push callback) where
  toAdvances := advances_push s callback
  ready other member := by
    rcases List.mem_append.mp member with before | last
    · exact .inl before
    · rw [List.mem_singleton.mp last]
      exact .inr own
  results _ done := done

theorem moves_announce (s : State α) : Moves s s.announce := by
  unfold State.announce
  split
  · exact moves_push s (.inl rfl)
  · exact moves_push s (.inr rfl)
  · exact moves_push s (.inr rfl)
  · exact moves_refl s

theorem offer_ready (s : State α) (attempt : TaskEnd (Result α)) :
    ∀ callback ∈ (s.offer attempt).ready,
      callback ∈ s.ready ∨ callback = .wake ∨ callback = .release := by
  cases done : s.aiofuture with
  | some fut =>
      rw [offer_of_done done]
      exact fun _ member => .inl member
  | none =>
      rw [offer_of_pending done]
      exact (moves_announce ((s.log attempt).settle (some attempt))).ready

theorem moves_abandon (s : State α) : Moves s s.abandon := by
  rw [abandon_eq]
  refine ⟨advances_offer s _, offer_ready s _, ?_⟩
  intro result done
  rw [offer_aiofuture, Option.or_eq_some_iff] at done
  exact done.resolve_right nofun

theorem moves_stop (s : State α) (cause : Cause) : Moves s (s.stop cause) :=
  (moves_goto s _).trans (moves_abandon _)

theorem moves_release (s : State α) : Moves s s.release := by
  unfold State.release
  split
  · exact (moves_goto s _).trans (moves_push _ (.inl rfl))
  · exact (moves_goto s _).trans (moves_push _ (.inl rfl))
  · exact moves_refl s

theorem moves_interrupt (s : State α) : Moves s s.interrupt := by
  unfold State.interrupt
  split
  · split
    · exact (moves_abandon s).trans (moves_throw _ true)
    · exact moves_abandon s
  · exact (moves_goto s _).trans (moves_push _ (.inl rfl))
  · exact moves_goto s _
  · exact (moves_goto s _).trans (moves_push _ (.inl rfl))
  · exact moves_goto s _
  · exact moves_refl s

theorem moves_await (setup : Setup) (s : State α) : Moves s (s.await setup) := by
  have waits : ∀ waiting : State α, Moves s waiting →
      Moves s (if s.thrown then (waiting.throw false).interrupt else waiting) := by
    intro waiting moved
    split
    · exact (moved.trans (moves_throw waiting false)).trans (moves_interrupt _)
    · exact moved
  unfold State.await
  apply waits
  split
  · exact moves_goto s _
  · exact moves_goto s _
  · exact moves_goto s _
  · exact moves_stop s _

variable [Signals]

def told (waited : Except Exc (Result α)) : Except Exc α :=
  match waited with
  | .ok (_, returns) => .ok returns
  | .error exc =>
      if exc.isA .asyncioCancelledError then (Signals.emit 1 0).bind fun _ => .error exc
      else .error exc

theorem giveUp_eq (s : State α) (exc : Exc) :
    s.giveUp exc = ((Signals.emit 1 0).bind fun _ => .error exc, s) := by
  obtain ⟨message, raises⟩ := Signals.few (Nat.zero_lt_one)
  rw [State.giveUp, State.setCancelled, raises]
  rfl

theorem told_typeError {exc : Exc} (cancelled : exc.isA .asyncioCancelledError = true) :
    ∃ message, (told (.error exc) : Except Exc α) = .error (.of .typeError message) := by
  obtain ⟨message, raises⟩ := Signals.few (Nat.zero_lt_one)
  exact ⟨message, by simp [told, cancelled, raises, Except.bind]⟩

theorem finish_eq (s : State α) (reason : Reason) (waited : Except Exc (Result α)) :
    s.finish reason waited = s.goto (.ended reason (told waited)) := by
  cases waited with
  | ok result => rfl
  | error exc =>
      cases cancelled : exc.isA .asyncioCancelledError with
      | true =>
          simp only [State.finish, told, cancelled, if_true, giveUp_eq]
      | false => simp [State.finish, told, cancelled]

/-- What a stage has to do with the future, and which callbacks of the loop are due in it. -/
def State.Due (s : State α) : Prop :=
  match s.stage with
  | .calling => s.aiofuture = none
  | .awaiting => s.aiofuture.isSome → .wake ∈ s.ready
  | .waiting .pending =>
      s.aiofuture ≠ some .cancelled ∧ (s.aiofuture.isSome → .release ∈ s.ready)
  | .waiting _ => s.aiofuture ≠ some .cancelled ∧ .wake ∈ s.ready
  | .stopping _ .pending => s.aiofuture.isSome ∧ .release ∈ s.ready
  | .stopping _ _ => s.aiofuture.isSome ∧ .wake ∈ s.ready
  | .ended reason outcome => ∃ fut, s.aiofuture = some fut ∧
      (reason = .slot → fut ≠ .cancelled ∧ outcome = told fut.get)

theorem due_mono {s s' : State α} (held : s.Due) (stage : s'.stage = s.stage)
    (aiofuture : s'.aiofuture = s.aiofuture)
    (waiting : ∀ callback ∈ s.ready, callback = .wake ∨ callback = .release →
      callback ∈ s'.ready) : s'.Due := by
  have wakes := waiting .wake
  have releases := waiting .release
  simp only [true_or, or_true, forall_const] at wakes releases
  unfold State.Due at held ⊢
  rw [stage, aiofuture]
  split at held
  · exact held
  · exact fun done => wakes (held done)
  · exact ⟨held.1, fun done => releases (held.2 done)⟩
  · exact ⟨held.1, wakes held.2⟩
  · exact ⟨held.1, releases held.2⟩
  · exact ⟨held.1, wakes held.2⟩
  · exact held

theorem due_push {s : State α} (held : s.Due) (callback : Callback α) : (s.push callback).Due :=
  due_mono held rfl rfl fun _ member _ => List.mem_append_left _ member

theorem due_offer {s : State α} (held : s.Due) (attempt : TaskEnd (Result α))
    (running : s.stage ≠ .calling)
    (set : ∀ waiter, s.stage = .waiting waiter → attempt ≠ .cancelled) :
    (s.offer attempt).Due := by
  cases done : s.aiofuture with
  | some fut =>
      rw [offer_of_done done]
      exact due_mono held rfl done.symm fun _ member _ => member
  | none =>
      rw [offer_of_pending done]
      cases stage : s.stage with
      | calling => exact absurd stage running
      | awaiting => simp [State.Due, State.announce, stage]
      | waiting waiter =>
          have uncancelled := set waiter stage
          cases waiter with
          | pending => simp [State.Due, State.announce, stage, uncancelled]
          | released =>
              have wake : .wake ∈ s.ready := by
                simp only [State.Due, stage] at held
                exact held.2
              simp [State.Due, State.announce, stage, uncancelled, wake]
          | interrupted =>
              have wake : .wake ∈ s.ready := by
                simp only [State.Due, stage] at held
                exact held.2
              simp [State.Due, State.announce, stage, uncancelled, wake]
      | stopping cause waiter =>
          cases waiter <;> simp [State.Due, stage, done] at held
      | ended reason outcome => simp [State.Due, stage, done] at held

theorem due_stop {s : State α} (pending : s.aiofuture = none) (cause : Cause) :
    (s.stop cause).Due := by
  have still : (s.goto (.stopping cause .pending)).aiofuture = none := pending
  rw [State.stop, abandon_eq, offer_of_pending still]
  simp [State.Due, State.announce]

theorem due_slot {s : State α} {fut : TaskEnd (Result α)} (done : s.aiofuture = some fut)
    (uncancelled : fut ≠ .cancelled) : (s.finish .slot fut.get).Due := by
  rw [finish_eq]
  exact ⟨fut, done, fun _ => ⟨uncancelled, rfl⟩⟩

theorem due_given_up {s : State α} {fut : TaskEnd (Result α)} (done : s.aiofuture = some fut)
    (reason : Reason) (other : reason ≠ .slot) (waited : Except Exc (Result α)) :
    (s.finish reason waited).Due := by
  rw [finish_eq]
  exact ⟨fut, done, fun slot => absurd slot other⟩

theorem due_leave {s : State α} {fut : TaskEnd (Result α)} (done : s.aiofuture = some fut) :
    (s.leave fut).Due := by
  unfold State.leave
  split
  · split
    · exact due_given_up done .timedOut (by decide) _
    · exact due_given_up done .cancelled (by decide) _
  · next whole =>
      apply due_slot done
      rintro rfl
      simp [isCancelled] at whole

theorem due_giveBack {s : State α} {fut : TaskEnd (Result α)} (done : s.aiofuture = some fut) :
    (s.giveBack fut).Due := by
  cases fut with
  | returned result => exact due_slot done nofun
  | cancelled => exact due_given_up done .timedOut (by decide) (.error timeoutError)
  | raised exc =>
      unfold State.giveBack
      simp only [TaskEnd.get]
      split
      · exact due_given_up done .timedOut (by decide) _
      · exact due_slot done nofun

theorem due_resume_waiting {s : State α} {ready : List (Callback α)} {waiter : Waiter}
    (held : s.Due) (stage : s.stage = .waiting waiter)
    (others : ∀ callback ∈ s.ready, callback ≠ .wake → callback ∈ ready) :
    (s.pop ready).resume.Due := by
  cases done : s.aiofuture with
  | none =>
      cases waiter with
      | pending => simp [State.resume, State.Due, stage, done]
      | released =>
          have stops := due_stop (s := s.pop ready) done .timedOut
          simpa [State.resume, stage, done] using stops
      | interrupted =>
          have stops := due_stop (s := s.pop ready) done .cancelled
          simpa [State.resume, stage, done] using stops
  | some fut =>
      have ends : fut ≠ .cancelled → ((s.pop ready).finish .slot fut.get).Due :=
        due_slot done
      cases waiter with
      | pending =>
          simp only [State.Due, stage, done] at held
          have release := others .release (held.2 rfl) nofun
          simp [State.resume, State.Due, stage, done, release, held.1]
      | released =>
          simp only [State.Due, stage, done] at held
          have leaves := ends fun same => held.1 (congrArg some same)
          simpa [State.resume, stage, done] using leaves
      | interrupted =>
          simp only [State.Due, stage, done] at held
          have leaves := ends fun same => held.1 (congrArg some same)
          simpa [State.resume, stage, done] using leaves

theorem due_resume_stopping {s : State α} {ready : List (Callback α)} {cause : Cause}
    {waiter : Waiter} (held : s.Due) (stage : s.stage = .stopping cause waiter)
    (others : ∀ callback ∈ s.ready, callback ≠ .wake → callback ∈ ready) :
    (s.pop ready).resume.Due := by
  have isDone : s.aiofuture.isSome := by
    cases waiter <;> (simp only [State.Due, stage] at held; exact held.1)
  obtain ⟨fut, done⟩ := Option.isSome_iff_exists.mp isDone
  have leaves := due_given_up (s := s.pop ready) done .cancelled (by decide)
    (.error cancelledError)
  cases waiter with
  | pending =>
      simp only [State.Due, stage] at held
      have release := others .release held.2 nofun
      simp [State.resume, State.Due, stage, done, release]
  | interrupted => simpa [State.resume, stage, done] using leaves
  | released =>
      cases cause with
      | cancelled => simpa [State.resume, stage, done] using leaves
      | timedOut =>
          have gives := due_giveBack (s := s.pop ready) done
          simpa [State.resume, stage, done] using gives

theorem due_resume {s : State α} {ready : List (Callback α)} (held : s.Due)
    (others : ∀ callback ∈ s.ready, callback ≠ .wake → callback ∈ ready) :
    (s.pop ready).resume.Due := by
  cases stage : s.stage with
  | calling =>
      simp only [State.Due, stage] at held
      simp [State.resume, State.Due, stage, held]
  | awaiting =>
      cases done : s.aiofuture with
      | none => simp [State.resume, State.Due, stage, done]
      | some fut =>
          have leaves := due_leave (s := s.pop ready) done
          simpa [State.resume, stage, done] using leaves
  | waiting waiter => exact due_resume_waiting held stage others
  | stopping cause waiter => exact due_resume_stopping held stage others
  | ended reason outcome =>
      have stays : (s.pop ready).Due := by simpa [State.Due, stage] using held
      simpa [State.resume, stage] using stays

theorem due_release {s : State α} {ready : List (Callback α)} (held : s.Due)
    (others : ∀ callback ∈ s.ready, callback ≠ .release → callback ∈ ready) :
    (s.pop ready).release.Due := by
  cases stage : s.stage with
  | calling => simpa [State.release, State.Due, stage] using held
  | awaiting =>
      simp only [State.Due, stage] at held
      have wake : s.aiofuture.isSome → .wake ∈ ready :=
        fun done => others .wake (held done) nofun
      simpa [State.release, State.Due, stage] using wake
  | waiting waiter =>
      cases waiter <;> simp only [State.Due, stage] at held
      · simp [State.release, State.Due, stage, held.1]
      · simp [State.release, State.Due, stage, held.1, others .wake held.2 nofun]
      · simp [State.release, State.Due, stage, held.1, others .wake held.2 nofun]
  | stopping cause waiter =>
      cases waiter <;> simp only [State.Due, stage] at held
      · simp [State.release, State.Due, stage, held.1]
      · simp [State.release, State.Due, stage, held.1, others .wake held.2 nofun]
      · simp [State.release, State.Due, stage, held.1, others .wake held.2 nofun]
  | ended reason outcome => simpa [State.release, State.Due, stage] using held

theorem due_interrupt {s : State α} (held : s.Due) : s.interrupt.Due := by
  cases stage : s.stage with
  | calling => simpa [State.interrupt, stage] using held
  | awaiting =>
      have tried : (s.offer .cancelled).Due :=
        due_offer held .cancelled (by simp [stage]) (by simp [stage])
      cases done : s.aiofuture with
      | none => simpa [State.interrupt, stage, done, abandon_eq] using tried
      | some fut =>
          have thrown : ((s.offer .cancelled).throw true).Due :=
            due_mono tried rfl rfl fun _ member _ => member
          simpa [State.interrupt, stage, done, abandon_eq] using thrown
  | waiting waiter =>
      cases waiter <;> simp only [State.Due, stage] at held
      · simp [State.interrupt, State.Due, stage, held.1]
      · simp [State.interrupt, State.Due, stage, held.1, held.2]
      · simp [State.interrupt, State.Due, stage, held.1, held.2]
  | stopping cause waiter =>
      cases waiter <;> simp only [State.Due, stage] at held
      · simp [State.interrupt, State.Due, stage, held.1]
      · simp [State.interrupt, State.Due, stage, held.1, held.2]
      · simp [State.interrupt, State.Due, stage, held.1, held.2]
  | ended reason outcome => simpa [State.interrupt, stage] using held

theorem due_await (setup : Setup) {s : State α} (pending : s.aiofuture = none) :
    (s.await setup).Due := by
  have direct : (s.goto .awaiting).Due := by simp [State.Due, pending]
  have own : (s.goto (.waiting .pending)).Due := by simp [State.Due, pending]
  have past : (s.stop .timedOut).Due := due_stop pending .timedOut
  have waits : ∀ waiting : State α, waiting.Due →
      (if s.thrown then (waiting.throw false).interrupt else waiting).Due := by
    intro waiting due
    split
    · apply due_interrupt
      exact due_mono due rfl rfl fun _ member _ => member
    · exact due
  unfold State.await
  apply waits
  split
  · exact direct
  · exact direct
  · exact own
  · exact past

theorem moves_finish (s : State α) (reason : Reason) (waited : Except Exc (Result α)) :
    Moves s (s.finish reason waited) := by
  rw [finish_eq]
  exact moves_goto s _

theorem moves_leave (s : State α) (fut : TaskEnd (Result α)) : Moves s (s.leave fut) := by
  unfold State.leave
  split
  · split
    · exact moves_finish ..
    · exact moves_finish ..
  · exact moves_finish ..

theorem moves_giveBack (s : State α) (fut : TaskEnd (Result α)) : Moves s (s.giveBack fut) := by
  unfold State.giveBack
  split
  · split
    · exact moves_finish ..
    · exact moves_finish ..
  · exact moves_finish ..

theorem moves_resume (s : State α) : Moves s s.resume := by
  unfold State.resume
  split
  · exact moves_leave ..
  · exact moves_finish ..
  · exact moves_finish ..
  · exact moves_stop ..
  · exact moves_stop ..
  · exact moves_finish ..
  · exact moves_finish ..
  · exact moves_giveBack ..
  · exact moves_refl s

theorem advances_runCallback (s : State α) (callback : Callback α) :
    Advances s (s.runCallback callback) := by
  cases callback with
  | setFutureResult result =>
      rw [setResult_eq]
      exact advances_offer s _
  | setFutureException exc =>
      rw [setException_eq]
      exact advances_offer s _
  | release => exact (moves_release s).toAdvances
  | wake => exact (moves_resume s).toAdvances

variable {setup : Setup} {s s' : State α}

theorem callback_cases (taken : step setup s .callback = some s') :
    ∃ callback ready, s.stage ≠ .calling ∧ s.ready = callback :: ready ∧
      s' = (s.pop ready).runCallback callback := by
  simp only [step] at taken
  split at taken
  · cases taken
  · cases taken
  · next callback ready turn running =>
      cases taken
      exact ⟨callback, ready, running, turn, rfl⟩

theorem step_moves {label : Label α} (own : label = .awaits ∨ label = .cancel ∨ label = .expire)
    (taken : step setup s label = some s') : Moves s s' := by
  rcases own with rfl | rfl | rfl
  · simp only [step] at taken
    split at taken <;> cases taken
    exact moves_await setup s
  · simp only [step] at taken
    split at taken <;> cases taken
    · exact moves_throw s true
    · exact (moves_interrupt s).trans (moves_disturb _)
  · simp only [step] at taken
    split at taken
    · split at taken <;> cases taken
      · exact (moves_interrupt s).trans (moves_expire _)
      · exact (moves_release s).trans (moves_expire _)
      · exact moves_expire s
    · cases taken

theorem step_advances {label : Label α} (taken : step setup s label = some s') :
    Advances s s' := by
  cases label with
  | resolve context returns =>
      cases taken
      exact advances_push s _
  | reject exc =>
      cases taken
      exact advances_push s _
  | callback =>
      obtain ⟨callback, ready, _, _, rfl⟩ := callback_cases taken
      have popped : Advances s (s.pop ready) := advances_of_same rfl rfl rfl rfl rfl
      exact popped.trans (advances_runCallback _ callback)
  | awaits => exact (step_moves (.inl rfl) taken).toAdvances
  | cancel => exact (step_moves (.inr (.inl rfl)) taken).toAdvances
  | expire => exact (step_moves (.inr (.inr rfl)) taken).toAdvances

theorem due_callback (held : s.Due) {callback : Callback α} {ready : List (Callback α)}
    (running : s.stage ≠ .calling) (turn : s.ready = callback :: ready) :
    ((s.pop ready).runCallback callback).Due := by
  have others : ∀ other ∈ s.ready, other ≠ callback → other ∈ (s.pop ready).ready := by
    intro other member ne
    rw [turn] at member
    exact (List.mem_cons.mp member).resolve_left ne
  have passed : callback ≠ .wake → callback ≠ .release → (s.pop ready).Due := by
    intro notWake notRelease
    have kept : ∀ other ∈ s.ready, other = .wake ∨ other = .release →
        other ∈ (s.pop ready).ready := by
      rintro other member (rfl | rfl)
      · exact others _ member (Ne.symm notWake)
      · exact others _ member (Ne.symm notRelease)
    exact due_mono held rfl rfl kept
  cases callback with
  | setFutureResult result =>
      rw [setResult_eq]
      exact due_offer (passed nofun nofun) _ running fun _ _ => nofun
  | setFutureException exc =>
      rw [setException_eq]
      exact due_offer (passed nofun nofun) _ running fun _ _ => nofun
  | release => exact due_release held others
  | wake => exact due_resume held others

theorem due_step (held : s.Due) {label : Label α} (taken : step setup s label = some s') :
    s'.Due := by
  cases label with
  | resolve context returns =>
      cases taken
      exact due_push held _
  | reject exc =>
      cases taken
      exact due_push held _
  | awaits =>
      simp only [step] at taken
      split at taken
      · next calling =>
          cases taken
          have pending : s.aiofuture = none := by
            simpa only [State.Due, calling] using held
          exact due_await setup pending
      · cases taken
  | callback =>
      obtain ⟨callback, ready, running, turn, rfl⟩ := callback_cases taken
      exact due_callback held running turn
  | cancel =>
      simp only [step] at taken
      split at taken
      · cases taken
        exact due_mono held rfl rfl fun _ member _ => member
      · cases taken
      · cases taken
        exact due_mono (due_interrupt held) rfl rfl fun _ member _ => member
  | expire =>
      simp only [step] at taken
      split at taken
      · split at taken
        · cases taken
          exact due_mono (due_interrupt held) rfl rfl fun _ member _ => member
        · cases taken
          have released := due_release held fun _ member _ => member
          exact due_mono released rfl rfl fun _ member _ => member
        · cases taken
          exact due_mono held rfl rfl fun _ member _ => member
      · cases taken

theorem due_start : (start : State α).Due := rfl

end Koil.QtFutures
