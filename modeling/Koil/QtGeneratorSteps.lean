import Koil.QtGenerators

namespace Koil.QtGenerators

open QtCalls Runs

variable {α : Type} {setup : Setup} {s s' : State α} {history : List (State α × Label α)}

structure Unchanged (s s' : State α) : Prop where
  stage : s'.stage = s.stage
  received : s'.received = s.received
  iscancelled : s'.iscancelled = s.iscancelled
  emitted : s'.emitted = s.emitted

theorem unchanged_refl (s : State α) : Unchanged s s := ⟨rfl, rfl, rfl, rfl⟩

theorem unchanged_put (s : State α) (item : Item α) : Unchanged s (s.put item) := by
  unfold State.put
  simp only
  split
  · exact ⟨rfl, rfl, rfl, rfl⟩
  · exact ⟨rfl, rfl, rfl, rfl⟩
  · exact ⟨rfl, rfl, rfl, rfl⟩

theorem unchanged_innerDone (s : State α) (waited : Item α) :
    Unchanged s (s.innerDone waited) := by
  unfold State.innerDone
  simp only
  split
  · exact ⟨rfl, rfl, rfl, rfl⟩
  · exact ⟨rfl, rfl, rfl, rfl⟩
  · exact ⟨rfl, rfl, rfl, rfl⟩

theorem unchanged_innerGet (s : State α) : Unchanged s s.innerGet := by
  unfold State.innerGet
  split
  · exact ⟨rfl, rfl, rfl, rfl⟩
  · next item items _ =>
      have done := unchanged_innerDone (s.setItems items) (anext item)
      exact ⟨done.stage, done.received, done.iscancelled, done.emitted⟩

theorem unchanged_innerStart (s : State α) : Unchanged s s.innerStart := by
  unfold State.innerStart
  split
  · split
    · exact unchanged_innerDone s _
    · exact unchanged_innerGet s
  · exact unchanged_refl s

theorem unchanged_innerWake (s : State α) : Unchanged s s.innerWake := by
  unfold State.innerWake
  split
  · exact unchanged_innerDone s _
  · split
    · exact unchanged_innerDone s _
    · exact unchanged_innerGet s
  · exact unchanged_refl s

variable [Signals]

theorem giveUp_eq (s : State α) (exc : Exc) :
    s.giveUp exc = (exc, { s.setCancelled with emitted := s.emitted + 1 }) := by
  rw [State.giveUp, Signals.all]

theorem callback_cases (taken : step setup s .callback = some s') :
    ∃ callback ready, s.stopped = false ∧ s.ready = callback :: ready ∧
      s' = (s.pop ready).runCallback callback := by
  simp only [step] at taken
  split at taken
  · cases taken
  · next callback ready free turn running =>
      cases taken
      exact ⟨callback, ready, free, turn, rfl⟩
  · cases taken

theorem ask_cases {thrown : Bool} (taken : step setup s (.ask thrown) = some s') :
    (s.stage = .calling ∨ s.stage = .yielded) ∧ s' = s.ask setup thrown := by
  simp only [step] at taken
  split at taken
  · next calling =>
      cases taken
      exact ⟨.inl calling, rfl⟩
  · next yielded =>
      cases taken
      exact ⟨.inr yielded, rfl⟩
  · cases taken

theorem ended_step {reason : Reason} {outcome : Option Exc}
    (ended : s.stage = .ended reason outcome) {label : Label α}
    (taken : step setup s label = some s') : Unchanged s s' := by
  cases label with
  | next context args =>
      cases taken
      exact ⟨rfl, rfl, rfl, rfl⟩
  | throw exception =>
      cases taken
      exact ⟨rfl, rfl, rfl, rfl⟩
  | stop =>
      cases taken
      exact ⟨rfl, rfl, rfl, rfl⟩
  | callback =>
      obtain ⟨callback, ready, _, _, rfl⟩ := callback_cases taken
      have popped : Unchanged (s.pop ready) ((s.pop ready).runCallback callback) := by
        cases callback with
        | put item => exact unchanged_put _ item
        | innerStart => exact unchanged_innerStart _
        | innerWake => exact unchanged_innerWake _
        | release request =>
            simp only [State.runCallback, State.release, State.pop_stage, ended, ite_self]
            exact unchanged_refl _
        | wake =>
            simp only [State.runCallback, State.resume, State.pop_stage, ended]
            exact unchanged_refl _
      exact ⟨popped.stage, popped.received, popped.iscancelled, popped.emitted⟩
  | ask thrown => simp [step, ended] at taken
  | cancel => simp [step, ended] at taken
  | expire => simp [step, State.timed, ended] at taken
  | aclose => simp [step, ended] at taken

theorem ended_run {reason : Reason} {outcome : Option Exc}
    (run : Reaches (step setup) start history s) :
    ∀ taken ∈ history, taken.1.stage = .ended reason outcome →
      s.stage = .ended reason outcome ∧ s.received = taken.1.received := by
  induction run with
  | start => exact fun _ member => absurd member List.not_mem_nil
  | @next history s s' label before taken ih =>
      rw [List.forall_mem_cons]
      constructor
      · intro ended
        have kept := ended_step ended taken
        exact ⟨kept.stage.trans ended, kept.received⟩
      · intro earlier member ended
        obtain ⟨still, received⟩ := ih earlier member ended
        have kept := ended_step still taken
        exact ⟨kept.stage.trans still, kept.received.trans received⟩

end Koil.QtGenerators
