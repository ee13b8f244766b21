import Koil.LoopShutdown

namespace Koil.Shutdown

open Fifo Runs

theorem count_push_other (ready : List Callback) {callback other : Callback}
    (ne : other ≠ callback) : (ready ++ [other]).count callback = ready.count callback := by
  simp [List.count_append, ne]

theorem safe_push {s : State} (held : Safe s) {callback : Callback}
    (notStart : ∀ future, callback ≠ .start future) (notComplete : callback ≠ .complete) :
    Safe (s.push callback) where
  listed := held.listed
  starts future := by
    change (s.ready ++ [callback]).count (.start future) = _
    rw [count_push_other _ (notStart future)]
    exact held.starts future
  tracked future := tracked_push (held.tracked future) notComplete
  not_complete_early early := by
    simpa [State.push, Ne.symm notComplete] using held.not_complete_early early
  complete_gathering gathering present := by
    refine held.complete_gathering gathering ?_
    simpa [State.push, Ne.symm notComplete] using present
  halted := held.halted

theorem safe_submit {s : State} (held : Safe s) (future : Nat)
    (fresh : s.progress future = .absent) (early : s.stage.early = true) :
    Safe (({ s with submitted := future :: s.submitted }.advance future .queued).push
      (.start future)) where
  listed other accepted := by
    by_cases same : other = future
    · subst same
      exact List.mem_cons_self
    · refine List.mem_cons_of_mem _ (held.listed other ?_)
      simpa [State.push, State.advance, Function.update_of_ne same] using accepted
  starts other := by
    have counted := held.starts other
    by_cases same : other = future
    · subst same
      simpa [State.push, State.advance, List.count_append, fresh] using counted
    · have ne : Callback.start future ≠ .start other := by simpa using Ne.symm same
      simpa [State.push, State.advance, Function.update_of_ne same, count_push_other _ ne]
        using counted
  tracked other := by
    refine tracked_push ?_ (by simp)
    by_cases same : other = future
    · subst same
      simpa [Tracked, State.advance] using early
    · rw [tracked_advance_other _ same]
      exact held.tracked other
  not_complete_early stage := by
    simpa [State.push, State.advance] using held.not_complete_early stage
  complete_gathering gathering present := by
    refine held.complete_gathering gathering ?_
    simpa [State.push, State.advance] using present
  halted := held.halted

theorem safe_pop {s : State} (held : Safe s) {callback : Callback} {ready : List Callback}
    (head : s.ready = callback :: ready) (notStart : ∀ future, callback ≠ .start future)
    (notSettle : ∀ future, callback ≠ .settle future) : Safe { s with ready := ready } where
  listed := held.listed
  starts future := by
    have counted := held.starts future
    rw [head, List.count_cons_of_ne (notStart future)] at counted
    exact counted
  tracked future := by
    have tracked := held.tracked future
    unfold Tracked at tracked ⊢
    cases progress : s.progress future with
    | absent => trivial
    | queued => simpa only [progress] using tracked
    | running => simpa only [progress] using tracked
    | finished =>
        simp only [progress, head] at tracked
        have waits : .settle future ∈ callback :: ready → .settle future ∈ ready := by
          intro member
          rcases List.mem_cons.mp member with same | member
          · exact absurd same.symm (notSettle future)
          · exact member
        rcases tracked with done | ⟨waiting, early | cancelled | ⟨gathering, going, ahead⟩⟩
        · exact .inl done
        · exact .inr ⟨waits waiting, .inl early⟩
        · exact .inr ⟨waits waiting, .inr (.inl cancelled)⟩
        · exact .inr ⟨waits waiting, .inr (.inr ⟨gathering, going,
            ahead_pop ahead (notSettle future)⟩)⟩
  not_complete_early stage member :=
    held.not_complete_early stage (head ▸ List.mem_cons_of_mem _ member)
  complete_gathering gathering member :=
    held.complete_gathering gathering (head ▸ List.mem_cons_of_mem _ member)
  halted := held.halted

theorem safe_run_start {s : State} (held : Safe s) {future : Nat} {ready : List Callback}
    (head : s.ready = .start future :: ready) :
    Safe ({ s with ready := ready }.advance future .running) := by
  have counted := held.starts future
  have queued : s.progress future = .queued := by
    by_contra other
    simp [head, other] at counted
  have early : s.stage.early = true := by
    have tracked := held.tracked future
    simpa only [Tracked, queued] using tracked
  refine ⟨?_, ?_, ?_, ?_, ?_, held.halted⟩
  · intro other accepted
    by_cases same : other = future
    · subst same
      exact held.listed other (by simp [queued])
    · exact held.listed other (by simpa [State.advance, Function.update_of_ne same] using accepted)
  · intro other
    by_cases same : other = future
    · subst same
      simpa [State.advance, head, queued] using counted
    · have others := held.starts other
      have ne : Callback.start future ≠ .start other := by simpa using Ne.symm same
      rw [head, List.count_cons_of_ne ne] at others
      simpa [State.advance, Function.update_of_ne same] using others
  · intro other
    by_cases same : other = future
    · subst same
      simp [Tracked, State.advance, early]
    · rw [tracked_advance_other _ same]
      have tracked := held.tracked other
      unfold Tracked at tracked ⊢
      cases progress : s.progress other with
      | absent => trivial
      | queued => exact early
      | running => exact .inl early
      | finished =>
          simp only [progress, head] at tracked
          rcases tracked with done | ⟨waiting, _⟩
          · exact .inl done
          · exact .inr ⟨by simpa using waiting, .inl early⟩
  · intro stage member
    exact held.not_complete_early stage (head ▸ List.mem_cons_of_mem _ member)
  · intro gathering member
    exact held.complete_gathering gathering (head ▸ List.mem_cons_of_mem _ member)

theorem safe_run_settle {s : State} (held : Safe s) {future : Nat} {ready : List Callback}
    (head : s.ready = .settle future :: ready) :
    Safe { s with ready := ready, done := Function.update s.done future true } where
  listed := held.listed
  starts other := by
    have counted := held.starts other
    rw [head, List.count_cons_of_ne (by simp)] at counted
    exact counted
  tracked other := by
    have tracked := held.tracked other
    unfold Tracked at tracked ⊢
    cases progress : s.progress other with
    | absent => trivial
    | queued => simpa only [progress] using tracked
    | running => simpa only [progress] using tracked
    | finished =>
        simp only [progress, head] at tracked
        by_cases same : other = future
        · subst same
          exact .inl (by simp)
        · have ne : Callback.settle future ≠ .settle other := by simpa using Ne.symm same
          have waits : .settle other ∈ .settle future :: ready → .settle other ∈ ready := by
            intro member
            rcases List.mem_cons.mp member with equal | member
            · exact absurd equal.symm ne
            · exact member
          rcases tracked with done | ⟨waiting, early | cancelled | ⟨gathering, going, ahead⟩⟩
          · exact .inl (by simpa [Function.update_of_ne same] using done)
          · exact .inr ⟨waits waiting, .inl early⟩
          · exact .inr ⟨waits waiting, .inr (.inl cancelled)⟩
          · exact .inr ⟨waits waiting, .inr (.inr ⟨gathering, going, ahead_pop ahead ne⟩)⟩
  not_complete_early stage member :=
    held.not_complete_early stage (head ▸ List.mem_cons_of_mem _ member)
  complete_gathering gathering member :=
    held.complete_gathering gathering (head ▸ List.mem_cons_of_mem _ member)
  halted := held.halted

theorem safe_run_complete {s : State} (held : Safe s) {ready : List Callback}
    (head : s.ready = .complete :: ready) (looping : s.stage.looping = true) :
    Safe { s with stopping := true, ready := ready } := by
  have popped := safe_pop held head (by simp) (by simp)
  refine ⟨popped.listed, popped.starts, ?_, popped.not_complete_early, popped.complete_gathering,
    fun halted => by simp [looping] at halted⟩
  intro future
  have waiting := held.tracked future
  have tracked := popped.tracked future
  unfold Tracked at tracked waiting ⊢
  cases progress : s.progress future with
  | absent => trivial
  | queued => simpa only [progress] using tracked
  | running =>
      simp only [progress] at tracked ⊢
      rcases tracked with early | ⟨member, cancelled | ⟨gathering, incomplete, going⟩⟩
      · exact .inl early
      · exact .inr ⟨member, .inl cancelled⟩
      · have complete := held.complete_gathering gathering (head ▸ List.mem_cons_self)
        rw [incomplete] at complete
        cases complete
  | finished =>
      simp only [progress] at tracked waiting ⊢
      rcases tracked with done | ⟨member, early | cancelled | ⟨gathering, _, _⟩⟩
      · exact .inl done
      · exact .inr ⟨member, .inl early⟩
      · exact .inr ⟨member, .inr (.inl cancelled)⟩
      · rcases waiting with done | ⟨_, early | cancelled | ⟨_, _, ahead⟩⟩
        · exact .inl done
        · exact .inr ⟨member, .inl early⟩
        · exact .inr ⟨member, .inr (.inl cancelled)⟩
        · exact absurd rfl (ahead_head (head ▸ ahead))

theorem safe_run_stop {s : State} (held : Safe s) {ready : List Callback}
    (head : s.ready = .stop :: ready) (looping : s.stage.looping = true)
    (elsewhere : s.stage ≠ .gathering) : Safe { s with stopping := true, ready := ready } := by
  have popped := safe_pop held head (by simp) (by simp)
  refine ⟨popped.listed, popped.starts, ?_, popped.not_complete_early, popped.complete_gathering,
    fun halted => by simp [looping] at halted⟩
  intro future
  have tracked := popped.tracked future
  unfold Tracked at tracked ⊢
  cases progress : s.progress future with
  | absent => trivial
  | queued => simpa only [progress] using tracked
  | running => simpa only [progress, elsewhere, false_and, or_false] using tracked
  | finished => simpa only [progress, elsewhere, false_and, or_false] using tracked

theorem safe_callback {s s' : State} (held : Safe s) (timely : Timely s .callback = true)
    (taken : step s .callback = some s') : Safe s' := by
  simp only [step] at taken
  split at taken
  · next callback ready looping head =>
      cases taken
      cases callback with
      | start future => exact safe_run_start held head
      | stop =>
          refine safe_run_stop held head looping ?_
          intro gathering
          simp [Timely, gathering, head] at timely
      | settle future => exact safe_run_settle held head
      | firstStep => exact safe_pop held head (by simp) (by simp)
      | complete => exact safe_run_complete held head looping
  · cases taken

theorem safe_finished {s : State} (held : Safe s) {future : Nat}
    (running : s.progress future = .running) :
    Safe ((s.advance future .finished).push (.settle future)) where
  listed other accepted := by
    by_cases same : other = future
    · subst same
      exact held.listed other (by simp [running])
    · refine held.listed other ?_
      simpa [State.push, State.advance, Function.update_of_ne same] using accepted
  starts other := by
    have counted := held.starts other
    change (s.ready ++ [Callback.settle future]).count (.start other) = _
    rw [count_push_other _ (by simp), counted]
    by_cases same : other = future
    · subst same
      simp [State.push, State.advance, running]
    · simp [State.push, State.advance, Function.update_of_ne same]
  tracked other := by
    by_cases same : other = future
    · subst same
      have tracked := held.tracked other
      simp only [Tracked, running] at tracked
      have absent : s.stage = .gathering ∧ s.completed = false → .complete ∉ s.ready := by
        rintro ⟨gathering, incomplete⟩ present
        rw [held.complete_gathering gathering present] at incomplete
        cases incomplete
      simp only [Tracked, State.push, State.advance, Function.update_self]
      refine .inr ⟨by simp, ?_⟩
      rcases tracked with early | ⟨_, cancelled | ⟨gathering, incomplete, going⟩⟩
      · exact .inl early
      · exact .inr (.inl cancelled)
      · refine .inr (.inr ⟨gathering, going, ?_⟩)
        exact ahead_push (ahead_of_absent (absent ⟨gathering, incomplete⟩)) (by simp)
    · exact tracked_push ((tracked_advance_other _ same).mpr (held.tracked other)) (by simp)
  not_complete_early stage := by
    simpa [State.push, State.advance] using held.not_complete_early stage
  complete_gathering gathering present := by
    refine held.complete_gathering gathering ?_
    simpa [State.push, State.advance] using present
  halted := held.halted

theorem safe_over {s : State} (held : Safe s) (late : s.stage.early = false)
    (past : s.stage ≠ .cancelled ∧ (s.stage = .gathering → s.stopping = true)) (stage : Stage)
    (completed : Bool)
    (later : stage.early = false ∧ stage ≠ .cancelled ∧ stage ≠ .gathering) :
    Safe { s with stage := stage, stopping := false, completed := completed } where
  listed := held.listed
  starts := held.starts
  tracked future := by
    by_cases accepted : s.progress future = .absent
    · simp [Tracked, accepted]
    · obtain ⟨finished, done⟩ := settled_of_over (held.tracked future) accepted late past
      exact tracked_of_done done finished
  not_complete_early isEarly := by
    rcases isEarly with early | cancelled
    · rw [later.1] at early
      cases early
    · exact absurd cancelled later.2.1
  complete_gathering gathering := absurd gathering later.2.2
  halted _ := rfl

theorem safe_ended {s : State} (held : Safe s) (running : s.stage = .running) :
    Safe { s with stage := .ended, stopping := false } where
  listed := held.listed
  starts := held.starts
  tracked future := by
    have tracked := held.tracked future
    unfold Tracked at tracked ⊢
    cases progress : s.progress future with
    | absent => trivial
    | queued => rfl
    | running => exact .inl rfl
    | finished =>
        simp only [progress] at tracked ⊢
        rcases tracked with done | ⟨waiting, _⟩
        · exact .inl done
        · exact .inr ⟨waiting, .inl rfl⟩
  not_complete_early _ := held.not_complete_early (.inl (by rw [running]; rfl))
  complete_gathering gathering := by cases gathering
  halted _ := rfl

theorem safe_finish {s s' : State} (held : Safe s) {future : Nat} {escapes : Bool}
    (timely : Timely s (.finish future escapes) = true)
    (taken : step s (.finish future escapes) = some s') : Safe s' := by
  obtain ⟨enabled, done⟩ := Option.ite_none_right_eq_some.mp taken
  simp only [Bool.and_eq_true, beq_iff_eq] at enabled
  have finished := safe_finished held enabled.2
  cases done
  cases escapes with
  | false => exact finished
  | true =>
      simp only [if_true, State.escape]
      by_cases running : s.stage = .running
      · simpa [State.push, State.advance, running] using safe_ended finished running
      · have elsewhere : s.stage ≠ .gathering := by
          intro gathering
          simp [Timely, gathering] at timely
        have asyncgens : s.stage = .asyncgens := by
          have looping := enabled.1
          cases stage : s.stage <;> simp_all [Stage.looping]
        have past := safe_over finished
          (by simp [State.push, State.advance, asyncgens, Stage.early])
          (by simp [State.push, State.advance, asyncgens]) .closing s.completed (by decide)
        simpa [State.push, State.advance, running] using past

theorem safe_endRun {s s' : State} (held : Safe s) (taken : step s .endRun = some s') :
    Safe s' := by
  obtain ⟨enabled, done⟩ := Option.ite_none_right_eq_some.mp taken
  simp only [Bool.and_eq_true] at enabled
  cases done
  cases stage : s.stage with
  | running => simpa [State.leaveRun, stage] using safe_ended held stage
  | gathering =>
      have past : s.stage ≠ .cancelled ∧ (s.stage = .gathering → s.stopping = true) :=
        ⟨by simp [stage], fun _ => enabled.2⟩
      have late : s.stage.early = false := by rw [stage]; rfl
      simp only [State.leaveRun, stage]
      by_cases completed : s.completed = true
      · simpa [completed] using safe_over held late past .gathered true (by decide)
      · simpa [completed] using safe_over held late past .closing s.completed (by decide)
  | asyncgens =>
      have late : s.stage.early = false := by rw [stage]; rfl
      simpa [State.leaveRun, stage] using
        safe_over held late (by simp [stage]) .closing s.completed (by decide)
  | ended => simp [stage, Stage.looping] at enabled
  | cancelled => simp [stage, Stage.looping] at enabled
  | gathered => simp [stage, Stage.looping] at enabled
  | closing => simp [stage, Stage.looping] at enabled
  | closed => simp [stage, Stage.looping] at enabled

theorem safe_snapshot {s s' : State} (held : Safe s) (timely : Timely s .snapshot = true)
    (taken : step s .snapshot = some s') : Safe s' := by
  obtain ⟨ended, done⟩ := Option.ite_none_right_eq_some.mp taken
  cases done
  refine ⟨held.listed, held.starts, ?_, ?_, by simp, fun _ => held.halted (by rw [ended]; rfl)⟩
  · intro future
    have tracked := held.tracked future
    unfold Tracked at tracked ⊢
    cases progress : s.progress future with
    | absent => trivial
    | queued =>
        have counted := held.starts future
        have absent : .start future ∉ s.ready := by
          intro waiting
          have seen : s.ready.any Callback.isStart = true :=
            List.any_eq_true.mpr ⟨.start future, waiting, rfl⟩
          simp [Timely, seen] at timely
        rw [List.count_eq_zero_of_not_mem absent] at counted
        simp [progress] at counted
    | running =>
        have listed : future ∈ s.submitted := held.listed future (by simp [progress])
        exact .inr ⟨by simp [listed, progress], .inl rfl⟩
    | finished =>
        simp only [progress] at tracked ⊢
        rcases tracked with done | ⟨waiting, _⟩
        · exact .inl done
        · exact .inr ⟨waiting, .inr (.inl trivial)⟩
  · intro _
    exact held.not_complete_early (.inl (by rw [ended]; rfl))

theorem safe_startGather {s s' : State} (held : Safe s)
    (taken : step s .startGather = some s') : Safe s' := by
  obtain ⟨cancelled, done⟩ := Option.ite_none_right_eq_some.mp taken
  cases done
  have stopping : s.stopping = false := held.halted (by rw [cancelled]; rfl)
  have absent := held.not_complete_early (.inr cancelled)
  refine safe_push ?_ (by simp) (by simp)
  refine ⟨held.listed, held.starts, ?_, by simp [Stage.early], ?_, by simp [Stage.looping]⟩
  · intro future
    have tracked := held.tracked future
    unfold Tracked at tracked ⊢
    cases progress : s.progress future with
    | absent => trivial
    | queued =>
        simp only [progress, cancelled] at tracked
        cases tracked
    | running =>
        simp only [progress, cancelled] at tracked
        rcases tracked with early | ⟨member, _⟩
        · cases early
        · exact .inr ⟨member, .inr ⟨rfl, rfl, stopping⟩⟩
    | finished =>
        simp only [progress] at tracked ⊢
        rcases tracked with done | ⟨waiting, _⟩
        · exact .inl done
        · exact .inr ⟨waiting, .inr (.inr ⟨trivial, stopping, ahead_of_absent absent⟩)⟩
  · intro _ present
    exact absurd present absent

/-- The gathering is past once every task to cancel is, and its done callback is
queued behind the settling of every future. -/
theorem safe_gatherEnds {s s' : State} (held : Safe s) (taken : step s .gatherEnds = some s') :
    Safe s' := by
  obtain ⟨⟨gathering, incomplete, _, finished⟩, done⟩ := Option.ite_none_right_eq_some.mp taken
  cases done
  have absent : .complete ∉ s.ready := by
    intro present
    rw [held.complete_gathering gathering present] at incomplete
    cases incomplete
  refine ⟨held.listed, ?_, ?_, by simp [State.push, gathering, Stage.early],
    fun _ _ => rfl, held.halted⟩
  · intro future
    change (s.ready ++ [Callback.complete]).count (.start future) = _
    rw [count_push_other _ (by simp)]
    exact held.starts future
  · intro future
    have tracked := held.tracked future
    unfold Tracked at tracked ⊢
    simp only [State.push]
    cases progress : s.progress future with
    | absent => trivial
    | queued =>
        simp only [progress, gathering] at tracked
        cases tracked
    | running =>
        simp only [progress, gathering] at tracked
        rcases tracked with early | ⟨member, _⟩
        · cases early
        · rw [finished future member] at progress
          cases progress
    | finished =>
        simp only [progress] at tracked ⊢
        rcases tracked with done | ⟨waiting, early | cancelled | ⟨_, going, _⟩⟩
        · exact .inl done
        · exact .inr ⟨List.mem_append_left _ waiting, .inl early⟩
        · exact .inr ⟨List.mem_append_left _ waiting, .inr (.inl cancelled)⟩
        · exact .inr ⟨List.mem_append_left _ waiting,
            .inr (.inr ⟨gathering, going, ahead_push_late waiting absent⟩)⟩

theorem safe_startAsyncgens {s s' : State} (held : Safe s)
    (taken : step s .startAsyncgens = some s') : Safe s' := by
  obtain ⟨gathered, done⟩ := Option.ite_none_right_eq_some.mp taken
  cases done
  have late : s.stage.early = false := by rw [gathered]; rfl
  have halted : s.stopping = false := held.halted (by rw [gathered]; rfl)
  have past := safe_over held late (by simp [gathered]) .asyncgens false (by decide)
  refine safe_push ?_ (by simp) (by simp)
  simpa only [halted] using past

theorem safe_asyncgensEnd {s s' : State} (held : Safe s)
    (taken : step s .asyncgensEnd = some s') : Safe s' := by
  obtain ⟨⟨asyncgens, _, _⟩, done⟩ := Option.ite_none_right_eq_some.mp taken
  cases done
  have late : s.stage.early = false := by rw [asyncgens]; rfl
  refine ⟨held.listed, ?_, ?_, by simp [State.push, asyncgens, Stage.early],
    by simp [State.push, asyncgens], held.halted⟩
  · intro future
    change (s.ready ++ [Callback.complete]).count (.start future) = _
    rw [count_push_other _ (by simp)]
    exact held.starts future
  · intro future
    by_cases accepted : s.progress future = .absent
    · simp [Tracked, State.push, accepted]
    · obtain ⟨finished, settled⟩ :=
        settled_of_over (held.tracked future) accepted late (by simp [asyncgens])
      exact tracked_of_done settled finished

theorem safe_close {s s' : State} (held : Safe s) (taken : step s .close = some s') : Safe s' := by
  obtain ⟨closing, done⟩ := Option.ite_none_right_eq_some.mp taken
  cases done
  have late : s.stage.early = false := by rw [closing]; rfl
  have settled := fun future accepted =>
    settled_of_over (held.tracked future) accepted late (by simp [closing])
  refine ⟨held.listed, ?_, ?_, by simp, by simp, fun _ => held.halted (by rw [closing]; rfl)⟩
  · intro future
    by_cases accepted : s.progress future = .absent
    · simp [accepted]
    · simp [(settled future accepted).1]
  · intro future
    by_cases accepted : s.progress future = .absent
    · simp [Tracked, accepted]
    · exact tracked_of_done (settled future accepted).2 (settled future accepted).1

theorem safe_step {s s' : State} {label : Label} (held : Safe s) (timely : Timely s label = true)
    (taken : step s label = some s') : Safe s' := by
  cases label with
  | submit future =>
      obtain ⟨enabled, done⟩ := Option.ite_none_left_eq_some.mp taken
      cases done
      exact safe_submit held future (by simpa using (not_or.mp enabled).2) timely
  | requestStop =>
      obtain ⟨_, done⟩ := Option.ite_none_left_eq_some.mp taken
      cases done
      exact safe_push held (by simp) (by simp)
  | callback => exact safe_callback held timely taken
  | finish future escapes => exact safe_finish held timely taken
  | endRun => exact safe_endRun held taken
  | snapshot => exact safe_snapshot held timely taken
  | startGather => exact safe_startGather held taken
  | gatherEnds => exact safe_gatherEnds held taken
  | startAsyncgens => exact safe_startAsyncgens held taken
  | asyncgensEnd => exact safe_asyncgensEnd held taken
  | close => exact safe_close held taken

/-- In a run whose steps are all timely, every future whose submission was accepted
is done when the loop is closed. -/
theorem no_submission_lost {history : List (State × Label)} {s : State}
    (run : Reaches step start history s) (timely : ∀ taken ∈ history, Timely taken.1 taken.2 = true)
    (closed : s.stage = .closed) (future : Nat) (accepted : s.progress future ≠ .absent) :
    s.done future = true := by
  have safe : Safe s := run.guarded_invariant safe_start
    (fun s label s' held met taken => safe_step held met taken) timely
  have late : s.stage.early = false := by rw [closed]; rfl
  exact (settled_of_over (safe.tracked future) accepted late (by simp [closed])).2

def orderly : List Label :=
  [.submit 0, .callback, .requestStop, .callback, .endRun, .snapshot, .startGather, .callback,
    .finish 0 false, .gatherEnds, .callback, .callback, .endRun, .startAsyncgens, .callback,
    .asyncgensEnd, .callback, .endRun, .close]

theorem no_submission_lost_orderly : ∃ history s,
    Reaches step start history s ∧ s.stage = .closed ∧ s.progress 0 ≠ .absent ∧
    s.done 0 = true := by
  have initial : Reaches step start [] start := .start
  have run := initial.follow orderly rfl
  refine ⟨_, _, run, rfl, by decide, ?_⟩
  exact no_submission_lost run (by decide) rfl 0 (by decide)

/-- The submission is accepted after `loop.stop` has run; its callback still waits
when the tasks to cancel are taken, and its task is cut off by the close. -/
def overtaken : List Label :=
  [.requestStop, .callback, .submit 0, .endRun, .snapshot, .startGather, .callback, .callback,
    .gatherEnds, .callback, .endRun, .startAsyncgens, .callback, .asyncgensEnd, .callback,
    .endRun, .close]

theorem submission_lost : ∃ history s,
    Reaches step start history s ∧ s.stage = .closed ∧ s.progress 0 ≠ .absent ∧
    s.done 0 = false := by
  have initial : Reaches step start [] start := .start
  have run := initial.follow overtaken rfl
  exact ⟨_, _, run, rfl, by decide, rfl⟩

end Koil.Shutdown
