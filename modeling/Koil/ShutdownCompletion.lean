import Koil.LoopShutdown
import Koil.Ranks

/-! A shutdown that was requested comes to its end, whatever the tasks do, as long as those that
were cancelled end at all. -/

namespace Koil.Shutdown

open Runs

def Label.own : Label → Bool
  | .submit _ | .requestStop => false
  | _ => true

/-- What a callback may lead to: the coroutine that it starts ends and settles its future. -/
def Callback.cost : Callback → Nat
  | .start _ => 3
  | _ => 1

def Stage.cost (completed : Bool) : Stage → Nat
  | .running => 13
  | .ended => 12
  | .cancelled => 11
  | .gathering => if completed then 7 else 9
  | .gathered => 6
  | .asyncgens => if completed then 2 else 4
  | .closing => 1
  | .closed => 0

def queueCost (ready : List Callback) : Nat :=
  ready.foldr (fun callback cost => callback.cost + cost) 0

def runningCount (progress : Nat → Progress) (submitted : List Nat) : Nat :=
  submitted.countP fun future => progress future == .running

/-- An upper bound of the steps that the loop's thread has still to take. -/
def State.left (s : State) : Nat :=
  s.stage.cost s.completed + queueCost s.ready + 2 * runningCount s.progress s.submitted

structure Progressing (s : State) : Prop where
  once : s.submitted.Nodup
  listed : ∀ future, future ∈ s.submitted ↔ s.progress future ≠ .absent
  starts : ∀ future, .start future ∈ s.ready → future ∈ s.submitted
  tasks : ∀ future ∈ s.tasks, s.progress future = .running ∨ s.progress future = .finished
  answered : s.stage = .gathering ∨ s.stage = .asyncgens → s.completed = true →
    .complete ∈ s.ready ∨ s.stopping = true

def Asked (s : State) : Prop := s.stage = .running → s.stopping = true ∨ .stop ∈ s.ready

theorem queueCost_push (ready : List Callback) (callback : Callback) :
    queueCost (ready ++ [callback]) = queueCost ready + callback.cost := by
  induction ready with
  | nil => simp [queueCost]
  | cons head ready ih =>
      simp only [queueCost, List.cons_append, List.foldr_cons] at ih ⊢
      omega

theorem runningCount_other (progress : Nat → Progress) {submitted : List Nat} {future : Nat}
    (absent : future ∉ submitted) (next : Progress) :
    runningCount (Function.update progress future next) submitted =
      runningCount progress submitted := by
  refine List.countP_congr fun other member => ?_
  have differ : other ≠ future := fun same => absent (same ▸ member)
  rw [Function.update_of_ne differ]

theorem runningCount_le (progress : Nat → Progress) {submitted : List Nat}
    (once : submitted.Nodup) (future : Nat) (next : Progress) :
    runningCount (Function.update progress future next) submitted ≤
      runningCount progress submitted + 1 := by
  induction submitted with
  | nil => exact Nat.zero_le _
  | cons head submitted ih =>
      rw [List.nodup_cons] at once
      simp only [runningCount, List.countP_cons] at ih ⊢
      by_cases same : head = future
      · subst same
        have rest := runningCount_other progress once.1 next
        simp only [runningCount] at rest
        rw [rest]
        split <;> split <;> omega
      · rw [Function.update_of_ne same]
        have rest := ih once.2
        omega

theorem runningCount_finished {progress : Nat → Progress} {submitted : List Nat}
    (once : submitted.Nodup) {future : Nat} (member : future ∈ submitted)
    (running : progress future = .running) :
    runningCount (Function.update progress future .finished) submitted + 1 =
      runningCount progress submitted := by
  induction submitted with
  | nil => cases member
  | cons head submitted ih =>
      rw [List.nodup_cons] at once
      simp only [runningCount, List.countP_cons] at ih ⊢
      rcases List.mem_cons.mp member with same | member
      · subst same
        have rest := runningCount_other progress once.1 .finished
        simp only [runningCount] at rest
        rw [rest]
        simp [running]
      · have differ : head ≠ future := fun same => once.1 (same ▸ member)
        rw [Function.update_of_ne differ]
        have rest := ih once.2 member
        omega

theorem escape_left (s : State) (looping : s.stage.looping = true) : s.escape.left ≤ s.left := by
  have cost : s.escape.stage.cost s.completed ≤ s.stage.cost s.completed := by
    simp only [State.escape]
    cases stage : s.stage with
    | running | gathering | asyncgens => cases s.completed <;> decide
    | ended | cancelled | gathered | closing | closed =>
        rw [stage] at looping
        cases looping
  simp only [State.left, State.escape] at cost ⊢
  omega

theorem leaveRun_cost (s : State) (looping : s.stage.looping = true) :
    s.leaveRun.stage.cost s.completed < s.stage.cost s.completed := by
  simp only [State.leaveRun]
  cases stage : s.stage with
  | running | gathering | asyncgens => cases s.completed <;> decide
  | ended | cancelled | gathered | closing | closed =>
      rw [stage] at looping
      cases looping

theorem progressing_start : Progressing start where
  once := .nil
  listed future := by simp [start]
  starts future due := by cases due
  tasks future member := by cases member
  answered stage := by rcases stage with gathering | asyncgens <;> contradiction

section steps

variable {s s' : State}

theorem progressing_push (held : Progressing s) {callback : Callback}
    (other : callback.isStart = false) : Progressing (s.push callback) where
  once := held.once
  listed := held.listed
  starts future due := by
    rcases List.mem_append.mp due with due | new
    · exact held.starts future due
    · rw [List.mem_singleton] at new
      subst new
      cases other
  tasks := held.tasks
  answered stage completed :=
    (held.answered stage completed).imp_left (List.mem_append_left _)

theorem progressing_advance (held : Progressing s) {future : Nat} {progress : Progress}
    (member : future ∈ s.submitted) (going : progress = .running ∨ progress = .finished) :
    Progressing (s.advance future progress) where
  once := held.once
  listed other := by
    by_cases same : other = future
    · subst same
      simp only [State.advance, Function.update_self]
      exact iff_of_true member (by rcases going with rfl | rfl <;> decide)
    · simpa [State.advance, Function.update_of_ne same] using held.listed other
  starts := held.starts
  tasks other listed := by
    by_cases same : other = future
    · subst same
      simpa [State.advance] using going
    · simpa [State.advance, Function.update_of_ne same] using held.tasks other listed
  answered := held.answered

theorem progressing_submit (held : Progressing s) {future : Nat}
    (absent : s.progress future = .absent) :
    Progressing ({ s with submitted := future :: s.submitted }.advance future .queued |>.push
      (.start future)) where
  once := List.nodup_cons.mpr
    ⟨fun member => (held.listed future).mp member absent, held.once⟩
  listed other := by
    by_cases same : other = future
    · subst same
      simp [State.push, State.advance]
    · simpa [State.push, State.advance, Function.update_of_ne same, same] using held.listed other
  starts other due := by
    rcases List.mem_append.mp due with due | new
    · exact List.mem_cons_of_mem _ (held.starts other due)
    · rw [List.mem_singleton, Callback.start.injEq] at new
      exact new ▸ List.mem_cons_self
  tasks other listed := by
    have apart : other ≠ future := by
      rintro rfl
      have known := held.tasks other listed
      rw [absent] at known
      rcases known with running | finished <;> contradiction
    simpa [State.push, State.advance, Function.update_of_ne apart] using held.tasks other listed
  answered stage completed :=
    (held.answered stage completed).imp_left (List.mem_append_left _)

theorem progressing_stage (held : Progressing s) {stage : Stage}
    (past : stage ≠ .gathering ∧ stage ≠ .asyncgens) :
    Progressing { s with stage := stage, stopping := false } where
  once := held.once
  listed := held.listed
  starts := held.starts
  tasks := held.tasks
  answered later := absurd later (not_or.mpr past)

theorem progressing_pop (held : Progressing s) {callback : Callback} {ready : List Callback}
    (head : s.ready = callback :: ready) (other : callback ≠ .complete) :
    Progressing { s with ready := ready } where
  once := held.once
  listed := held.listed
  starts future due := held.starts future (head ▸ List.mem_cons_of_mem _ due)
  tasks := held.tasks
  answered stage completed := by
    refine (held.answered stage completed).imp_left fun due => ?_
    rw [head] at due
    exact (List.mem_cons.mp due).resolve_left (Ne.symm other)

theorem progressing_callback (held : Progressing s) {callback : Callback} {ready : List Callback}
    (head : s.ready = callback :: ready) :
    Progressing ({ s with ready := ready }.runCallback callback) ∧
      ({ s with ready := ready }.runCallback callback).left < s.left := by
  have cheaper : ({ s with ready := ready } : State).left + callback.cost = s.left := by
    simp only [State.left, head, queueCost, List.foldr_cons]
    omega
  cases callback with
  | start future =>
      have popped := progressing_pop held head (by simp)
      have member : future ∈ s.submitted := held.starts future (by simp [head])
      refine ⟨progressing_advance popped member (.inl rfl), ?_⟩
      have count := runningCount_le s.progress held.once future .running
      simp only [State.left, Callback.cost, State.runCallback, State.advance] at cheaper ⊢
      omega
  | stop =>
      have popped := progressing_pop held head (by simp)
      refine ⟨⟨popped.once, popped.listed, popped.starts, popped.tasks, fun _ _ => .inr rfl⟩, ?_⟩
      simp only [State.left, Callback.cost, State.runCallback] at cheaper ⊢
      omega
  | settle future =>
      have popped := progressing_pop held head (by simp)
      refine ⟨⟨popped.once, popped.listed, popped.starts, popped.tasks, popped.answered⟩, ?_⟩
      simp only [State.left, Callback.cost, State.runCallback] at cheaper ⊢
      omega
  | firstStep =>
      refine ⟨progressing_pop held head (by simp), ?_⟩
      simp only [State.left, Callback.cost, State.runCallback] at cheaper ⊢
      omega
  | complete =>
      refine ⟨⟨held.once, held.listed, fun future due => held.starts future ?_, held.tasks,
        fun _ _ => .inr rfl⟩, ?_⟩
      · exact head ▸ List.mem_cons_of_mem _ due
      · simp only [State.left, Callback.cost, State.runCallback] at cheaper ⊢
        omega

theorem progressing_finish (held : Progressing s) {future : Nat} (escapes : Bool)
    (looping : s.stage.looping = true) (running : s.progress future = .running) :
    Progressing (if escapes then ((s.advance future .finished).push (.settle future)).escape
      else (s.advance future .finished).push (.settle future)) ∧
    (if escapes then ((s.advance future .finished).push (.settle future)).escape
      else (s.advance future .finished).push (.settle future)).left < s.left := by
  have member : future ∈ s.submitted := (held.listed future).mpr (by simp [running])
  have advanced := progressing_advance held member (.inr rfl : Progress.finished = _ ∨ _)
  have pushed := progressing_push advanced (rfl : (Callback.settle future).isStart = false)
  have count := runningCount_finished held.once member running
  have cheaper : ((s.advance future .finished).push (.settle future)).left < s.left := by
    simp only [State.left, State.push, State.advance, queueCost_push, Callback.cost]
    omega
  cases escapes with
  | false => exact ⟨pushed, cheaper⟩
  | true =>
      simp only [if_true]
      refine ⟨progressing_stage pushed ?_, ?_⟩
      · split <;> exact ⟨by decide, by decide⟩
      · exact Nat.lt_of_le_of_lt (escape_left _ looping) cheaper

theorem progressing_callback_step (held : Progressing s)
    (taken : step s .callback = some s') : Progressing s' ∧ s'.left < s.left := by
  simp only [step] at taken
  split at taken
  · next callback ready looping head =>
      cases taken
      exact progressing_callback held head
  · cases taken

theorem progressing_finish_step {future : Nat} {escapes : Bool} (held : Progressing s)
    (taken : step s (.finish future escapes) = some s') : Progressing s' ∧ s'.left < s.left := by
  simp only [step] at taken
  split at taken
  · next enabled =>
      cases taken
      rw [Bool.and_eq_true, beq_iff_eq] at enabled
      exact progressing_finish held escapes enabled.1 enabled.2
  · cases taken

theorem progressing_endRun (held : Progressing s)
    (taken : step s .endRun = some s') : Progressing s' ∧ s'.left < s.left := by
  simp only [step] at taken
  split at taken
  · next enabled =>
      cases taken
      rw [Bool.and_eq_true] at enabled
      have cost := leaveRun_cost s enabled.1
      refine ⟨progressing_stage held ?_, ?_⟩
      · split
        · exact ⟨by decide, by decide⟩
        · split <;> exact ⟨by decide, by decide⟩
        · exact ⟨by decide, by decide⟩
      · simp only [State.left, State.leaveRun] at cost ⊢
        omega
  · cases taken

theorem progressing_snapshot (held : Progressing s)
    (taken : step s .snapshot = some s') : Progressing s' ∧ s'.left < s.left := by
  simp only [step] at taken
  split at taken
  · next ended =>
      cases taken
      refine ⟨⟨held.once, held.listed, held.starts, fun future member => ?_, by simp⟩, ?_⟩
      · exact .inl (by simpa using (List.mem_filter.mp member).2)
      · simp only [State.left, ended, Stage.cost]
        omega
  · cases taken

theorem progressing_startGather (held : Progressing s)
    (taken : step s .startGather = some s') : Progressing s' ∧ s'.left < s.left := by
  simp only [step] at taken
  split at taken
  · next cancelled =>
      cases taken
      have begun : Progressing { s with stage := .gathering, completed := false } :=
        ⟨held.once, held.listed, held.starts, held.tasks, by simp⟩
      refine ⟨progressing_push begun rfl, ?_⟩
      simp [State.left, State.push, queueCost_push, cancelled, Stage.cost, Callback.cost]
      omega
  · cases taken

theorem progressing_gatherEnds (held : Progressing s)
    (taken : step s .gatherEnds = some s') : Progressing s' ∧ s'.left < s.left := by
  simp only [step] at taken
  split at taken
  · next enabled =>
      cases taken
      obtain ⟨gathering, waits, -, -⟩ := enabled
      have waited := progressing_push held (rfl : Callback.complete.isStart = false)
      refine ⟨⟨waited.once, waited.listed, waited.starts, waited.tasks, fun _ _ =>
        .inl (by simp [State.push])⟩, ?_⟩
      simp [State.left, State.push, queueCost_push, gathering, waits, Stage.cost,
        Callback.cost]
      omega
  · cases taken

theorem progressing_startAsyncgens (held : Progressing s)
    (taken : step s .startAsyncgens = some s') : Progressing s' ∧ s'.left < s.left := by
  simp only [step] at taken
  split at taken
  · next gathered =>
      cases taken
      have begun : Progressing { s with stage := .asyncgens, completed := false } :=
        ⟨held.once, held.listed, held.starts, held.tasks, by simp⟩
      refine ⟨progressing_push begun rfl, ?_⟩
      simp [State.left, State.push, queueCost_push, gathered, Stage.cost, Callback.cost]
      omega
  · cases taken

theorem progressing_asyncgensEnd (held : Progressing s)
    (taken : step s .asyncgensEnd = some s') : Progressing s' ∧ s'.left < s.left := by
  simp only [step] at taken
  split at taken
  · next enabled =>
      cases taken
      obtain ⟨asyncgens, waits, -⟩ := enabled
      have waited := progressing_push held (rfl : Callback.complete.isStart = false)
      refine ⟨⟨waited.once, waited.listed, waited.starts, waited.tasks, fun _ _ =>
        .inl (by simp [State.push])⟩, ?_⟩
      simp [State.left, State.push, queueCost_push, asyncgens, waits, Stage.cost,
        Callback.cost]
      omega
  · cases taken

theorem progressing_close (held : Progressing s)
    (taken : step s .close = some s') : Progressing s' ∧ s'.left < s.left := by
  simp only [step] at taken
  split at taken
  · next closing =>
      cases taken
      refine ⟨⟨held.once, held.listed, by simp, held.tasks, by simp⟩, ?_⟩
      simp only [State.left, closing, Stage.cost, queueCost, List.foldr_nil]
      omega
  · cases taken

theorem progressing_own {label : Label} (held : Progressing s) (own : label.own = true)
    (taken : step s label = some s') : Progressing s' ∧ s'.left < s.left := by
  cases label with
  | submit | requestStop => cases own
  | callback => exact progressing_callback_step held taken
  | finish _ _ => exact progressing_finish_step held taken
  | endRun => exact progressing_endRun held taken
  | snapshot => exact progressing_snapshot held taken
  | startGather => exact progressing_startGather held taken
  | gatherEnds => exact progressing_gatherEnds held taken
  | startAsyncgens => exact progressing_startAsyncgens held taken
  | asyncgensEnd => exact progressing_asyncgensEnd held taken
  | close => exact progressing_close held taken

theorem progressing_step {label : Label} (held : Progressing s)
    (taken : step s label = some s') : Progressing s' := by
  cases own : label.own with
  | true => exact (progressing_own held own taken).1
  | false =>
      cases label with
      | submit future =>
          obtain ⟨enabled, done⟩ := Option.ite_none_left_eq_some.mp taken
          cases done
          exact progressing_submit held (by simpa using (not_or.mp enabled).2)
      | requestStop =>
          obtain ⟨-, done⟩ := Option.ite_none_left_eq_some.mp taken
          cases done
          exact progressing_push held rfl
      | callback | finish | endRun | snapshot | startGather | gatherEnds | startAsyncgens
        | asyncgensEnd | close => cases own

end steps

section progress

variable {s s' : State}

theorem asked_push (asked : Asked s) (callback : Callback) : Asked (s.push callback) :=
  fun running => (asked running).imp_right (List.mem_append_left _)

theorem asked_callback (asked : Asked s) {callback : Callback} {ready : List Callback}
    (head : s.ready = callback :: ready) :
    Asked ({ s with ready := ready }.runCallback callback) := by
  have waits : s.stage = .running → s.stopping = true ∨ callback = .stop ∨ .stop ∈ ready := by
    intro running
    have due := asked running
    rw [head, List.mem_cons] at due
    exact due.imp_right (Or.imp_left Eq.symm)
  cases callback with
  | start | settle | firstStep =>
      exact fun running => (waits running).imp_right (Or.resolve_left · nofun)
  | stop | complete => exact fun _ => .inl rfl

theorem asked_step {label : Label} (asked : Asked s) (taken : step s label = some s') :
    Asked s' := by
  cases label with
  | submit future =>
      obtain ⟨-, done⟩ := Option.ite_none_left_eq_some.mp taken
      cases done
      exact asked_push asked _
  | requestStop =>
      obtain ⟨-, done⟩ := Option.ite_none_left_eq_some.mp taken
      cases done
      exact asked_push asked _
  | callback =>
      simp only [step] at taken
      split at taken
      · next callback ready looping head =>
          cases taken
          exact asked_callback asked head
      · cases taken
  | finish future escapes =>
      simp only [step] at taken
      split at taken
      · cases taken
        cases escapes with
        | false => exact asked_push asked _
        | true =>
            simp only [if_true, Asked, State.escape]
            split <;> exact nofun
      · cases taken
  | endRun =>
      simp only [step] at taken
      split at taken
      · cases taken
        simp only [Asked, State.leaveRun]
        split
        · exact nofun
        · split <;> exact nofun
        · exact nofun
      · cases taken
  | snapshot | startGather | gatherEnds | startAsyncgens | asyncgensEnd | close =>
      obtain ⟨enabled, done⟩ := Option.ite_none_right_eq_some.mp taken
      cases done
      intro running
      first | cases running | simp_all [State.push]

theorem idle_or_step (looping : s.stage.looping = true) :
    s.ready = [] ∧ s.stopping = false ∨ ∃ label s', label.own = true ∧ step s label = some s' := by
  cases stopping : s.stopping with
  | true => exact .inr ⟨.endRun, s.leaveRun, rfl, by simp [step, looping, stopping]⟩
  | false =>
      cases ready : s.ready with
      | nil => exact .inl ⟨rfl, rfl⟩
      | cons callback rest =>
          exact .inr ⟨.callback, _, rfl, by simp only [step, looping, ready]; rfl⟩

theorem not_answered (held : Progressing s) (waiting : s.stage = .gathering ∨ s.stage = .asyncgens)
    (ready : s.ready = []) (going : s.stopping = false) : s.completed = false := by
  cases completed : s.completed with
  | false => rfl
  | true =>
      rcases held.answered waiting completed with due | stopping
      · rw [ready] at due
        cases due
      · rw [going] at stopping
        cases stopping

theorem closed_or_step (held : Progressing s) (asked : Asked s) :
    s.stage = .closed ∨ ∃ label s', label.own = true ∧ step s label = some s' := by
  cases stage : s.stage with
  | closed => exact .inl rfl
  | ended => exact .inr ⟨.snapshot, _, rfl, by simp [step, stage]; rfl⟩
  | cancelled => exact .inr ⟨.startGather, _, rfl, by simp [step, stage]; rfl⟩
  | gathered => exact .inr ⟨.startAsyncgens, _, rfl, by simp [step, stage]; rfl⟩
  | closing => exact .inr ⟨.close, _, rfl, by simp [step, stage]; rfl⟩
  | running =>
      rcases idle_or_step (by rw [stage]; rfl) with ⟨ready, going⟩ | steps
      · rcases asked stage with stopping | due
        · rw [going] at stopping
          cases stopping
        · rw [ready] at due
          cases due
      · exact .inr steps
  | gathering =>
      rcases idle_or_step (by rw [stage]; rfl) with ⟨ready, going⟩ | steps
      · have waits := not_answered held (.inl stage) ready going
        by_cases finished : ∀ future ∈ s.tasks, s.progress future = .finished
        · exact .inr ⟨.gatherEnds, _, rfl, by
            simp only [step]
            rw [if_pos ⟨stage, waits, by simp [ready], finished⟩]⟩
        · push Not at finished
          obtain ⟨future, member, unfinished⟩ := finished
          have running := (held.tasks future member).resolve_right unfinished
          exact .inr ⟨.finish future false, _, rfl, by
            simp only [step, stage, running]
            rfl⟩
      · exact .inr steps
  | asyncgens =>
      rcases idle_or_step (by rw [stage]; rfl) with ⟨ready, going⟩ | steps
      · have waits := not_answered held (.inr stage) ready going
        exact .inr ⟨.asyncgensEnd, _, rfl, by
          simp only [step]
          rw [if_pos ⟨stage, waits, by simp [ready]⟩]⟩
      · exact .inr steps

end progress

/-- Once `loop.stop` has been called, `run_threaded_event_loop` comes to its end: apart from new
submissions and calls of `loop.stop`, only so many steps are left in whichever order, and until
the loop is closed there is one to take. -/
theorem shutdown_completes {history : List (State × Label)} {s : State}
    (run : Reaches step start history s) (requested : ∃ taken ∈ history, taken.2 = .requestStop) :
    (∀ more s', Reaches step s more s' → (∀ taken ∈ more, Label.own taken.2 = true) →
      more.length + s'.left ≤ s.left) ∧
    (s.stage = .closed ∨ ∃ label s', label.own = true ∧ step s label = some s') := by
  have held : Progressing s := run.invariant progressing_start fun _ _ _ held taken =>
    progressing_step held taken
  have asked : Asked s := by
    clear held
    induction run with
    | start =>
        obtain ⟨taken, member, -⟩ := requested
        cases member
    | @next history s s' label before taken ih =>
        by_cases now : label = .requestStop
        · subst now
          obtain ⟨-, done⟩ := Option.ite_none_left_eq_some.mp taken
          cases done
          exact fun _ => .inr (by simp [State.push])
        · obtain ⟨earlier, member, request⟩ := requested
          rcases List.mem_cons.mp member with rfl | member
          · exact absurd request now
          · exact asked_step (ih ⟨earlier, member, request⟩) taken
  refine ⟨fun more s' later own => ?_, closed_or_step held asked⟩
  exact Ranks.length_add_rank_le State.left held
    (fun _ _ _ held own taken => (progressing_own held own taken).1)
    (fun _ _ _ held own taken => (progressing_own held own taken).2) later own

/-- A shutdown that a second `loop.stop` cuts short while it gathers, and a submission in it. -/
def cutShort : List Label :=
  [.submit 0, .callback, .requestStop, .requestStop, .callback, .endRun, .snapshot, .startGather,
    .submit 1]

theorem shutdown_completes_cutShort : ∃ history s,
    Reaches step start history s ∧ s.stage = .gathering ∧ s.left = 16 ∧
      ∀ more s', Reaches step s more s' → (∀ taken ∈ more, Label.own taken.2 = true) →
        more.length ≤ 16 := by
  have initial : Reaches step start [] start := .start
  have run := initial.follow cutShort rfl
  refine ⟨_, _, run, rfl, rfl, fun more s' later own => ?_⟩
  have bounded := (shutdown_completes run (by decide)).1 more s' later own
  exact Nat.le_trans (Nat.le_add_right ..) bounded

end Koil.Shutdown
