import Koil.ContextRuns

namespace Koil.Contexts

open Runs

variable {world : World}

def Future.sees (fut : Future) (env : Context) : Context :=
  match fut.outcome with
  | none => env
  | some (.returned newcontext) => newcontext
  | some .raised => fut.ctxs

def Tracks (s : State) : Prop :=
  ∀ future fut, s.futures future = some fut →
    ∀ var, fut.assigned var = false → fut.sees (s.env (.coroutine future)) var = fut.ctxs var

theorem tracks_assign {s : State} (held : Tracks s) (here : Place) (values : Assignments) :
    Tracks (s.assign here values) := by
  intro future fut found var unassigned
  by_cases same : here = .coroutine future
  · subst same
    simp only [State.assign, if_true] at found
    cases before : s.futures future with
    | none => simp [before] at found
    | some earlier =>
        simp only [before, Option.map_some, Option.some.injEq] at found
        subst found
        simp only [Bool.or_eq_false_iff, Option.isSome_eq_false_iff, Option.isNone_iff_eq_none]
          at unassigned
        have kept := held future earlier before var unassigned.1
        rw [← kept]
        cases ended : earlier.outcome with
        | none => simp [Future.sees, ended, State.assign, unassigned.2]
        | some outcome => cases outcome <;> simp [Future.sees, ended]
  · simp only [State.assign, same, if_false] at found
    have other : Place.coroutine future ≠ here := fun eq => same eq.symm
    simpa [State.assign, other] using held future fut found var unassigned

theorem tracks_of_same {s t : State} (held : Tracks s)
    (env : ∀ future, t.env (.coroutine future) = s.env (.coroutine future))
    (futures : t.futures = s.futures) : Tracks t := by
  intro future fut found var unassigned
  rw [env future]
  exact held future fut (futures ▸ found) var unassigned

theorem tracks_enter {s s' : State} {here : Place} {koil loop : Nat} (held : Tracks s)
    (entered : s.enter world here koil loop = some s') : Tracks s' := by
  unfold State.enter at entered
  split at entered
  · cases entered
  · split at entered
    · split at entered
      · cases entered
        exact tracks_assign (tracks_of_same held (fun _ => rfl) rfl) here _
      · cases entered
    · cases entered
      exact held

theorem tracks_exit {s s' : State} {here : Place} {koil : Nat} {joined : Bool} (held : Tracks s)
    (exited : s.exit world here koil joined = some s') : Tracks s' := by
  unfold State.exit at exited
  split at exited
  · cases exited
    exact held
  · simp only at exited
    split at exited
    · cases exited
    · cases exited
      exact tracks_assign (tracks_of_same held (fun _ => rfl) rfl) here _

theorem tracks_aenter {s : State} (held : Tracks s) (here : Place) (koil : Nat) :
    Tracks (s.aenter world here koil) := by
  unfold State.aenter
  split
  · exact held
  · exact tracks_assign (tracks_of_same held (fun _ => rfl) rfl) here _

theorem tracks_submit {s s' : State} {here : Place} {future : Nat} (held : Tracks s)
    (submitted : s.submit world here future = some s') : Tracks s' := by
  unfold State.submit at submitted
  split at submitted
  · cases submitted
  · split at submitted
    · cases submitted
    · cases submitted
      intro other fut found var unassigned
      by_cases same : other = future
      · subst same
        simp only [Function.update_self, Option.some.injEq] at found
        subst found
        simp [Future.sees]
      · simp only [Function.update_of_ne same] at found
        have elsewhere : Place.coroutine other ≠ .coroutine future := by simpa using same
        simpa [Function.update_of_ne elsewhere] using held other fut found var unassigned

theorem tracks_coroutineEnds {s s' : State} {future : Nat} {returned : Bool} (held : Tracks s)
    (ended : s.coroutineEnds future returned = some s') : Tracks s' := by
  unfold State.coroutineEnds at ended
  split at ended
  · next loop ctxs assigned before =>
      cases ended
      intro other fut found var unassigned
      by_cases same : other = future
      · subst same
        simp only [Function.update_self, Option.some.injEq] at found
        subst found
        have kept := held other _ before var unassigned
        cases returned with
        | true => simpa [Future.sees] using kept
        | false => simp [Future.sees]
      · simp only [Function.update_of_ne same] at found
        exact held other fut found var unassigned
  · cases ended

theorem tracks_result {s s' : State} {here : Place} {future : Nat} (held : Tracks s)
    (read : s.result here future = some s') : Tracks s' := by
  unfold State.result at read
  split at read
  · cases read
    exact tracks_assign held here _
  · cases read
    exact held
  · cases read

theorem tracks_runThreaded {s s' : State} {here : Place} {worker event : Nat} {bridge : Bool}
    (held : Tracks s) (started : s.runThreaded world here worker event bridge = some s') :
    Tracks s' := by
  unfold State.runThreaded at started
  split at started
  · cases started
  · split at started
    · cases started
    · cases started
      exact tracks_of_same held (fun future => by simp) rfl

theorem tracks_workerEnds {s s' : State} {worker : Nat} {returned : Bool} (held : Tracks s)
    (ended : s.workerEnds worker returned = some s') : Tracks s' := by
  unfold State.workerEnds at ended
  split at ended
  · simp only at ended
    split at ended
    · cases ended
      exact tracks_assign (tracks_of_same held (fun _ => rfl) rfl) _ _
    · cases ended
      exact tracks_of_same held (fun _ => rfl) rfl
  · cases ended

theorem tracks_step {s s' : State} {label : Label} (held : Tracks s)
    (taken : step world s label = some s') : Tracks s' := by
  cases label with
  | assign here name value =>
      obtain ⟨_, done⟩ := Option.ite_none_right_eq_some.mp taken
      cases done
      exact tracks_assign held here _
  | enter here koil loop => exact tracks_enter held (Option.ite_none_right_eq_some.mp taken).2
  | exit here koil joined => exact tracks_exit held (Option.ite_none_right_eq_some.mp taken).2
  | aenter here koil =>
      obtain ⟨_, done⟩ := Option.ite_none_right_eq_some.mp taken
      cases done
      exact tracks_aenter held here koil
  | aexit here koil =>
      obtain ⟨_, done⟩ := Option.ite_none_right_eq_some.mp taken
      cases done
      exact tracks_assign held here _
  | submit here future => exact tracks_submit held (Option.ite_none_right_eq_some.mp taken).2
  | coroutineEnds future returned => exact tracks_coroutineEnds held taken
  | result here future => exact tracks_result held (Option.ite_none_right_eq_some.mp taken).2
  | runThreaded here worker event bridge =>
      exact tracks_runThreaded held (Option.ite_none_right_eq_some.mp taken).2
  | workerEnds worker returned => exact tracks_workerEnds held taken
  | setEvent event =>
      obtain ⟨_, done⟩ := Option.ite_none_right_eq_some.mp taken
      cases done
      exact tracks_of_same held (fun _ => rfl) rfl

theorem tracks_of_run {history : List (State × Label)} {s : State}
    (run : Reaches (step world) world.start history s) : Tracks s :=
  run.invariant (by intro future fut found; cases found)
    (fun _ _ _ held taken => tracks_step held taken)

theorem result_cases {s s' : State} {here : Place} {future : Nat}
    (taken : step world s (.result here future) = some s') :
    ∃ fut, s.futures future = some fut ∧
      ((∃ newcontext, fut.outcome = some (.returned newcontext) ∧
          s'.env here = (s.env here).setItems newcontext) ∨
        (fut.outcome = some .raised ∧ s' = s)) := by
  obtain ⟨_, read⟩ := Option.ite_none_right_eq_some.mp taken
  unfold State.result at read
  split at read
  · next loop ctxs assigned newcontext found =>
      cases read
      refine ⟨_, found, .inl ⟨newcontext, rfl, ?_⟩⟩
      funext var
      cases held : newcontext var <;>
        simp [State.assign, Assignments.items, Context.setItems, held]
  · next loop ctxs assigned found =>
      cases read
      exact ⟨_, found, .inr ⟨rfl, rfl⟩⟩
  · cases read

/-- The captured value of a variable does no harm in a context: there is none, or
the context holds the same. -/
def Harmless (captured env : Context) (var : Var) : Prop :=
  captured var = none ∨ captured var = env var

/-- For a set of variables, `result()` keeps them exactly where what the coroutine
left in them does no harm. -/
theorem result_keeps_iff {s s' : State} {here : Place} {future : Nat} {fut : Future}
    (found : s.futures future = some fut)
    (taken : step world s (.result here future) = some s') (vars : Var → Prop) :
    (∀ var, vars var → s'.env here var = s.env here var) ↔
      ∀ newcontext, fut.outcome = some (.returned newcontext) →
        ∀ var, vars var → Harmless newcontext (s.env here) var := by
  obtain ⟨fut', found', done⟩ := result_cases taken
  cases found.symm.trans found'
  rcases done with ⟨newcontext, returned, after⟩ | ⟨raised, rfl⟩
  · constructor
    · intro kept context isContext var chosen
      cases returned.symm.trans isContext
      have same := kept var chosen
      rw [after] at same
      exact (setItems_eq_iff _ _ var).mp same
    · intro harmless var chosen
      rw [after]
      exact (setItems_eq_iff _ _ var).mpr (harmless newcontext returned var chosen)
  · simp [raised]

/-- After this step, if it is a `result()` call, the user variables which the
future's coroutine did not assign are as they were before it. -/
def KeepsUnassigned (world : World) (s : State) (label : Label) : Prop :=
  ∀ here future fut s', label = .result here future → s.futures future = some fut →
    step world s label = some s' →
    ∀ name, fut.assigned (.user name) = false →
      s'.env here (.user name) = s.env here (.user name)

/-- Before a `result()` call on a coroutine that returned, the user variables which
it did not assign were unset at its submission or have the same value now. -/
def CapturedStillHolds (s : State) (label : Label) : Prop :=
  ∀ here future fut newcontext, label = .result here future → s.futures future = some fut →
    fut.outcome = some (.returned newcontext) →
    ∀ name, fut.assigned (.user name) = false → Harmless fut.ctxs (s.env here) (.user name)

theorem keepsUnassigned_iff {history : List (State × Label)} {s s' : State} {label : Label}
    (run : Reaches (step world) world.start history s)
    (taken : step world s label = some s') :
    KeepsUnassigned world s label ↔ CapturedStillHolds s label := by
  have tracks := tracks_of_run run
  have left : ∀ {future fut newcontext}, s.futures future = some fut →
      fut.outcome = some (.returned newcontext) →
      ∀ var, fut.assigned var = false → newcontext var = fut.ctxs var := by
    intro future fut newcontext found returned var unassigned
    simpa [Future.sees, returned] using tracks future fut found var unassigned
  constructor
  · intro keeps here future fut newcontext isResult found returned name unassigned
    subst isResult
    have kept := (result_keeps_iff found taken
      (fun var => ∃ name, var = .user name ∧ fut.assigned var = false)).mp
      (by rintro var ⟨name, rfl, chosen⟩
          exact keeps here future fut s' rfl found taken name chosen)
    have harmless := kept newcontext returned (.user name) ⟨name, rfl, unassigned⟩
    simpa only [Harmless, left found returned _ unassigned] using harmless
  · intro holds here future fut after isResult found stepped name unassigned
    subst isResult
    refine (result_keeps_iff found stepped (fun var => var = .user name)).mpr ?_ _ rfl
    rintro newcontext returned var rfl
    have harmless := holds here future fut newcontext rfl found returned name unassigned
    simpa only [Harmless, left found returned _ unassigned] using harmless

/-- Read one after the other in one context, two futures whose coroutines assigned
different variables leave the assignments of both there. -/
def SeesBoth (world : World) (first second : State × Label) : Prop :=
  ∀ here future other fut next newcontext context between last,
    first.2 = .result here future → second.2 = .result here other →
    first.1.futures future = some fut → second.1.futures other = some next →
    fut.outcome = some (.returned newcontext) → next.outcome = some (.returned context) →
    (∀ name, fut.assigned (.user name) = true → next.assigned (.user name) = false) →
    step world first.1 first.2 = some between → between.env here = second.1.env here →
    step world second.1 second.2 = some last →
    ∀ name value,
      (fut.assigned (.user name) = true ∧ newcontext (.user name) = some value) ∨
        (next.assigned (.user name) = true ∧ context (.user name) = some value) →
      last.env here (.user name) = some value

theorem sees_both_of_keeps {first second : State × Label}
    (keeps : KeepsUnassigned world second.1 second.2) : SeesBoth world first second := by
  intro here future other fut next newcontext context between last isFirst isSecond found foundNext
    returned returnedNext disjoint firstTaken kept secondTaken name value assigned
  rcases assigned with ⟨chosen, held⟩ | ⟨_, held⟩
  · have later := keeps here other next last isSecond foundNext secondTaken name
      (disjoint name chosen)
    rw [later, ← kept]
    rw [isFirst] at firstTaken
    obtain ⟨fut', found', done⟩ := result_cases firstTaken
    cases found.symm.trans found'
    rcases done with ⟨items, isItems, after⟩ | ⟨raised, _⟩
    · cases returned.symm.trans isItems
      rw [after]
      exact setItems_of_set _ _ held
    · cases returned.symm.trans raised
  · rw [isSecond] at secondTaken
    obtain ⟨next', foundNext', done⟩ := result_cases secondTaken
    cases foundNext.symm.trans foundNext'
    rcases done with ⟨items, isItems, after⟩ | ⟨raised, _⟩
    · cases returnedNext.symm.trans isItems
      rw [after]
      exact setItems_of_set _ _ held
    · cases returnedNext.symm.trans raised

/-- In every run, every `result()` call keeps what its coroutine did not assign
exactly when at every such call the captured values still hold; and then the
results of coroutines with disjoint assignments are all seen. -/
theorem result_keeps_unassigned_iff (world : World) {history : List (State × Label)} {s : State}
    (run : Reaches (step world) world.start history s) :
    ((∀ taken ∈ history, KeepsUnassigned world taken.1 taken.2) ↔
      ∀ taken ∈ history, CapturedStillHolds taken.1 taken.2) ∧
    ((∀ taken ∈ history, CapturedStillHolds taken.1 taken.2) →
      ∀ first ∈ history, ∀ second ∈ history, SeesBoth world first second) := by
  have agree := @Reaches.forall_steps_congr _ _ _ _ (KeepsUnassigned world) CapturedStillHolds
    (fun _ _ _ _ reached taken => keepsUnassigned_iff reached taken) _ _ run
  refine ⟨agree, ?_⟩
  intro holds first _ second member
  exact sees_both_of_keeps (agree.mpr holds second member)

def plainWorld : World := ⟨fun _ => none, fun _ => false, fun _ => true⟩

def overlapping : List Label :=
  [.enter (.thread 0) 0 0, .assign (.thread 0) 0 (some 0), .submit (.thread 0) 0,
    .submit (.thread 0) 1, .assign (.coroutine 0) 0 (some 1), .assign (.coroutine 1) 1 (some 1),
    .coroutineEnds 0 true, .coroutineEnds 1 true, .result (.thread 0) 0, .result (.thread 0) 1]

theorem result_keeps_unassigned_iff_overlapping : ∃ history s,
    Reaches (step plainWorld) plainWorld.start history s ∧
    (((∀ taken ∈ history, KeepsUnassigned plainWorld taken.1 taken.2) ↔
        ∀ taken ∈ history, CapturedStillHolds taken.1 taken.2) ∧
      ((∀ taken ∈ history, CapturedStillHolds taken.1 taken.2) →
        ∀ first ∈ history, ∀ second ∈ history, SeesBoth plainWorld first second)) := by
  have initial : Reaches (step plainWorld) plainWorld.start [] plainWorld.start := .start
  have run := initial.follow overlapping rfl
  exact ⟨_, _, run, result_keeps_unassigned_iff plainWorld run⟩

/-- The second result takes the first coroutine's assignment back. -/
theorem result_loses_update : ∃ history s,
    Reaches (step plainWorld) plainWorld.start history s ∧
    s.env (.thread 0) (.user 0) = some (.user 0) ∧
    ¬ ∀ taken ∈ history, KeepsUnassigned plainWorld taken.1 taken.2 := by
  have initial : Reaches (step plainWorld) plainWorld.start [] plainWorld.start := .start
  have run := initial.follow overlapping rfl
  refine ⟨_, _, run, rfl, ?_⟩
  intro keeps
  have lost := keeps _ List.mem_cons_self (.thread 0) 1 _ _ rfl rfl rfl 0 rfl
  exact absurd lost (by decide)

end Koil.Contexts
