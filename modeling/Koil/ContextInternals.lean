import Koil.ContextResults

namespace Koil.Contexts

open Runs

variable {world : World}

/-- This step, if it is a `result()` call, leaves koil's own variables as they are. -/
def KeepsInternals (world : World) (s : State) (label : Label) : Prop :=
  ∀ here future s', label = .result here future → step world s label = some s' →
    ∀ var, var.internal = true → s'.env here var = s.env here var

/-- Before a `result()` call on a coroutine that returned, each of koil's own
variables was unset when it was captured or has the same value now, and where the
coroutine has assigned it, the same is true of what it left there. -/
def InternalsAgree (s : State) (label : Label) : Prop :=
  ∀ here future fut newcontext, label = .result here future → s.futures future = some fut →
    fut.outcome = some (.returned newcontext) →
    ∀ var, var.internal = true →
      if fut.assigned var then Harmless newcontext (s.env here) var
      else Harmless fut.ctxs (s.env here) var

theorem keepsInternals_iff {history : List (State × Label)} {s s' : State} {label : Label}
    (run : Reaches (step world) world.start history s)
    (taken : step world s label = some s') :
    KeepsInternals world s label ↔ InternalsAgree s label := by
  have left : ∀ {here future fut newcontext}, s.futures future = some fut →
      fut.outcome = some (.returned newcontext) → ∀ var,
      ((if fut.assigned var then Harmless newcontext (s.env here) var
        else Harmless fut.ctxs (s.env here) var) ↔ Harmless newcontext (s.env here) var) := by
    intro here future fut newcontext found returned var
    by_cases assigned : fut.assigned var = true
    · simp [assigned]
    · have unassigned : fut.assigned var = false := by simpa using assigned
      have kept := tracks_of_run run future fut found var unassigned
      have same : newcontext var = fut.ctxs var := by simpa [Future.sees, returned] using kept
      simp [unassigned, Harmless, same]
  constructor
  · intro keeps here future fut newcontext isResult found returned var internal
    subst isResult
    rw [left found returned var]
    exact (result_keeps_iff found taken (fun var => var.internal = true)).mp
      (keeps here future s' rfl taken) newcontext returned var internal
  · intro agrees here future after isResult stepped
    subst isResult
    obtain ⟨fut, found, _⟩ := result_cases stepped
    refine (result_keeps_iff found stepped (fun var => var.internal = true)).mpr ?_
    intro newcontext returned var internal
    exact (left found returned var).mp
      (agrees here future fut newcontext rfl found returned var internal)

def RevivesNothing (world : World) (s : State) (label : Label) : Prop :=
  ∀ here future s', label = .result here future → step world s label = some s' →
    (∀ koil, (s'.env here).getD .globalKoil = .koil koil →
      (s.env here).getD .globalKoil = .koil koil) ∧
    (∀ loop, (s'.env here).getD .globalKoilLoop = .loop loop →
      (s.env here).getD .globalKoilLoop = .loop loop)

theorem revives_nothing_of_keeps {s : State} {label : Label}
    (keeps : KeepsInternals world s label) : RevivesNothing world s label := by
  intro here future s' isResult taken
  have kept := keeps here future s' isResult taken
  constructor
  · intro koil ambient
    rwa [Context.getD, kept .globalKoil rfl] at ambient
  · intro loop ambient
    rwa [Context.getD, kept .globalKoilLoop rfl] at ambient

theorem workerEnds_keeps_internals {s s' : State} {worker : Nat} {returned : Bool}
    (taken : step world s (.workerEnds worker returned) = some s') (here : Place) {var : Var}
    (internal : var.internal = true) : s'.env here var = s.env here var := by
  simp only [step, State.workerEnds] at taken
  split at taken
  · next caller loop bridge found =>
    split at taken
    · cases taken
      by_cases same : here = caller
      · subst same
        simp [State.assign, internal]
      · simp [State.assign, same]
    · cases taken
      rfl
  · cases taken

/-- In every run, every `result()` call leaves koil's own variables alone exactly
when what it copies back agrees with the caller each time; then reading a future
makes nothing ambient. What a worker bridges back always leaves them alone. -/
theorem result_keeps_internals_iff (world : World) {history : List (State × Label)} {s : State}
    (run : Reaches (step world) world.start history s) :
    ((∀ taken ∈ history, KeepsInternals world taken.1 taken.2) ↔
      ∀ taken ∈ history, InternalsAgree taken.1 taken.2) ∧
    ((∀ taken ∈ history, InternalsAgree taken.1 taken.2) →
      ∀ taken ∈ history, RevivesNothing world taken.1 taken.2) ∧
    (∀ taken ∈ history, ∀ worker returned s', taken.2 = .workerEnds worker returned →
      step world taken.1 taken.2 = some s' →
      ∀ here var, var.internal = true → s'.env here var = taken.1.env here var) := by
  have agree := @Reaches.forall_steps_congr _ _ _ _ (KeepsInternals world) InternalsAgree
    (fun _ _ _ _ reached taken => keepsInternals_iff reached taken) _ _ run
  refine ⟨agree, ?_, ?_⟩
  · intro agrees taken member
    exact revives_nothing_of_keeps (agree.mpr agrees taken member)
  · intro taken _ worker returned s' isEnd stepped here var internal
    rw [isEnd] at stepped
    exact workerEnds_keeps_internals stepped here internal

def readAfterExit : List Label :=
  [.enter (.thread 0) 0 0, .submit (.thread 0) 0, .coroutineEnds 0 true,
    .exit (.thread 0) 0 true, .result (.thread 0) 0]

theorem result_keeps_internals_iff_readAfterExit : ∃ history s,
    Reaches (step plainWorld) plainWorld.start history s ∧
    (((∀ taken ∈ history, KeepsInternals plainWorld taken.1 taken.2) ↔
        ∀ taken ∈ history, InternalsAgree taken.1 taken.2) ∧
      ((∀ taken ∈ history, InternalsAgree taken.1 taken.2) →
        ∀ taken ∈ history, RevivesNothing plainWorld taken.1 taken.2) ∧
      (∀ taken ∈ history, ∀ worker returned s', taken.2 = .workerEnds worker returned →
        step plainWorld taken.1 taken.2 = some s' →
        ∀ here var, var.internal = true → s'.env here var = taken.1.env here var)) := by
  have initial : Reaches (step plainWorld) plainWorld.start [] plainWorld.start := .start
  have run := initial.follow readAfterExit rfl
  exact ⟨_, _, run, result_keeps_internals_iff plainWorld run⟩

/-- The exited Koil and its closed loop are ambient again. -/
theorem result_revives_koil : ∃ history s,
    Reaches (step plainWorld) plainWorld.start history s ∧
    s.loops 0 = .closed ∧
    s.env (.thread 0) .globalKoil = some (.koil 0) ∧
    s.env (.thread 0) .globalKoilLoop = some (.loop 0) ∧
    ¬ ∀ taken ∈ history, KeepsInternals plainWorld taken.1 taken.2 := by
  have initial : Reaches (step plainWorld) plainWorld.start [] plainWorld.start := .start
  have run := initial.follow readAfterExit rfl
  refine ⟨_, _, run, rfl, rfl, rfl, ?_⟩
  intro keeps
  have kept := keeps _ List.mem_cons_self (.thread 0) 0 _ rfl rfl .globalKoil rfl
  exact absurd kept (by decide)

end Koil.Contexts
