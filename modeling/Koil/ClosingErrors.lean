import Koil.Generators

namespace Koil.Generators

open Race

variable {σ S V : Type}

/-- What `await agen.aclose()` raises for a body that takes the GeneratorExit as `step`. -/
def GenStep.closeError : GenStep σ V → Option Exc
  | .yielded _ _ => some (.of .runtimeError "async generator ignored GeneratorExit")
  | .returned => none
  | .raised exc =>
      if (agenException exc).isA .generatorExit then none else some (agenException exc)

def GenClose.ofStep (step : GenStep σ V) : GenClose :=
  match step with
  | .yielded _ _ => .yielded
  | _ =>
      match step.closeError with
      | none => .closed
      | some exc => .raised exc

def AsyncGen.closing (gen : AsyncGen σ S V) (reaction : σ → GenStep σ V) : AsyncGen σ S V :=
  { gen with close := fun state => .ofStep (reaction state) }

/-- A sync generator lets no StopIteration out of its body. -/
def generatorException (exc : Exc) : Exc :=
  if exc.isA .stopIteration then .of .runtimeError "generator raised StopIteration" else exc

/-- `generator.throw(exc)` at the `yield`: no handler stands there but the `finally`. -/
def throwAt (gen : AsyncGen σ S V) (state : σ) (exc : Exc) : Reply V :=
  match leave gen (some state) (.raised exc) with
  | .raised left => .raised (generatorException left)
  | reply => reply

def closeAt (gen : AsyncGen σ S V) (state : σ) : Reply V :=
  match throwAt gen state (.of .generatorExit "") with
  | .raised left =>
      if left.isA .generatorExit || left.isA .stopIteration then .stopped else .raised left
  | reply => reply

/-- Whichever way the consumer leaves the generator at its `yield`, it gets the error with
which the close of the async generator failed. -/
def ClosesOpenly (config : Config) (gen : AsyncGen σ S V) (reaction : σ → GenStep σ V)
    (state : σ) : Prop :=
  ∀ error, (reaction state).closeError = some error →
    closeAt (gen.closing reaction) state = .raised error ∧
    (∀ thrown, throwAt (gen.closing reaction) state thrown = .raised error) ∧
    ∀ (waiters : Waiters config) (value : S),
      send (gen.closing reaction) waiters (.suspended state) (some value) =
        some ⟨none, .raised error, .finished⟩

/-- The classes that `aclose_async_gen_threadsafe` takes for a race or its own timeout, and
those that asyncio replaces on the way to it. -/
def swallowed (exc : Exc) : Bool :=
  exc.isA .runtimeError || exc.isA .timeoutError || exc.isA .koilCancelledError ||
    exc.isA .futuresCancelledError || exc.isA .asyncioCancelledError || exc.isConverted

/-- The body does not come to a `yield`, and raises nothing that is swallowed or that
Python turns into a RuntimeError. -/
def GenStep.closesOpenly : GenStep σ V → Bool
  | .yielded _ _ => false
  | .returned => true
  | .raised exc =>
      !exc.isA .stopIteration && !exc.isA .stopAsyncIteration &&
        (exc.isA .generatorExit || !swallowed exc)

theorem agenException_not_stopIteration (exc : Exc) :
    (agenException exc).isA .stopIteration = false := by
  unfold agenException
  split
  · rfl
  · next notStop =>
      split
      · rfl
      · simpa using notStop

theorem closeError_ends_loudly {step : GenStep σ V} {error : Exc}
    (fails : step.closeError = some error) :
    error.isA .stopIteration = false ∧ error.isA .generatorExit = false := by
  cases step with
  | yielded value next =>
      cases fails
      exact ⟨rfl, rfl⟩
  | returned => cases fails
  | raised exc =>
      simp only [GenStep.closeError] at fails
      split at fails
      · cases fails
      · next notExit =>
          cases fails
          exact ⟨agenException_not_stopIteration exc, by simpa using notExit⟩

theorem aclose_raised_iff (error : Exc) (notStop : error.isA .stopIteration = false) :
    acloseAsyncGenThreadsafe (.raised error) = some error ↔ swallowed error = false := by
  by_cases cancel : error.isA .asyncioCancelledError = true
  · have lost : acloseAsyncGenThreadsafe (.raised error) = none := by
      simp [acloseAsyncGenThreadsafe, TaskEnd.ofCoroutine, notStop, cancel,
        setConcurrentFutureState, FutureEnd.get, Builtin.isA, Builtin.mro]
    simp [lost, swallowed, cancel]
  · have notCancel : error.isA .asyncioCancelledError = false := by simpa using cancel
    have seen : (setConcurrentFutureState
        (.ofCoroutine (.error error : Except Exc Unit))).get = .error (convertFutureExc error) := by
      rw [ofCoroutine_raise error notStop notCancel]
      rfl
    simp only [acloseAsyncGenThreadsafe, seen]
    by_cases kept : error.isConverted = false
    · rw [convertFutureExc_of_not_converted error kept]
      simp [swallowed, notCancel, kept, and_assoc, and_comm]
    · have replaced : convertFutureExc error ≠ error :=
        fun same => kept ((convertFutureExc_eq_iff error).mp same)
      have converted : error.isConverted = true := by simpa using kept
      constructor
      · intro same
        split at same
        · cases same
        · exact absurd (Option.some.inj same) replaced
      · intro open_
        simp [swallowed, converted] at open_

theorem aclose_ofStep_iff {step : GenStep σ V} {error : Exc}
    (fails : step.closeError = some error) :
    acloseAsyncGenThreadsafe (.ofStep step) = some error ↔ swallowed error = false := by
  cases step with
  | yielded value next =>
      cases fails
      simp [GenClose.ofStep, acloseAsyncGenThreadsafe, swallowed, Builtin.isA, Builtin.mro]
  | returned => cases fails
  | raised exc =>
      simp only [GenClose.ofStep, fails]
      exact aclose_raised_iff error (closeError_ends_loudly fails).1

theorem aclose_not_stopIteration {close : GenClose} {seen : Exc}
    (open_ : acloseAsyncGenThreadsafe close = some seen) : seen.isA .stopIteration = false := by
  cases close with
  | closed | yielded | outlasts => cases open_
  | raised exc =>
      simp only [acloseAsyncGenThreadsafe, TaskEnd.ofCoroutine] at open_
      split at open_
      · cases open_
      · next inner got =>
          have value : seen = inner := by
            split at open_
            · cases open_
            · exact (Option.some.inj open_).symm
          subst value
          split at got
          · cases got
            rfl
          · next notStop =>
              split at got
              · cases got
                rfl
              · cases got
                unfold convertFutureExc
                split <;> first | rfl | simpa using notStop

variable {gen : AsyncGen σ S V} {reaction : σ → GenStep σ V} {state : σ}

theorem closeAt_eq (gen : AsyncGen σ S V) (state : σ) :
    closeAt gen state =
      match acloseAsyncGenThreadsafe (gen.close state) with
      | none => .stopped
      | some seen => if seen.isA .generatorExit then .stopped else .raised seen := by
  cases closed : acloseAsyncGenThreadsafe (gen.close state) with
  | none => simp [closeAt, throwAt, leave, closed, generatorException, Builtin.isA, Builtin.mro]
  | some seen =>
      have notStop := aclose_not_stopIteration closed
      simp [closeAt, throwAt, leave, closed, generatorException, notStop]

theorem leaves_with {error : Exc} (open_ : acloseAsyncGenThreadsafe (gen.close state) = some error)
    (notStop : error.isA .stopIteration = false) (notExit : error.isA .generatorExit = false) :
    closeAt gen state = .raised error ∧ (∀ thrown, throwAt gen state thrown = .raised error) ∧
      ∀ (config : Config) (waiters : Waiters config) (value : S),
        send gen waiters (.suspended state) (some value) =
          some ⟨none, .raised error, .finished⟩ := by
  refine ⟨?_, ?_, ?_⟩
  · simp [closeAt_eq, open_, notExit]
  · intro thrown
    simp [throwAt, leave, open_, generatorException, notStop]
  · intro config waiters value
    simp only [send, sendStep, submittedResult_eq]
    simp [Except.mapError, leave, open_]

theorem closesOpenly_iff (step : GenStep σ V) :
    step.closesOpenly = true ↔ ∀ error, step.closeError = some error → swallowed error = false := by
  cases step with
  | yielded value next =>
      simp [GenStep.closesOpenly, GenStep.closeError, swallowed, Builtin.isA, Builtin.mro]
  | returned => simp [GenStep.closesOpenly, GenStep.closeError]
  | raised exc =>
      simp only [GenStep.closesOpenly, GenStep.closeError]
      by_cases stop : exc.isA .stopIteration = true
      · simp [agenException, stop, swallowed, Builtin.isA, Builtin.mro]
      · by_cases stopAsync : exc.isA .stopAsyncIteration = true
        · simp [agenException, stop, stopAsync, swallowed, Builtin.isA, Builtin.mro]
        · have same : agenException exc = exc := by simp [agenException, stop, stopAsync]
          by_cases exit : exc.isA .generatorExit = true
          · simp [same, stop, stopAsync, exit]
          · simp [same, stop, stopAsync, exit]

/-- A consumer gets the errors of an async generator's cleanup code exactly when there is
no error of a class that `aclose_async_gen_threadsafe` takes for a benign one. -/
theorem close_errors_surface_iff (config : Config) (gen : AsyncGen σ S V)
    (reaction : σ → GenStep σ V) (state : σ) :
    ClosesOpenly config gen reaction state ↔ (reaction state).closesOpenly = true := by
  rw [closesOpenly_iff]
  constructor
  · intro surfaces error fails
    have left := (surfaces error fails).1
    have open_ : acloseAsyncGenThreadsafe (.ofStep (reaction state)) = some error := by
      simp only [closeAt_eq, AsyncGen.closing] at left
      split at left
      · cases left
      · next seen closed =>
          split at left
          · cases left
          · cases left
            exact closed
    exact (aclose_ofStep_iff fails).mp open_
  · intro condition error fails
    have ends := closeError_ends_loudly fails
    have open_ : acloseAsyncGenThreadsafe ((gen.closing reaction).close state) = some error :=
      (aclose_ofStep_iff fails).mpr (condition error fails)
    obtain ⟨closes, throws, sends⟩ := leaves_with open_ ends.1 ends.2
    exact ⟨closes, throws, sends config⟩

def failingCleanup : Unit → GenStep Unit Unit := fun _ => .raised (.of .runtimeError "not flushed")

theorem runtime_error_of_cleanup_lost :
    ¬ ClosesOpenly (unkoilGen false) (⟨fun _ _ => .returned, fun _ => .closed⟩ :
      AsyncGen Unit Unit Unit) failingCleanup () := by
  intro surfaces
  have closes := (surfaces _ rfl).1
  cases closes

example : closeAt ((⟨fun _ _ => .returned, fun _ => .closed⟩ : AsyncGen Unit Unit Unit).closing
    fun _ => .raised (.of .valueError "not flushed")) () =
      .raised (.of .valueError "not flushed") := by decide

end Koil.Generators
