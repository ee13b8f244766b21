import Koil.RaceVerdict
import Koil.Generators

/-! `iterate_async_sharing_context` on an async generator that yields nothing beside
`run_async_sharing_context` on a coroutine with the same awaits. -/

namespace Koil.Race

open Generators

/-- A timeout argument: whether it is below zero, and the text that messages show. -/
structure Timeout where
  negative : Bool
  shown : String
  deriving DecidableEq, Repr

/-- What a call finds: its timeout, the ambient cancel event if there is one and whether
it is set, whether the loop is closed, and whether there is a signals object. -/
structure Call where
  timeout : Option Timeout
  ambient : Option Bool
  loopClosed : Bool
  signals : Bool
  deriving DecidableEq, Repr

def Call.config (call : Call) : Config :=
  ⟨call.ambient.isSome, call.timeout.map Timeout.shown, call.signals⟩

/-- How the race of an accepted call goes: `asyncio.wait` returns in it, or the work stops
the loop, whose shutdown then cancels the task of `passed_with_context`. -/
inductive Course (config : Config) where
  | raced (schedule : Schedule config Empty Unit)
  | loopStopped

/-- Both functions from their first line to the end of `passed_with_context`. -/
def Flavour.submit (flavour : Flavour Empty Unit) (call : Call) (course : Course call.config) :
    Except Exc (Run Empty Unit) :=
  if call.timeout.any Timeout.negative then
    .error (.of .valueError "timeout must be non-negative")
  else if call.ambient = some true then
    .error (.of .threadCancelledError "Thread was cancelled")
  else if call.loopClosed then
    -- `run_coroutine_threadsafe`, from the loop's `call_soon_threadsafe`
    .error (.of .runtimeError "Event loop is closed")
  else
    match course with
    | .raced schedule => .ok (flavour.passedWithContext call.config schedule.toScript)
    | .loopStopped => .ok ⟨[], some .cancelled⟩

def runAsyncSharingContext (call : Call) (course : Course call.config) :
    Except Exc (Run Empty Unit) := runAsync.submit call course

def iterateAsyncSharingContext (call : Call) (course : Course call.config) :
    Except Exc (Run Empty Unit) := iterateAsync.submit call course

def generatorBody (body : Except Exc Unit) : Except Exc Unit := body.mapError agenException

def Reaction.inGenerator : Reaction Unit → Reaction Unit
  | .ends inGrace body => .ends inGrace (generatorBody body)
  | .never => .never

def Work.inGenerator : Work Unit → Work Unit
  | .won body => .won (generatorBody body)
  | .lost reaction => .lost reaction.inGenerator

def Script.inGenerator (script : Script Empty Unit) : Script Empty Unit :=
  { script with work := script.work.inGenerator }

@[simp] theorem inGenerator_finished (script : Script Empty Unit) (racer : Racer) :
    script.inGenerator.finished racer = script.finished racer := by
  cases racer with
  | work => cases fate : script.work <;> simp [Script.finished, Script.inGenerator, fate,
      Work.inGenerator]
  | ownCancel | ambientCancel | deadline => rfl

theorem agenException_survives {exc : Exc} (survives : exc.stopsLoop = false) :
    (agenException exc).stopsLoop = false := by
  unfold agenException
  split
  · rfl
  · split
    · rfl
    · exact survives

def Schedule.inGenerator {config : Config} (schedule : Schedule config Empty Unit) :
    Schedule config Empty Unit where
  toScript := schedule.toScript.inGenerator
  first_completed := by simpa using schedule.first_completed
  unfinished_order := by
    change schedule.order.Perm _
    simpa using schedule.unfinished_order
  loop_runs exc won := by
    have fate : schedule.work.inGenerator = .won (.error exc) := won
    cases own : schedule.work with
    | lost reaction =>
        rw [own] at fate
        cases fate
    | won body =>
        rw [own] at fate
        cases body with
        | ok value => cases fate
        | error inner =>
            cases fate
            exact agenException_survives (schedule.loop_runs inner own)

def Course.inGenerator {config : Config} : Course config → Course config
  | .raced schedule => .raced schedule.inGenerator
  | .loopStopped => .loopStopped

/-- What a user can tell two runs apart by: the terminal signals with the classes of their
payloads, the state of the future, and what `result()` returns or the class it raises. -/
inductive Emitted
  | succeeded
  | errored (cls : ExcClass)
  | cancelled (cls : ExcClass)
  deriving DecidableEq, Repr

inductive FutureState
  | result
  | exception
  | cancelled
  deriving DecidableEq, Repr

structure Observed where
  emitted : List Emitted
  state : Option FutureState
  result : Option (Except ExcClass Unit)
  deriving DecidableEq

def Signal.observed : Signal Empty Unit → Emitted
  | .returned _ => .succeeded
  | .done => .succeeded
  | .errored exc => .errored exc.cls
  | .cancelled exc => .cancelled exc.cls

def futureState : FutureEnd Unit → FutureState
  | .result _ => .result
  | .exception _ => .exception
  | .cancelled => .cancelled

def Run.observed (run : Run Empty Unit) : Observed :=
  ⟨run.emitted.map Signal.observed, run.resolution.map futureState,
    run.resolution.map (fun future => future.get.mapError Exc.cls)⟩

def observed (submitted : Except Exc (Run Empty Unit)) : Except ExcClass Observed :=
  match submitted with
  | .error exc => .error exc.cls
  | .ok run => .ok run.observed

def SubmissionsAgree (call : Call) (course : Course call.config) : Prop :=
  observed (runAsyncSharingContext call course) =
    observed (iterateAsyncSharingContext call course.inGenerator)

/-- The class of the exception depends on the kind of the function that raises it. -/
def raisesStop : Except Exc Unit → Bool
  | .ok _ => false
  | .error exc => exc.isA .stopAsyncIteration && !exc.isA .stopIteration

def raisesThrough : Except Exc Unit → Bool
  | .ok _ => false
  | .error exc =>
      exc.isA .stopIteration || !exc.isA .stopAsyncIteration &&
        !exc.isA .asyncioCancelledError && !exc.isA .timeoutError

/-- No cancellation wins the race and gets through the tidying up, and the body whose end
decides the race raises no StopAsyncIteration. -/
def Script.sameRules (script : Script Empty Unit) (config : Config) : Bool :=
  match script.work with
  | .won body => !raisesStop body
  | .lost reaction =>
      if script.timedOut config then
        script.interrupted ||
          match reaction with
          | .ends true body => !raisesStop body
          | _ => true
      else
        match reaction with
        | .never => true
        | .ends _ body => !script.interrupted && raisesThrough body

/-- A refused call, a loop that the work stops, or a race under the same rules. -/
def Call.sameRules (call : Call) : Course call.config → Bool
  | .raced schedule =>
      call.timeout.any Timeout.negative || decide (call.ambient = some true) || call.loopClosed ||
        schedule.sameRules call.config
  | .loopStopped => true

theorem next_signals_empty (values : List Empty) :
    (values.map Signal.next : List (Signal Empty Unit)) = [] := by
  cases values with
  | nil => rfl
  | cons value rest => exact value.elim

def observedEnd (emitted : List Emitted) (ended : Option (TaskEnd Unit)) : Observed :=
  ⟨emitted, (ended.map setConcurrentFutureState).map futureState,
    (ended.map setConcurrentFutureState).map (fun future => future.get.mapError Exc.cls)⟩

def observedWon (config : Config) (done : TaskEnd Unit) : Observed :=
  match done with
  | .cancelled => observedEnd [] (raiseEnd asyncioCancelled)
  | .raised exc =>
      if config.signals && exc.truthy then observedEnd [.errored exc.cls] (raiseEnd exc)
      else observedEnd [] (raiseEnd exc)
  | .returned value =>
      if config.signals then observedEnd [.succeeded] (some (.returned value))
      else observedEnd [] (some (.returned value))

def Flavour.observedLost (flavour : Flavour Empty Unit) (config : Config) (timedOut : Bool)
    (awaiting : Awaited) : Observed :=
  match settleLoser awaiting with
  | .stuck => observedEnd [] none
  | .escaped exc => observedEnd [] (raiseEnd exc)
  | .finished acknowledged =>
      if timedOut then
        let error := flavour.timeoutError config acknowledged
        observedEnd (if config.signals then [.errored error.cls] else []) (raiseEnd error)
      else
        observedEnd (if config.signals then [.cancelled flavour.cancelError.cls] else [])
          (raiseEnd flavour.cancelError)

variable {config : Config}

theorem observed_won (flavour : Flavour Empty Unit) (schedule : Schedule config Empty Unit)
    {body : Except Exc Unit} (fate : schedule.work = .won body) :
    (flavour.passedWithContext config schedule.toScript).observed =
      observedWon config (.ofCoroutine body) := by
  have tidied := tidyUp_schedule schedule (schedule.timedOut config)
  simp only [fate] at tidied
  simp only [Flavour.passedWithContext, tidied, fate, next_signals_empty]
  cases TaskEnd.ofCoroutine body with
  | cancelled => simp [Run.observed, Run.resolution, Config.emit, observedWon, observedEnd]
  | raised exc =>
      cases truth : exc.truthy <;> cases signals : config.signals <;>
        simp [Run.observed, Run.resolution, Config.emit, observedWon, observedEnd, truth, signals,
          Signal.observed]
  | returned value =>
      have success : (flavour.success value).observed = .succeeded := by
        rcases flavour.success_terminal value with same | same <;> rw [same] <;> rfl
      cases signals : config.signals <;>
        simp [Run.observed, Run.resolution, Config.emit, observedWon, observedEnd, signals, success]

theorem observed_lost (flavour : Flavour Empty Unit) (schedule : Schedule config Empty Unit)
    {reaction : Reaction Unit} (fate : schedule.work = .lost reaction) :
    (flavour.passedWithContext config schedule.toScript).observed =
      flavour.observedLost config (schedule.timedOut config)
        (schedule.awaitLoser (schedule.timedOut config) .work) := by
  have tidied := tidyUp_schedule schedule (schedule.timedOut config)
  simp only [fate] at tidied
  simp only [Flavour.passedWithContext, tidied, fate, next_signals_empty, Flavour.observedLost]
  cases settleLoser (schedule.awaitLoser (schedule.timedOut config) .work) with
  | stuck => simp [Run.observed, Run.resolution, Config.emit, observedEnd]
  | escaped exc => simp [Run.observed, Run.resolution, Config.emit, observedEnd]
  | finished acknowledged =>
      cases schedule.timedOut config <;> cases signals : config.signals <;>
        simp [Run.observed, Run.resolution, Config.emit, observedEnd, signals, Signal.observed]

theorem observedEnd_runtimeError (emitted : List Emitted) (args : String) :
    observedEnd emitted (raiseEnd (.of .runtimeError args)) =
      ⟨emitted, some .exception, some (.error (.library .runtimeError))⟩ := rfl

theorem observedEnd_stop (emitted : List Emitted) {exc : Exc}
    (stop : exc.isA .stopAsyncIteration = true) (notStop : exc.isA .stopIteration = false)
    (notCancel : exc.isA .asyncioCancelledError = false) :
    (observedEnd emitted (raiseEnd exc)).result ≠ some (.error (.library .runtimeError)) := by
  by_cases stops : exc.stopsLoop = true
  · simp [observedEnd, raiseEnd, stops]
  · have kept : convertFutureExc exc = exc := by
      apply convertFutureExc_of_not_converted
      rcases exc with ⟨cls, args⟩
      cases cls with
      | user cls => rfl
      | library cls => cases cls <;> simp_all [Exc.isConverted, Exc.isA, Builtin.isA, Builtin.mro]
    have other : exc.cls ≠ .library .runtimeError := by
      intro same
      rcases exc with ⟨cls, args⟩
      cases same
      cases stop
    simp [observedEnd, raiseEnd, stops, ofCoroutine_raise exc notStop notCancel,
      setConcurrentFutureState, FutureEnd.get, Except.mapError, kept, other]

theorem generatorBody_same {exc : Exc} (notStop : exc.isA .stopIteration = false)
    (notAsync : exc.isA .stopAsyncIteration = false) :
    generatorBody (.error exc) = .error exc := by
  simp [generatorBody, Except.mapError, agenException, notStop, notAsync]

theorem generatorBody_stop {exc : Exc} (stop : exc.isA .stopAsyncIteration = true)
    (notStop : exc.isA .stopIteration = false) :
    TaskEnd.ofCoroutine (generatorBody (.error exc)) =
      .raised (.of .runtimeError "async generator raised StopAsyncIteration") := by
  simp [generatorBody, Except.mapError, agenException, stop, notStop, TaskEnd.ofCoroutine,
    Builtin.isA, Builtin.mro]

theorem generatorBody_stopIteration {exc : Exc} (stop : exc.isA .stopIteration = true) :
    TaskEnd.ofCoroutine (generatorBody (.error exc)) =
      .raised (.of .runtimeError "async generator raised StopIteration") := by
  simp [generatorBody, Except.mapError, agenException, stop, TaskEnd.ofCoroutine, Builtin.isA,
    Builtin.mro]

theorem observedWon_runtimeError (config : Config) (first second : String) :
    observedWon config (.raised (.of .runtimeError first)) =
      observedWon config (.raised (.of .runtimeError second)) := rfl

theorem won_agree_iff (config : Config) (body : Except Exc Unit) :
    observedWon config (.ofCoroutine body) =
        observedWon config (.ofCoroutine (generatorBody body)) ↔
      raisesStop body = false := by
  cases body with
  | ok value => simp [generatorBody, Except.mapError, raisesStop]
  | error exc =>
      by_cases stop : exc.isA .stopIteration = true
      · rw [generatorBody_stopIteration stop]
        simp only [TaskEnd.ofCoroutine, stop, if_true, raisesStop, Bool.not_true, Bool.and_false,
          iff_true]
        exact observedWon_runtimeError config _ _
      · have notStop : exc.isA .stopIteration = false := by simpa using stop
        by_cases async : exc.isA .stopAsyncIteration = true
        · rw [generatorBody_stop async notStop]
          simp only [raisesStop, async, notStop, Bool.not_false, Bool.and_self, Bool.true_eq_false,
            iff_false]
          intro same
          have results := congrArg Observed.result same
          have generator : (observedWon config (.raised
              (.of .runtimeError "async generator raised StopAsyncIteration"))).result =
                some (.error (.library .runtimeError)) := by
            cases signals : config.signals <;>
              simp [observedWon, signals, Exc.truthy, Exc.of] <;> rfl
          rw [generator] at results
          by_cases cancel : exc.isA .asyncioCancelledError = true
          · simp only [TaskEnd.ofCoroutine, notStop, cancel, if_true] at results
            cases results
          · have notCancel : exc.isA .asyncioCancelledError = false := by simpa using cancel
            rw [ofCoroutine_raise exc notStop notCancel] at results
            simp only [observedWon] at results
            split at results
            · exact observedEnd_stop _ async notStop notCancel results
            · exact observedEnd_stop _ async notStop notCancel results
        · have notAsync : exc.isA .stopAsyncIteration = false := by simpa using async
          rw [generatorBody_same notStop notAsync]
          simp [raisesStop, notAsync]

theorem observedLost_deadline (config : Config) (awaiting : Awaited) :
    runAsync.observedLost config true awaiting =
      iterateAsync.observedLost config true awaiting := by
  simp only [Flavour.observedLost]
  cases settleLoser awaiting with
  | stuck | escaped => rfl
  | finished acknowledged => cases acknowledged <;> rfl

theorem observedLost_cancel_differ (config : Config) {first second : Awaited} {one two : Bool}
    (run : settleLoser first = .finished one) (iterate : settleLoser second = .finished two) :
    runAsync.observedLost config false first ≠ iterateAsync.observedLost config false second := by
  simp only [Flavour.observedLost, run, iterate]
  intro same
  have states := congrArg Observed.state same
  cases states

theorem observedLost_escaped (flavour : Flavour Empty Unit) (config : Config) (timedOut : Bool)
    {awaiting : Awaited} {exc : Exc} (escaped : settleLoser awaiting = .escaped exc) :
    flavour.observedLost config timedOut awaiting = observedEnd [] (raiseEnd exc) := by
  simp [Flavour.observedLost, escaped]

theorem settle_runtimeError (args : String) :
    settleLoser (awaitEnd (.raised (.of .runtimeError args) : TaskEnd Unit)) =
      .escaped (.of .runtimeError args) := rfl

/-- The losing coroutine that raises no stop iteration: its exception leaves the tidying
up, unless it is a cancellation or a timeout. -/
theorem settle_raised {exc : Exc} (notStop : exc.isA .stopIteration = false) :
    settleLoser (awaitEnd (.ofCoroutine (.error exc : Except Exc Unit))) =
      if exc.isA .asyncioCancelledError then .finished true
      else if exc.isA .timeoutError then .finished false else .escaped exc := by
  by_cases cancel : exc.isA .asyncioCancelledError = true
  · simp only [TaskEnd.ofCoroutine, notStop, cancel, if_true]
    rfl
  · have notCancel : exc.isA .asyncioCancelledError = false := by simpa using cancel
    rw [ofCoroutine_raise exc notStop notCancel]
    simp [awaitEnd, TaskEnd.get, settleLoser, notCancel]

theorem lost_stop_differ (config : Config) (timedOut : Bool) {exc : Exc}
    (stop : exc.isA .stopAsyncIteration = true) (notStop : exc.isA .stopIteration = false) :
    runAsync.observedLost config timedOut
        (awaitEnd (.ofCoroutine (.error exc : Except Exc Unit))) ≠
      iterateAsync.observedLost config timedOut
        (awaitEnd (.ofCoroutine (generatorBody (.error exc)))) := by
  rw [generatorBody_stop stop notStop,
    observedLost_escaped iterateAsync config timedOut (settle_runtimeError _),
    observedEnd_runtimeError]
  intro same
  have results := congrArg Observed.result same
  have settled := settle_raised notStop
  simp only [Flavour.observedLost, settled] at results
  by_cases cancel : exc.isA .asyncioCancelledError = true
  · simp only [cancel, if_true] at results
    cases timedOut <;> cases results
  · have notCancel : exc.isA .asyncioCancelledError = false := by simpa using cancel
    by_cases timeout : exc.isA .timeoutError = true
    · simp only [notCancel, timeout, Bool.false_eq_true, if_false, if_true] at results
      cases timedOut <;> cases results
    · simp only [notCancel, timeout, Bool.false_eq_true, if_false] at results
      exact observedEnd_stop _ stop notStop notCancel results

theorem deadline_agree_iff (config : Config) (body : Except Exc Unit) :
    runAsync.observedLost config true (awaitEnd (.ofCoroutine body)) =
        iterateAsync.observedLost config true (awaitEnd (.ofCoroutine (generatorBody body))) ↔
      raisesStop body = false := by
  cases body with
  | ok value =>
      simp only [raisesStop, iff_true]
      exact observedLost_deadline config _
  | error exc =>
      by_cases stop : exc.isA .stopIteration = true
      · have same : TaskEnd.ofCoroutine (.error exc : Except Exc Unit) =
            .raised (.of .runtimeError "coroutine raised StopIteration") := by
          simp [TaskEnd.ofCoroutine, stop]
        rw [generatorBody_stopIteration stop, same]
        simp only [raisesStop, stop, Bool.not_true, Bool.and_false, iff_true]
        rw [observedLost_escaped _ config true (settle_runtimeError _),
          observedLost_escaped _ config true (settle_runtimeError _)]
        rfl
      · have notStop : exc.isA .stopIteration = false := by simpa using stop
        by_cases async : exc.isA .stopAsyncIteration = true
        · simp only [raisesStop, async, notStop, Bool.not_false, Bool.and_self,
            Bool.true_eq_false, iff_false]
          exact lost_stop_differ config true async notStop
        · have notAsync : exc.isA .stopAsyncIteration = false := by simpa using async
          rw [generatorBody_same notStop notAsync]
          simp only [raisesStop, notAsync, Bool.false_and, iff_true]
          exact observedLost_deadline config _

theorem cancel_agree_iff (config : Config) (body : Except Exc Unit) :
    runAsync.observedLost config false (awaitEnd (.ofCoroutine body)) =
        iterateAsync.observedLost config false (awaitEnd (.ofCoroutine (generatorBody body))) ↔
      raisesThrough body = true := by
  cases body with
  | ok value =>
      simp only [raisesThrough, Bool.false_eq_true, iff_false]
      exact observedLost_cancel_differ config rfl rfl
  | error exc =>
      by_cases stop : exc.isA .stopIteration = true
      · have same : TaskEnd.ofCoroutine (.error exc : Except Exc Unit) =
            .raised (.of .runtimeError "coroutine raised StopIteration") := by
          simp [TaskEnd.ofCoroutine, stop]
        rw [generatorBody_stopIteration stop, same]
        simp only [raisesThrough, stop, Bool.true_or, iff_true]
        rw [observedLost_escaped _ config false (settle_runtimeError _),
          observedLost_escaped _ config false (settle_runtimeError _)]
        rfl
      · have notStop : exc.isA .stopIteration = false := by simpa using stop
        by_cases async : exc.isA .stopAsyncIteration = true
        · simp only [raisesThrough, async, notStop, Bool.not_true, Bool.false_and, Bool.or_self,
            Bool.false_eq_true, iff_false]
          exact lost_stop_differ config false async notStop
        · have notAsync : exc.isA .stopAsyncIteration = false := by simpa using async
          have settled := settle_raised notStop
          rw [generatorBody_same notStop notAsync]
          by_cases cancel : exc.isA .asyncioCancelledError = true
          · simp only [cancel, if_true] at settled
            simp only [raisesThrough, notStop, cancel, Bool.not_true, Bool.and_false,
              Bool.false_and, Bool.or_self, Bool.false_eq_true, iff_false]
            exact observedLost_cancel_differ config settled settled
          · by_cases timeout : exc.isA .timeoutError = true
            · simp only [cancel, timeout, Bool.false_eq_true, if_false, if_true] at settled
              simp only [raisesThrough, notStop, timeout, Bool.not_true, Bool.and_false,
                Bool.or_self, Bool.false_eq_true, iff_false]
              exact observedLost_cancel_differ config settled settled
            · simp only [cancel, timeout, Bool.false_eq_true, if_false] at settled
              rw [observedLost_escaped _ config false settled,
                observedLost_escaped _ config false settled]
              simp [raisesThrough, notAsync, cancel, timeout]

theorem schedules_agree_iff (schedule : Schedule config Empty Unit) :
    (runAsync.passedWithContext config schedule.toScript).observed =
        (iterateAsync.passedWithContext config schedule.inGenerator.toScript).observed ↔
      schedule.sameRules config = true := by
  have timedOut_same : schedule.inGenerator.timedOut config = schedule.timedOut config := by
    change (config.timeout.isSome && schedule.toScript.inGenerator.finished .deadline) = _
    rw [inGenerator_finished]
    rfl
  cases fate : schedule.work with
  | won body =>
      have generated : schedule.inGenerator.work = .won (generatorBody body) := by
        change schedule.work.inGenerator = _
        rw [fate]
        rfl
      rw [observed_won _ schedule fate, observed_won _ schedule.inGenerator generated,
        won_agree_iff]
      simp [Script.sameRules, fate]
  | lost reaction =>
      have generated : schedule.inGenerator.work = .lost reaction.inGenerator := by
        change schedule.work.inGenerator = _
        rw [fate]
        rfl
      have interrupted_same : schedule.inGenerator.interrupted = schedule.interrupted := rfl
      rw [observed_lost _ schedule fate, observed_lost _ schedule.inGenerator generated,
        timedOut_same]
      simp only [Script.awaitLoser, fate, generated, interrupted_same, Script.sameRules]
      cases timedOut : schedule.timedOut config with
      | true =>
          simp only [if_true]
          cases interrupted : schedule.interrupted with
          | true =>
              have awaited : ∀ reaction : Reaction Unit,
                  reaction.awaitBounded true = .raised asyncioCancelled := by
                rintro (⟨inGrace, body⟩ | _)
                · cases inGrace <;> rfl
                · rfl
              rw [awaited, awaited]
              simp only [Bool.true_or, iff_true]
              exact observedLost_deadline config _
          | false =>
              cases reaction with
              | never => simpa [Reaction.inGenerator] using observedLost_deadline config _
              | ends inGrace body =>
                  cases inGrace with
                  | false =>
                      simpa [Reaction.inGenerator, Reaction.awaitBounded] using
                        observedLost_deadline config _
                  | true =>
                      simpa [Reaction.inGenerator, Reaction.awaitBounded] using
                        deadline_agree_iff config body
      | false =>
          simp only [Bool.false_eq_true, if_false]
          cases reaction with
          | never => simp only [iff_true]; rfl
          | ends inGrace body =>
              cases interrupted : schedule.interrupted with
              | true =>
                  simp only [Bool.not_true, Bool.false_and, Bool.false_eq_true, iff_false]
                  exact observedLost_cancel_differ config settleLoser_cancelled
                    settleLoser_cancelled
              | false =>
                  simpa [Reaction.inGenerator, Reaction.awaitUnbounded] using
                    cancel_agree_iff config body

/-- The two functions follow the same rules exactly where no cancellation is delivered and
the deciding body raises no StopAsyncIteration: a refused call is refused by both. -/
theorem submissions_agree_iff (call : Call) (course : Course call.config) :
    SubmissionsAgree call course ↔ call.sameRules course = true := by
  simp only [SubmissionsAgree, runAsyncSharingContext, iterateAsyncSharingContext,
    Flavour.submit]
  by_cases negative : call.timeout.any Timeout.negative = true
  · cases course <;> simp [negative, observed, Call.sameRules]
  · by_cases cancelled : call.ambient = some true
    · cases course <;> simp [negative, cancelled, observed, Call.sameRules]
    · cases closed : call.loopClosed with
      | true => cases course <;> simp [negative, cancelled, closed, observed, Call.sameRules]
      | false =>
          simp only [negative, cancelled, Bool.false_eq_true, if_false]
          cases course with
          | loopStopped => simp [observed, Course.inGenerator, Call.sameRules, Run.observed,
              Run.resolution]
          | raced schedule =>
              have schedules := schedules_agree_iff schedule
              simp only [observed, Course.inGenerator, Except.ok.injEq, Call.sameRules, negative,
                cancelled, closed, schedules]
              simp

def plainCall : Call := ⟨none, none, false, false⟩

/-- `cancel()` while the work waits, and the work lets the cancellation through. -/
def cancelledWait : Schedule plainCall.config Empty Unit where
  work := .lost (.ends true (.error (.of .asyncioCancelledError "")))
  fired racer := racer == .ownCancel
  order := [.work]
  completed _ := false
  interrupted := false
  racing := []
  unwinding := []
  leftover := []
  first_completed := ⟨.ownCancel, by decide, rfl⟩
  unfinished_order := by decide
  loop_runs exc won := by cases won

/-- One function raises `concurrent.futures.CancelledError`, the other koil's own. -/
theorem cancelled_submissions_differ :
    ¬ SubmissionsAgree plainCall (.raced cancelledWait) := by
  intro agree
  cases agree

end Koil.Race
