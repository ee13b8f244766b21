import Koil.Race

namespace Koil.Race

variable {ν α : Type}

theorem raiseEnd_of_raised {body : Except Exc α} {exc : Exc}
    (ended : TaskEnd.ofCoroutine body = .raised exc) (survives : exc.stopsLoop = false) :
    (raiseEnd exc : Option (TaskEnd α)) = some (.raised exc) := by
  have again : TaskEnd.ofCoroutine (.error exc : Except Exc α) = .raised exc :=
    ofCoroutine_idem ended
  simp [raiseEnd, survives, again]

def Flavour.cancellation (flavour : Flavour ν α) : FutureEnd α :=
  setConcurrentFutureState (.ofCoroutine (.error flavour.cancelError))

theorem cancellation_isCancellation (flavour : Flavour ν α) :
    flavour.cancellation.isCancellation = true := by
  rcases flavour.cancel_class with cls | cls <;>
    simp [Flavour.cancellation, Flavour.cancelError, cls, TaskEnd.ofCoroutine, Builtin.isA,
      Builtin.mro, setConcurrentFutureState, convertFutureExc, FutureEnd.isCancellation, Exc.of,
      Exc.isA]

theorem cancelError_survives (flavour : Flavour ν α) :
    flavour.cancelError.stopsLoop = false := by
  rcases flavour.cancel_class with cls | cls <;>
    simp [Flavour.cancelError, cls, Exc.stopsLoop, Builtin.isA, Builtin.mro]

theorem raiseEnd_cancelError (flavour : Flavour ν α) :
    (raiseEnd flavour.cancelError).map setConcurrentFutureState = some flavour.cancellation := by
  simp [raiseEnd, cancelError_survives, Flavour.cancellation]

theorem raiseEnd_timeoutError (flavour : Flavour ν α) (config : Config) (acknowledged : Bool) :
    (raiseEnd (flavour.timeoutError config acknowledged)).map setConcurrentFutureState =
      some (.exception (flavour.timeoutError config acknowledged) : FutureEnd α) := by
  simp [raiseEnd, Flavour.timeoutError, Exc.stopsLoop, TaskEnd.ofCoroutine, Builtin.isA,
    Builtin.mro, setConcurrentFutureState, convertFutureExc, Exc.of, Exc.isA]

/-- The future's state when `awaiting` is how the `await` of the losing work ended. -/
def Flavour.lostResolution (flavour : Flavour ν α) (config : Config) (timedOut : Bool)
    (awaiting : Awaited) : Option (FutureEnd α) :=
  match settleLoser awaiting with
  | .stuck => none
  | .escaped exc => (raiseEnd exc).map setConcurrentFutureState
  | .finished acknowledged =>
      if timedOut then some (.exception (flavour.timeoutError config acknowledged))
      else some flavour.cancellation

theorem resolution_won (flavour : Flavour ν α) {config : Config} (schedule : Schedule config ν α)
    {body : Except Exc α} (fate : schedule.work = .won body) :
    (flavour.passedWithContext config schedule.toScript).resolution =
      some (setConcurrentFutureState (.ofCoroutine body)) := by
  have tidied := tidyUp_schedule schedule (schedule.timedOut config)
  simp only [fate] at tidied
  simp only [Flavour.passedWithContext, tidied, fate, Run.resolution]
  cases ended : TaskEnd.ofCoroutine body with
  | returned value => rfl
  | cancelled => rfl
  | raised exc =>
      have survives : exc.stopsLoop = false := by
        apply ofCoroutine_survives ended
        intro inner same
        exact schedule.loop_runs inner (by rw [fate, same])
      have raised := raiseEnd_of_raised ended survives
      dsimp only
      split <;> simp [raised]

theorem resolution_lost (flavour : Flavour ν α) {config : Config} (schedule : Schedule config ν α)
    {reaction : Reaction α} (fate : schedule.work = .lost reaction) :
    (flavour.passedWithContext config schedule.toScript).resolution =
      flavour.lostResolution config (schedule.timedOut config)
        (schedule.awaitLoser (schedule.timedOut config) .work) := by
  have tidied := tidyUp_schedule schedule (schedule.timedOut config)
  simp only [fate] at tidied
  simp only [Flavour.passedWithContext, tidied, Flavour.lostResolution, Run.resolution]
  cases settleLoser (schedule.awaitLoser (schedule.timedOut config) .work) with
  | stuck => rfl
  | escaped exc => rfl
  | finished acknowledged =>
      simp only [fate]
      cases schedule.timedOut config with
      | true => exact raiseEnd_timeoutError flavour config acknowledged
      | false => exact raiseEnd_cancelError flavour

/-- What the verdict of the race owes the future: the work's own end if the work
was among the finished, else the timeout if the deadline was, in the form that
says whether the work had ended with its grace, else the cancellation. -/
def Flavour.Owed (flavour : Flavour ν α) (config : Config) (script : Script ν α)
    (future : FutureEnd α) : Prop :=
  match script.work with
  | .won body =>
      match TaskEnd.ofCoroutine body with
      | .returned value => future = .result value
      | .raised exc => future = .exception exc
      | .cancelled => future = .cancelled
  | .lost _ =>
      if script.timedOut config then
        future = .exception (flavour.timeoutError config (!script.unfinishedAfterGrace))
      else future.isCancellation = true ∧ future = flavour.cancellation

/-- Schedules under which the verdict decides: work that wins does not end with an
exception asyncio replaces; work that loses to the deadline and ends in its grace
raises nothing, unless the wait for it is cancelled, and that happens to no work
which is still running; work that loses to a cancel event ends, and not with an
exception of its own, unless the wait for it is cancelled. -/
def Flavour.keepsVerdict (flavour : Flavour ν α) (config : Config) (script : Script ν α) : Bool :=
  match script.work with
  | .won body =>
      match TaskEnd.ofCoroutine body with
      | .raised exc => !exc.isConverted
      | _ => true
  | .lost reaction =>
      if script.timedOut config then
        match reaction with
        | .ends true body =>
            script.interrupted ||
              match TaskEnd.ofCoroutine body with
              | .raised _ => false
              | _ => true
        | _ => !script.interrupted
      else
        match reaction with
        | .never => false
        | .ends _ body =>
            script.interrupted ||
              match TaskEnd.ofCoroutine body with
              | .raised exc => exc.isA .timeoutError || decide (exc = flavour.cancelError)
              | _ => true

/-- The future resolves, and as the verdict of the race says. -/
def Flavour.VerdictHolds (flavour : Flavour ν α) (config : Config) (script : Script ν α) : Prop :=
  ∃ future, (flavour.passedWithContext config script).resolution = some future ∧
    flavour.Owed config script future

theorem settleLoser_cancelled : settleLoser (.raised asyncioCancelled) = .finished true := rfl

/-- An exception of the unwinding work either counts as a missing
acknowledgement or leaves the loop over `unfinished`. -/
theorem settleLoser_raised {body : Except Exc α} {exc : Exc}
    (ended : TaskEnd.ofCoroutine body = .raised exc) :
    settleLoser (.raised exc) =
      if exc.isA .timeoutError then .finished false else .escaped exc := by
  have notCancel := ofCoroutine_raised_not_cancelled ended
  simp [settleLoser, notCancel]

theorem won_verdict_iff (flavour : Flavour ν α) {config : Config}
    (schedule : Schedule config ν α) {body : Except Exc α} (fate : schedule.work = .won body) :
    flavour.VerdictHolds config schedule.toScript ↔
      flavour.keepsVerdict config schedule.toScript = true := by
  have resolved := resolution_won flavour schedule fate
  simp only [Flavour.VerdictHolds, resolved, Flavour.Owed, Flavour.keepsVerdict, fate]
  cases TaskEnd.ofCoroutine body with
  | returned value => simp [setConcurrentFutureState]
  | cancelled => simp [setConcurrentFutureState]
  | raised exc => simp [setConcurrentFutureState, convertFutureExc_eq_iff]

theorem timeoutError_inj (flavour : Flavour ν α) (config : Config) (first second : Bool) :
    flavour.timeoutError config first = flavour.timeoutError config second ↔ first = second := by
  have differ := flavour.timeoutText_inj (config.timeout.getD "None")
  cases first <;> cases second <;>
    simp [Flavour.timeoutError, Exc.of, differ, Ne.symm differ]

theorem convert_ne_timeoutError (flavour : Flavour ν α) (config : Config) (acknowledged : Bool)
    (exc : Exc) (other : exc.isA .timeoutError = false) :
    convertFutureExc exc ≠ flavour.timeoutError config acknowledged := by
  intro same
  rcases exc with ⟨cls, args⟩
  cases cls with
  | user cls => simp [convertFutureExc, Flavour.timeoutError, Exc.of] at same
  | library cls =>
      cases cls <;> simp_all [convertFutureExc, Flavour.timeoutError, Exc.of, Exc.isA,
        Builtin.isA, Builtin.mro]

theorem escaped_not_timeout (flavour : Flavour ν α) (config : Config) (acknowledged : Bool)
    {body : Except Exc α} {exc : Exc} (ended : TaskEnd.ofCoroutine body = .raised exc)
    (other : exc.isA .timeoutError = false) :
    (raiseEnd exc).map setConcurrentFutureState ≠
      some (.exception (flavour.timeoutError config acknowledged) : FutureEnd α) := by
  by_cases survives : exc.stopsLoop = false
  · rw [raiseEnd_of_raised ended survives]
    have differ := convert_ne_timeoutError flavour config acknowledged exc other
    simpa [setConcurrentFutureState] using differ
  · simp [raiseEnd, survives]

theorem deadline_verdict_iff (flavour : Flavour ν α) {config : Config}
    (schedule : Schedule config ν α) {reaction : Reaction α}
    (fate : schedule.work = .lost reaction) (timedOut : schedule.timedOut config = true) :
    flavour.VerdictHolds config schedule.toScript ↔
      flavour.keepsVerdict config schedule.toScript = true := by
  have resolved := resolution_lost flavour schedule fate
  simp only [Script.awaitLoser, fate, timedOut, if_true] at resolved
  simp only [Flavour.VerdictHolds, resolved, Flavour.Owed, Flavour.keepsVerdict, fate, timedOut,
    if_true, Script.unfinishedAfterGrace]
  cases interrupted : schedule.interrupted with
  | true =>
      have awaited : reaction.awaitBounded true = .raised asyncioCancelled := by
        cases reaction with
        | ends inGrace body => cases inGrace <;> rfl
        | never => rfl
      -- the form says `it was cancelled`, also of work that is still running
      have differ := timeoutError_inj flavour config true false
      rw [awaited]
      cases reaction with
      | ends inGrace body =>
          cases inGrace <;> simp [Flavour.lostResolution, settleLoser_cancelled, differ]
      | never => simp [Flavour.lostResolution, settleLoser_cancelled, differ]
  | false =>
      cases reaction with
      | never =>
          simp [Reaction.awaitBounded, Flavour.lostResolution, settleLoser, Builtin.isA,
            Builtin.mro]
      | ends inGrace body =>
          cases inGrace with
          | false =>
              simp [Reaction.awaitBounded, Flavour.lostResolution, settleLoser, Builtin.isA,
                Builtin.mro]
          | true =>
              simp only [Reaction.awaitBounded, Flavour.lostResolution]
              cases ended : TaskEnd.ofCoroutine body with
              | returned value => simp [awaitEnd, TaskEnd.get, settleLoser]
              | cancelled =>
                  simp [awaitEnd, TaskEnd.get, settleLoser, Builtin.isA, Builtin.mro]
              | raised exc =>
                  have settled := settleLoser_raised ended
                  simp only [awaitEnd, TaskEnd.get, Bool.false_eq_true, if_false, settled]
                  by_cases timeout : exc.isA .timeoutError = true
                  · have differ := timeoutError_inj flavour config false true
                    simp [timeout, differ]
                  · have other : exc.isA .timeoutError = false := by simpa using timeout
                    have escaped := escaped_not_timeout flavour config true ended other
                    simp only [other, Bool.false_eq_true, if_false]
                    simpa using escaped

theorem escaped_not_cancellation (flavour : Flavour ν α) {body : Except Exc α} {exc : Exc}
    (ended : TaskEnd.ofCoroutine body = .raised exc) :
    (raiseEnd exc).map setConcurrentFutureState = some flavour.cancellation ↔
      exc = flavour.cancelError := by
  have notCancel := ofCoroutine_raised_not_cancelled ended
  by_cases stops : exc.stopsLoop = true
  · have differ : exc ≠ flavour.cancelError := by
      rintro rfl
      rw [cancelError_survives] at stops
      cases stops
    simp [raiseEnd, stops, differ]
  have survives : exc.stopsLoop = false := by simpa using stops
  rw [raiseEnd_of_raised ended survives]
  rcases flavour.cancel_class with cls | cls
  · have own : flavour.cancelError.isA .asyncioCancelledError = true := by
      simp [Flavour.cancelError, cls, Builtin.isA, Builtin.mro]
    have differ : exc ≠ flavour.cancelError := by
      intro same
      rw [same, own] at notCancel
      cases notCancel
    have cancelled : flavour.cancellation = (.cancelled : FutureEnd α) := by
      simp [Flavour.cancellation, setConcurrentFutureState, TaskEnd.ofCoroutine,
        Flavour.cancelError, cls, Builtin.isA, Builtin.mro]
    rw [cancelled]
    simp [setConcurrentFutureState, differ]
  · have own : flavour.cancellation = (.exception flavour.cancelError : FutureEnd α) := by
      simp [Flavour.cancellation, Flavour.cancelError, cls, TaskEnd.ofCoroutine, Builtin.isA,
        Builtin.mro, setConcurrentFutureState, convertFutureExc, Exc.of, Exc.isA]
    rw [own]
    simp only [Option.map_some, setConcurrentFutureState, Option.some.injEq,
      FutureEnd.exception.injEq]
    rcases exc with ⟨excCls, args⟩
    cases excCls with
    | user user => simp [convertFutureExc]
    | library library =>
        cases library <;> simp [convertFutureExc, Flavour.cancelError, cls, Exc.of]

theorem cancel_verdict_iff (flavour : Flavour ν α) {config : Config}
    (schedule : Schedule config ν α) {reaction : Reaction α}
    (fate : schedule.work = .lost reaction) (inTime : schedule.timedOut config = false) :
    flavour.VerdictHolds config schedule.toScript ↔
      flavour.keepsVerdict config schedule.toScript = true := by
  have resolved := resolution_lost flavour schedule fate
  simp only [Script.awaitLoser, fate, inTime, Bool.false_eq_true, if_false] at resolved
  simp only [Flavour.VerdictHolds, resolved, Flavour.Owed, Flavour.keepsVerdict, fate, inTime,
    Bool.false_eq_true, if_false]
  have cancellation := cancellation_isCancellation flavour
  cases reaction with
  | never => simp [Reaction.awaitUnbounded, Flavour.lostResolution, settleLoser]
  | ends inGrace body =>
      simp only [Reaction.awaitUnbounded, Flavour.lostResolution]
      cases interrupted : schedule.interrupted with
      | true => simp [settleLoser_cancelled, cancellation]
      | false =>
          cases ended : TaskEnd.ofCoroutine body with
          | returned value => simp [awaitEnd, TaskEnd.get, settleLoser, cancellation]
          | cancelled =>
              simp [awaitEnd, TaskEnd.get, settleLoser, Builtin.isA, Builtin.mro, cancellation]
          | raised exc =>
              have settled := settleLoser_raised ended
              simp only [awaitEnd, TaskEnd.get, Bool.false_eq_true, if_false, settled]
              by_cases timeout : exc.isA .timeoutError = true
              · simp [timeout, cancellation]
              · have other : exc.isA .timeoutError = false := by simpa using timeout
                have escaped := escaped_not_cancellation flavour ended
                simp only [other, Bool.false_eq_true, if_false, Bool.false_or,
                  decide_eq_true_eq]
                rw [← escaped]
                constructor
                · rintro ⟨future, resolves, _, rfl⟩
                  exact resolves
                · intro resolves
                  exact ⟨flavour.cancellation, resolves, cancellation, rfl⟩

theorem verdict_iff (flavour : Flavour ν α) (config : Config) (schedule : Schedule config ν α) :
    flavour.VerdictHolds config schedule.toScript ↔
      flavour.keepsVerdict config schedule.toScript = true := by
  cases fate : schedule.work with
  | won body => exact won_verdict_iff flavour schedule fate
  | lost reaction =>
      cases timedOut : schedule.timedOut config with
      | true => exact deadline_verdict_iff flavour schedule fate timedOut
      | false => exact cancel_verdict_iff flavour schedule fate timedOut

/-- Both functions let the verdict of the race alone decide exactly on the
schedules whose user code is clean in the sense of `keepsVerdict`. -/
theorem race_verdict_decides_iff (ν α : Type) (config : Config) :
    (∀ schedule : Schedule config Empty α,
      runAsync.VerdictHolds config schedule.toScript ↔
        runAsync.keepsVerdict config schedule.toScript = true) ∧
    (∀ schedule : Schedule config ν α,
      iterateAsync.VerdictHolds config schedule.toScript ↔
        iterateAsync.keepsVerdict config schedule.toScript = true) :=
  ⟨fun schedule => verdict_iff runAsync config schedule,
    fun schedule => verdict_iff iterateAsync config schedule⟩

/-- The own cancel event fires, and the coroutine raises a ValueError from a
`finally` block while it unwinds. -/
def raisingUnwind : Script Empty Nat where
  work := .lost (.ends true (.error (.of .valueError "cleanup failed")))
  fired racer := racer == .ownCancel
  order := [.work]
  completed _ := false
  interrupted := false
  racing := []
  unwinding := []
  leftover := []

def raisingUnwindSchedule : Schedule ⟨false, none, false⟩ Empty Nat where
  toScript := raisingUnwind
  first_completed := ⟨.ownCancel, by decide, rfl⟩
  unfinished_order := by decide
  loop_runs exc won := by cases won

/-- The exception of the losing work replaces the cancellation. -/
theorem race_verdict_replaced :
    ¬ ∀ (config : Config) (schedule : Schedule config Empty Nat),
      runAsync.VerdictHolds config schedule.toScript := by
  intro holds
  obtain ⟨future, resolves, owed, _⟩ := holds _ raisingUnwindSchedule
  have actual : (runAsync.passedWithContext ⟨false, none, false⟩ raisingUnwind).resolution =
      some (.exception (.of .valueError "cleanup failed")) := by rfl
  have same : future = .exception (.of .valueError "cleanup failed") := by
    exact Option.some.inj (resolves.symm.trans actual)
  subst same
  simp [FutureEnd.isCancellation, Builtin.isA, Builtin.mro] at owed

end Koil.Race
