import Koil.RaceVerdict

/-! A submission, `run_async_sharing_context` and then `result()`, of a coroutine that ends
before any other racer or that is cancelled because another one was done first. -/

namespace Koil.Race

variable {V : Type}

structure Waiters (config : Config) where
  fired : Racer → Bool
  order : List Racer
  completed : Racer → Bool
  unfinished_order :
    order.Perm (config.race.filter (fun racer => !(racer == .work || fired racer)))

def Waiters.idle (config : Config) : Waiters config where
  fired _ := false
  order := config.race.filter (fun racer => !(racer == .work || false))
  completed _ := false
  unfinished_order := List.Perm.refl _

def Waiters.script {config : Config} (waiters : Waiters config) (body : Except Exc V) :
    Script Empty V where
  work := .won body
  fired := waiters.fired
  order := waiters.order
  completed := waiters.completed
  interrupted := false
  racing := []
  unwinding := []
  leftover := []

/-- `run_async_sharing_context(...)` followed by `future.result()` for a
coroutine that ends as `body`; `none` would be a wait without end. A coroutine
which stops the loop has its future cancelled by the shutdown. -/
def submittedResult {config : Config} (waiters : Waiters config) (body : Except Exc V) :
    Option (Except Exc V) :=
  match body with
  | .ok _ => (runAsync.passedWithContext config (waiters.script body)).resolution.map FutureEnd.get
  | .error exc =>
      if exc.stopsLoop then some FutureEnd.cancelled.get
      else (runAsync.passedWithContext config (waiters.script body)).resolution.map FutureEnd.get

def Waiters.schedule {config : Config} (waiters : Waiters config) (body : Except Exc V)
    (survives : ∀ exc, body = .error exc → exc.stopsLoop = false) : Schedule config Empty V where
  toScript := waiters.script body
  first_completed := ⟨.work, work_mem_race config, rfl⟩
  unfinished_order := by
    have same : (fun racer => !(waiters.script body).finished racer) =
        (fun racer => !(racer == .work || waiters.fired racer)) := by
      funext racer
      cases racer <;> simp [Script.finished, Waiters.script]
    rw [same]
    exact waiters.unfinished_order
  loop_runs exc won := by
    cases won
    exact survives exc rfl

/-- The waiters of a race that one of the cancel events wins. The waiter of an event bound to
another loop is done at once: its `wait()` raises a RuntimeError. -/
structure Losing (config : Config) where
  fired : Racer → Bool
  order : List Racer
  completed : Racer → Bool
  inGrace : Bool
  cancels : ∃ racer ∈ config.race, racer ≠ .work ∧ fired racer = true
  inTime : (config.timeout.isSome && fired .deadline) = false
  unfinished_order :
    order.Perm (config.race.filter (fun racer => racer == .work || !fired racer))

def Losing.own (config : Config) : Losing config where
  fired racer := racer == .ownCancel
  order := config.race.filter fun racer => racer == .work || !(racer == .ownCancel)
  completed _ := false
  inGrace := true
  cancels := ⟨.ownCancel, by simp [Config.race], by decide, rfl⟩
  inTime := by cases config.timeout <;> rfl
  unfinished_order := List.Perm.refl _

def Losing.script {config : Config} (losing : Losing config) (body : Except Exc V) :
    Script Empty V where
  work := .lost (.ends losing.inGrace body)
  fired := losing.fired
  order := losing.order
  completed := losing.completed
  interrupted := false
  racing := []
  unwinding := []
  leftover := []

/-- The same for a coroutine that loses the race, and ends as `body` once it is cancelled. -/
def lostResult {config : Config} (losing : Losing config) (body : Except Exc V) :
    Option (Except Exc V) :=
  match body with
  | .ok _ => (runAsync.passedWithContext config (losing.script body)).resolution.map FutureEnd.get
  | .error exc =>
      if exc.stopsLoop then some FutureEnd.cancelled.get
      else (runAsync.passedWithContext config (losing.script body)).resolution.map FutureEnd.get

/-- What `passed_with_context` raises when the cancelled coroutine has ended as `body`: its
own exception, unless that passes for the cancellation that was asked for. -/
def unwound (body : Except Exc V) : Exc :=
  match body with
  | .ok _ => asyncioCancelled
  | .error exc =>
      if exc.stopsLoop then exc
      else
        match settleLoser (awaitEnd (.ofCoroutine body)) with
        | .escaped seen => seen
        | _ => asyncioCancelled

/-- An exception as it reaches the caller of `future.result()`. -/
def crossed (exc : Exc) : Exc :=
  if exc.stopsLoop then .of .futuresCancelledError ""
  else
    match (setConcurrentFutureState (.ofCoroutine (.error exc : Except Exc Unit))).get with
    | .ok _ => exc
    | .error seen => seen

theorem submittedResult_eq {config : Config} (waiters : Waiters config) (body : Except Exc V) :
    submittedResult waiters body = some (body.mapError crossed) := by
  cases body with
  | ok value =>
      have resolved := resolution_won runAsync (waiters.schedule (.ok value) (by simp)) rfl
      simp only [submittedResult]
      change Option.map _ (runAsync.passedWithContext config
        (waiters.schedule (.ok value) (by simp)).toScript).resolution = _
      rw [resolved]
      rfl
  | error exc =>
      by_cases stops : exc.stopsLoop = true
      · simp [submittedResult, crossed, stops, FutureEnd.get, Except.mapError]
      · have survives : exc.stopsLoop = false := by simpa using stops
        have resolved := resolution_won runAsync
          (waiters.schedule (.error exc : Except Exc V) (by simpa using survives)) rfl
        simp only [submittedResult, survives, Bool.false_eq_true, if_false]
        change Option.map _ (runAsync.passedWithContext config
          (waiters.schedule (.error exc : Except Exc V)
            (by simpa using survives)).toScript).resolution = _
        rw [resolved]
        simp only [Option.map_some, Except.mapError, crossed, survives, Bool.false_eq_true,
          if_false]
        simp only [TaskEnd.ofCoroutine]
        split
        · rfl
        · split <;> rfl

def Losing.schedule {config : Config} (losing : Losing config) (body : Except Exc V) :
    Schedule config Empty V where
  toScript := losing.script body
  first_completed := by
    obtain ⟨racer, races, notWork, fired⟩ := losing.cancels
    refine ⟨racer, races, ?_⟩
    cases racer with
    | work => exact absurd rfl notWork
    | ownCancel | ambientCancel | deadline => exact fired
  unfinished_order := by
    have same : (fun racer => !(losing.script body).finished racer) =
        (fun racer => racer == .work || !losing.fired racer) := by
      funext racer
      cases racer <;> simp [Script.finished, Losing.script]
    rw [same]
    exact losing.unfinished_order
  loop_runs exc won := by cases won

/-- The exceptions that reach the caller as they are. -/
def crossesWhole (exc : Exc) : Bool :=
  !exc.isA .stopIteration && !exc.isA .asyncioCancelledError && !exc.isConverted && !exc.stopsLoop

theorem crossed_stops (exc : Exc) (stops : exc.stopsLoop = true) :
    crossed exc = .of .futuresCancelledError "" := by
  simp [crossed, stops]

theorem crossed_stopIteration (exc : Exc) (survives : exc.stopsLoop = false)
    (stop : exc.isA .stopIteration = true) :
    crossed exc = .of .runtimeError "coroutine raised StopIteration" := by
  simp only [crossed, survives, Bool.false_eq_true, if_false, TaskEnd.ofCoroutine, stop, if_true]
  rfl

theorem crossed_cancelled (exc : Exc) (survives : exc.stopsLoop = false)
    (notStop : exc.isA .stopIteration = false) (cancel : exc.isA .asyncioCancelledError = true) :
    crossed exc = .of .futuresCancelledError "" := by
  simp [crossed, survives, TaskEnd.ofCoroutine, notStop, cancel, setConcurrentFutureState,
    FutureEnd.get]

theorem crossed_raised (exc : Exc) (survives : exc.stopsLoop = false)
    (notStop : exc.isA .stopIteration = false)
    (notCancel : exc.isA .asyncioCancelledError = false) :
    crossed exc = convertFutureExc exc := by
  simp [crossed, survives, ofCoroutine_raise exc notStop notCancel, setConcurrentFutureState,
    FutureEnd.get]

theorem crossed_ended {body : Except Exc V} {exc : Exc}
    (ended : TaskEnd.ofCoroutine body = .raised exc) (survives : exc.stopsLoop = false) :
    crossed exc = convertFutureExc exc := by
  have notCancel := ofCoroutine_raised_not_cancelled ended
  have again : TaskEnd.ofCoroutine (.error exc : Except Exc V) = .raised exc :=
    ofCoroutine_idem ended
  cases stop : exc.isA .stopIteration with
  | false => exact crossed_raised exc survives stop notCancel
  | true =>
      simp only [TaskEnd.ofCoroutine, stop, if_true, TaskEnd.raised.injEq] at again
      rw [← again] at stop
      cases stop

theorem unwound_survives {body : Except Exc V}
    (survives : ∀ exc, body = .error exc → exc.stopsLoop = false) :
    (unwound body).stopsLoop = false := by
  cases body with
  | ok value => rfl
  | error exc =>
      have lives := survives exc rfl
      simp only [unwound, lives, Bool.false_eq_true, if_false]
      cases ended : TaskEnd.ofCoroutine (.error exc : Except Exc V) with
      | returned value => rfl
      | cancelled => rfl
      | raised seen =>
          simp only [awaitEnd, TaskEnd.get, settleLoser_raised ended]
          cases seen.isA .timeoutError with
          | true => rfl
          | false => exact ofCoroutine_survives ended survives

theorem resolution_losing {config : Config} (losing : Losing config) (body : Except Exc V) :
    (runAsync.passedWithContext config (losing.script body)).resolution =
      runAsync.lostResolution config false (awaitEnd (.ofCoroutine body)) := by
  have lost := resolution_lost runAsync (losing.schedule body) rfl
  have inTime : (losing.schedule body).timedOut config = false := losing.inTime
  rw [inTime] at lost
  exact lost

theorem lostResult_eq {config : Config} (losing : Losing config) (body : Except Exc V) :
    lostResult losing body = some (.error (crossed (unwound body))) := by
  cases body with
  | ok value =>
      simp only [lostResult, resolution_losing]
      rfl
  | error exc =>
      by_cases stops : exc.stopsLoop = true
      · simp [lostResult, unwound, stops, crossed_stops exc stops, FutureEnd.get]
      have survives : exc.stopsLoop = false := by simpa using stops
      simp only [lostResult, resolution_losing, unwound, survives, Bool.false_eq_true, if_false]
      cases ended : TaskEnd.ofCoroutine (.error exc : Except Exc V) with
      | returned value => rfl
      | cancelled => rfl
      | raised seen =>
          simp only [awaitEnd, TaskEnd.get, Flavour.lostResolution, settleLoser_raised ended]
          cases timeout : seen.isA .timeoutError with
          | true => rfl
          | false =>
              have lives : seen.stopsLoop = false :=
                ofCoroutine_survives ended fun inner same => by
                  rw [← Except.error.inj same]
                  exact survives
              simp only [Bool.false_eq_true, if_false, raiseEnd_of_raised ended lives,
                crossed_ended ended lives]
              rfl

theorem crossed_eq_iff (exc : Exc) : crossed exc = exc ↔ crossesWhole exc = true := by
  -- a replaced exception is of a class that is not replaced
  have replaced : ∀ (cls parent : Builtin) (args : String), cls.isA parent = false →
      exc.isA parent = true → crossed exc = .of cls args → crossed exc ≠ exc := by
    intro cls parent args other isParent value same
    rw [← same, value, isA_of, other] at isParent
    cases isParent
  by_cases stops : exc.stopsLoop = true
  · have value := crossed_stops exc stops
    have differ : crossed exc ≠ exc := by
      rcases Bool.or_eq_true _ _ ▸ stops with interrupt | exit
      · exact replaced _ .keyboardInterrupt _ rfl interrupt value
      · exact replaced _ .systemExit _ rfl exit value
    simp [differ, crossesWhole, stops]
  · have survives : exc.stopsLoop = false := by simpa using stops
    by_cases stop : exc.isA .stopIteration = true
    · have value := crossed_stopIteration exc survives stop
      have differ := replaced _ .stopIteration _ rfl stop value
      simp [differ, crossesWhole, stop]
    · have notStop : exc.isA .stopIteration = false := by simpa using stop
      by_cases cancel : exc.isA .asyncioCancelledError = true
      · have value := crossed_cancelled exc survives notStop cancel
        have differ := replaced _ .asyncioCancelledError _ rfl cancel value
        simp [differ, crossesWhole, cancel]
      · have notCancel : exc.isA .asyncioCancelledError = false := by simpa using cancel
        rw [crossed_raised exc survives notStop notCancel, convertFutureExc_eq_iff]
        simp [crossesWhole, notStop, notCancel, survives]

theorem crossed_not_stop {exc : Exc} (notEnd : exc.isA .stopAsyncIteration = false) :
    (crossed exc).isA .stopAsyncIteration = false := by
  by_cases stops : exc.stopsLoop = true
  · rw [crossed_stops exc stops]
    rfl
  · have survives : exc.stopsLoop = false := by simpa using stops
    by_cases stop : exc.isA .stopIteration = true
    · rw [crossed_stopIteration exc survives stop]
      rfl
    · have notStop : exc.isA .stopIteration = false := by simpa using stop
      by_cases cancel : exc.isA .asyncioCancelledError = true
      · rw [crossed_cancelled exc survives notStop cancel]
        rfl
      · have notCancel : exc.isA .asyncioCancelledError = false := by simpa using cancel
        rw [crossed_raised exc survives notStop notCancel]
        unfold convertFutureExc
        split <;> first | rfl | exact notEnd

end Koil.Race
