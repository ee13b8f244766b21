import Koil.RaceVerdict

/-! The signals of a race: `next` any number of times, then one terminal signal. -/

namespace Koil.Race

variable {ν α : Type}

/-- The three ways a future can resolve that have a terminal signal of their own. -/
inductive Kind
  | result
  | cancellation
  | error
  deriving DecidableEq, Repr

def kindOf (future : FutureEnd α) : Kind :=
  match future with
  | .result _ => .result
  | .exception _ => if future.isCancellation then .cancellation else .error
  | .cancelled => .cancellation

def Signal.reports : Signal ν α → Option Kind
  | .next _ => none
  | .returned _ => some .result
  | .done => some .result
  | .errored _ => some .error
  | .cancelled _ => some .cancellation

/-- The future resolves, and the emitted signals are `next` signals and then one
terminal signal, the one for the way the future resolves. -/
def Flavour.SignalsWell (flavour : Flavour ν α) (config : Config) (script : Script ν α) : Prop :=
  ∃ (nexts : List ν) (terminal : Signal ν α) (future : FutureEnd α),
    (flavour.passedWithContext config script).emitted = nexts.map .next ++ [terminal] ∧
    (flavour.passedWithContext config script).resolution = some future ∧
    terminal.reports = some (kindOf future)

/-- Schedules that let the protocol be kept: winning work does not end cancelled
nor with an exception that is false or is koil's or the futures' CancelledError;
work that loses to the deadline ends in its grace with a value, cancelled or with
a TimeoutError, or emits nothing after it; work that loses to a cancel event ends
in one of these ways. How it ends is left open where the wait for it is cancelled. -/
def Flavour.keepsProtocol (_ : Flavour ν α) (config : Config) (script : Script ν α) : Bool :=
  match script.work with
  | .won body =>
      match TaskEnd.ofCoroutine body with
      | .returned _ => true
      | .cancelled => false
      | .raised exc =>
          exc.truthy && !exc.isA .koilCancelledError &&
            !decide (exc.cls = .library .futuresCancelledError)
  | .lost reaction =>
      if script.timedOut config then
        match reaction with
        | .ends true body =>
            script.interrupted ||
              match TaskEnd.ofCoroutine body with
              | .raised exc => exc.isA .timeoutError
              | _ => true
        | _ => script.leftover.isEmpty
      else
        match reaction with
        | .never => false
        | .ends _ body =>
            script.interrupted ||
              match TaskEnd.ofCoroutine body with
              | .raised exc => exc.isA .timeoutError
              | _ => true

theorem no_terminal_last (emitted : List (Signal ν α)) (values : List ν) (nonempty : values ≠ [])
    (nexts : List ν) (terminal : Signal ν α) (kind : Kind)
    (reports : terminal.reports = some kind) :
    emitted ++ values.map .next ≠ nexts.map .next ++ [terminal] := by
  intro same
  have last := congrArg List.getLast? same
  rw [List.getLast?_append, List.getLast?_append] at last
  cases shown : values.getLast? with
  | none => exact nonempty (List.getLast?_eq_none_iff.mp shown)
  | some value =>
      have next : Signal.next value = terminal := by
        simpa [List.getLast?_map, shown] using last
      rw [← next] at reports
      cases reports

theorem nexts_only (values nexts : List ν) (terminal : Signal ν α) (kind : Kind)
    (reports : terminal.reports = some kind) :
    values.map .next ≠ nexts.map Signal.next ++ [terminal] := by
  cases values with
  | nil => simp
  | cons value rest =>
      have differ := no_terminal_last [] (value :: rest) (by simp) nexts terminal kind reports
      simpa using differ

theorem terminal_last (values nexts : List ν) (shown terminal : Signal ν α)
    (same : values.map .next ++ [shown] = nexts.map .next ++ [terminal]) : shown = terminal := by
  have last := congrArg List.getLast? same
  simpa using last

def Flavour.wonSignals (flavour : Flavour ν α) (done : TaskEnd α) : List (Signal ν α) :=
  match done with
  | .returned value => [flavour.success value]
  | .cancelled => []
  | .raised exc => if exc.truthy then [.errored exc] else []

theorem emitted_won (flavour : Flavour ν α) {config : Config} (schedule : Schedule config ν α)
    (given : config.signals = true) {body : Except Exc α} (fate : schedule.work = .won body) :
    (flavour.passedWithContext config schedule.toScript).emitted =
      schedule.racing.map .next ++ flavour.wonSignals (.ofCoroutine body) := by
  have tidied := tidyUp_schedule schedule (schedule.timedOut config)
  simp only [fate] at tidied
  simp only [Flavour.passedWithContext, tidied, fate, Config.emit, given, if_true,
    Flavour.wonSignals]
  cases TaskEnd.ofCoroutine body with
  | returned value => rfl
  | cancelled => simp
  | raised exc => by_cases truthy : exc.truthy = true <;> simp [truthy]

def Flavour.lostSignals (flavour : Flavour ν α) (config : Config) (script : Script ν α) :
    List (Signal ν α) :=
  match settleLoser (script.awaitLoser (script.timedOut config) .work) with
  | .stuck => []
  | .escaped _ => []
  | .finished acknowledged =>
      if script.timedOut config then
        .errored (flavour.timeoutError config acknowledged) ::
          (if script.unfinishedAfterGrace then script.leftover.map .next else [])
      else [.cancelled flavour.cancelError]

theorem emitted_lost (flavour : Flavour ν α) {config : Config} (schedule : Schedule config ν α)
    (given : config.signals = true) {reaction : Reaction α}
    (fate : schedule.work = .lost reaction) :
    (flavour.passedWithContext config schedule.toScript).emitted =
      (schedule.racing ++ schedule.unwinding).map .next ++
        flavour.lostSignals config schedule.toScript := by
  have tidied := tidyUp_schedule schedule (schedule.timedOut config)
  simp only [fate] at tidied
  simp only [Flavour.passedWithContext, tidied, Config.emit, given, if_true, Flavour.lostSignals,
    List.map_append]
  cases settleLoser (schedule.awaitLoser (schedule.timedOut config) .work) with
  | stuck => simp
  | escaped exc => simp
  | finished acknowledged =>
      simp only [fate]
      cases schedule.timedOut config <;> simp [List.append_assoc]

theorem silent_not_well (flavour : Flavour ν α) {config : Config} (script : Script ν α)
    (values : List ν)
    (emitted : (flavour.passedWithContext config script).emitted = values.map .next) :
    ¬ flavour.SignalsWell config script := by
  rintro ⟨nexts, terminal, future, shape, _, reports⟩
  exact nexts_only values nexts terminal _ reports (emitted.symm.trans shape)

theorem single_well_iff (flavour : Flavour ν α) {config : Config} (script : Script ν α)
    (values : List ν) (shown : Signal ν α) {future : FutureEnd α}
    (emitted : (flavour.passedWithContext config script).emitted = values.map .next ++ [shown])
    (resolved : (flavour.passedWithContext config script).resolution = some future) :
    flavour.SignalsWell config script ↔ shown.reports = some (kindOf future) := by
  constructor
  · rintro ⟨nexts, terminal, other, shape, resolves, reports⟩
    have last := terminal_last values nexts shown terminal (emitted.symm.trans shape)
    have same : future = other := Option.some.inj (resolved.symm.trans resolves)
    rw [last, same]
    exact reports
  · intro reports
    exact ⟨values, shown, future, emitted, resolved, reports⟩

/-- An exception reads as an error unless it is koil's CancelledError or the one
asyncio turns into its own. -/
theorem kindOf_raised {body : Except Exc α} {exc : Exc}
    (ended : TaskEnd.ofCoroutine body = .raised exc) :
    kindOf (.exception (convertFutureExc exc) : FutureEnd α) = .error ↔
      exc.isA .koilCancelledError = false ∧ exc.cls ≠ .library .futuresCancelledError := by
  have notCancel := ofCoroutine_raised_not_cancelled ended
  rcases exc with ⟨cls, args⟩
  cases cls with
  | user user =>
      simp only [kindOf, convertFutureExc, FutureEnd.isCancellation, notCancel, Bool.false_or]
      split <;> simp_all
  | library library =>
      cases library <;>
        simp_all [kindOf, convertFutureExc, FutureEnd.isCancellation, Exc.isA, Exc.of,
          Builtin.isA, Builtin.mro]

theorem won_signals_iff (flavour : Flavour ν α) {config : Config} (schedule : Schedule config ν α)
    (given : config.signals = true) {body : Except Exc α} (fate : schedule.work = .won body) :
    flavour.SignalsWell config schedule.toScript ↔
      flavour.keepsProtocol config schedule.toScript = true := by
  have emitted := emitted_won flavour schedule given fate
  have resolved := resolution_won flavour schedule fate
  simp only [Flavour.keepsProtocol, fate]
  cases ended : TaskEnd.ofCoroutine body with
  | returned value =>
      rw [ended] at emitted resolved
      rw [single_well_iff flavour schedule.toScript schedule.racing _ emitted resolved]
      rcases flavour.success_terminal value with success | success <;>
        simp [success, Signal.reports, setConcurrentFutureState, kindOf]
  | cancelled =>
      rw [ended] at emitted
      have silent := silent_not_well flavour schedule.toScript schedule.racing
        (by simpa [Flavour.wonSignals] using emitted)
      simpa using silent
  | raised exc =>
      rw [ended] at emitted resolved
      by_cases truthy : exc.truthy = true
      · have shown : (flavour.passedWithContext config schedule.toScript).emitted =
            schedule.racing.map .next ++ [.errored exc] := by
          simpa [Flavour.wonSignals, truthy] using emitted
        have kind := kindOf_raised ended
        rw [single_well_iff flavour schedule.toScript schedule.racing _ shown resolved]
        simp only [Signal.reports, Option.some.injEq, truthy, Bool.true_and, Bool.and_eq_true,
          Bool.not_eq_true', decide_eq_false_iff_not]
        rw [← kind]
        exact eq_comm
      · have silent := silent_not_well flavour schedule.toScript schedule.racing
          (by simpa [Flavour.wonSignals, truthy] using emitted)
        simpa [truthy] using silent

theorem timeout_reported (flavour : Flavour ν α) (config : Config) (acknowledged : Bool) :
    (Signal.errored (flavour.timeoutError config acknowledged) : Signal ν α).reports =
      some (kindOf (.exception (flavour.timeoutError config acknowledged) : FutureEnd α)) := by
  simp [Signal.reports, kindOf, FutureEnd.isCancellation, Flavour.timeoutError, Builtin.isA,
    Builtin.mro]

theorem cancellation_reported (flavour : Flavour ν α) :
    (Signal.cancelled flavour.cancelError : Signal ν α).reports =
      some (kindOf (flavour.cancellation : FutureEnd α)) := by
  have cancellation := cancellation_isCancellation flavour
  cases shown : flavour.cancellation with
  | result value => simp [shown, FutureEnd.isCancellation] at cancellation
  | exception exc =>
      rw [shown] at cancellation
      simp [Signal.reports, kindOf, cancellation]
  | cancelled => rfl

/-- Where nothing is emitted after the tidying up, the lost race has its signal exactly
when the loop over `unfinished` was finished. -/
theorem settled_signals_iff (flavour : Flavour ν α) {config : Config}
    (schedule : Schedule config ν α) (given : config.signals = true) {reaction : Reaction α}
    (fate : schedule.work = .lost reaction)
    (quiet : schedule.unfinishedAfterGrace = true → schedule.leftover = [] ∨
      schedule.timedOut config = false) :
    flavour.SignalsWell config schedule.toScript ↔
      ∃ acknowledged, settleLoser (schedule.awaitLoser (schedule.timedOut config) .work) =
        .finished acknowledged := by
  have emitted := emitted_lost flavour schedule given fate
  have resolved := resolution_lost flavour schedule fate
  simp only [Flavour.lostSignals, Flavour.lostResolution] at emitted resolved
  cases settled : settleLoser (schedule.awaitLoser (schedule.timedOut config) .work) with
  | stuck =>
      have silent := silent_not_well flavour schedule.toScript _
        (by simpa only [settled, List.append_nil] using emitted)
      simp [silent]
  | escaped exc =>
      have silent := silent_not_well flavour schedule.toScript _
        (by simpa only [settled, List.append_nil] using emitted)
      simp [silent]
  | finished acknowledged =>
      rw [settled] at emitted resolved
      simp only [Tidied.finished.injEq, exists_eq', iff_true]
      cases timedOut : schedule.timedOut config with
      | true =>
          have left : (if schedule.unfinishedAfterGrace then schedule.leftover.map .next
              else ([] : List (Signal ν α))) = [] := by
            split
            · next unfinished =>
                rcases quiet unfinished with nothing | inTime
                · rw [nothing, List.map_nil]
                · rw [timedOut] at inTime
                  cases inTime
            · rfl
          simp only [timedOut, if_true, left] at emitted resolved
          exact (single_well_iff flavour schedule.toScript _ _ emitted resolved).mpr
            (timeout_reported flavour config acknowledged)
      | false =>
          simp only [timedOut, Bool.false_eq_true, if_false] at emitted resolved
          exact (single_well_iff flavour schedule.toScript _ _ emitted resolved).mpr
            (cancellation_reported flavour)

/-- The wait for work that ends lets the loop over `unfinished` go on, unless the
work's own exception leaves it. -/
theorem settled_ended_iff (interrupted : Bool) (body : Except Exc α) :
    (∃ acknowledged, settleLoser
      (if interrupted then .raised asyncioCancelled else awaitEnd (.ofCoroutine body)) =
        .finished acknowledged) ↔
      (interrupted ||
        match TaskEnd.ofCoroutine body with
        | .raised exc => exc.isA .timeoutError
        | _ => true) = true := by
  cases interrupted with
  | true => simp [settleLoser_cancelled]
  | false =>
      cases ended : TaskEnd.ofCoroutine body with
      | returned value => simp [awaitEnd, TaskEnd.get, settleLoser]
      | cancelled => simp [awaitEnd, TaskEnd.get, settleLoser, Builtin.isA, Builtin.mro]
      | raised exc =>
          have settled := settleLoser_raised ended
          simp only [awaitEnd, TaskEnd.get, Bool.false_eq_true, if_false, settled,
            Bool.false_or]
          by_cases timeout : exc.isA .timeoutError = true <;> simp [timeout]

theorem overrun_settled (script : Script ν α) {reaction : Reaction α}
    (fate : script.work = .lost reaction) (outlasts : ∀ body, reaction ≠ .ends true body) :
    (∃ acknowledged, settleLoser (script.awaitLoser true .work) = .finished acknowledged) ∧
      script.unfinishedAfterGrace = true := by
  have awaited : script.awaitLoser true .work =
      if script.interrupted then .raised asyncioCancelled
      else .raised (.of .timeoutError "") := by
    cases reaction with
    | never => simp [Script.awaitLoser, fate, Reaction.awaitBounded]
    | ends inGrace body =>
        cases inGrace with
        | true => exact absurd rfl (outlasts body)
        | false => simp [Script.awaitLoser, fate, Reaction.awaitBounded]
  refine ⟨?_, ?_⟩
  · rw [awaited]
    cases script.interrupted with
    | true => exact ⟨true, rfl⟩
    | false => exact ⟨false, rfl⟩
  · cases reaction with
    | never => simp [Script.unfinishedAfterGrace, fate]
    | ends inGrace body =>
        cases inGrace with
        | true => exact absurd rfl (outlasts body)
        | false => simp [Script.unfinishedAfterGrace, fate]

/-- Once the wait is given up, the work may still emit: the timeout's signal is the
last one exactly when it does not. -/
theorem overrun_signals_iff (flavour : Flavour ν α) {config : Config}
    (schedule : Schedule config ν α) (given : config.signals = true) {reaction : Reaction α}
    (fate : schedule.work = .lost reaction) (timedOut : schedule.timedOut config = true)
    (outlasts : ∀ body, reaction ≠ .ends true body) :
    flavour.SignalsWell config schedule.toScript ↔ schedule.leftover.isEmpty = true := by
  obtain ⟨⟨acknowledged, settled⟩, unfinished⟩ :=
    overrun_settled schedule.toScript fate outlasts
  cases left : schedule.leftover with
  | nil =>
      rw [settled_signals_iff flavour schedule given fate (fun _ => .inl left), timedOut]
      simp [settled]
  | cons value rest =>
      have emitted := emitted_lost flavour schedule given fate
      simp only [Flavour.lostSignals, timedOut, if_true, settled, unfinished, left] at emitted
      simp only [List.isEmpty_cons, Bool.false_eq_true, iff_false]
      rintro ⟨nexts, terminal, future, shape, _, reports⟩
      have differ := no_terminal_last
        ((schedule.racing ++ schedule.unwinding).map .next ++
          [Signal.errored (flavour.timeoutError config acknowledged)])
        (value :: rest) (by simp) nexts terminal _ reports
      apply differ
      rw [← shape, emitted]
      simp

theorem deadline_signals_iff (flavour : Flavour ν α) {config : Config}
    (schedule : Schedule config ν α) (given : config.signals = true) {reaction : Reaction α}
    (fate : schedule.work = .lost reaction) (timedOut : schedule.timedOut config = true) :
    flavour.SignalsWell config schedule.toScript ↔
      flavour.keepsProtocol config schedule.toScript = true := by
  simp only [Flavour.keepsProtocol, fate, timedOut, if_true]
  cases reaction with
  | never => exact overrun_signals_iff flavour schedule given fate timedOut (by simp)
  | ends inGrace body =>
      cases inGrace with
      | false => exact overrun_signals_iff flavour schedule given fate timedOut (by simp)
      | true =>
          have finished : schedule.unfinishedAfterGrace = false := by
            simp [Script.unfinishedAfterGrace, fate]
          rw [settled_signals_iff flavour schedule given fate (by simp [finished]), timedOut]
          simp only [Script.awaitLoser, fate, if_true, Reaction.awaitBounded]
          exact settled_ended_iff schedule.interrupted body

theorem cancel_signals_iff (flavour : Flavour ν α) {config : Config}
    (schedule : Schedule config ν α) (given : config.signals = true) {reaction : Reaction α}
    (fate : schedule.work = .lost reaction) (inTime : schedule.timedOut config = false) :
    flavour.SignalsWell config schedule.toScript ↔
      flavour.keepsProtocol config schedule.toScript = true := by
  rw [settled_signals_iff flavour schedule given fate (fun _ => .inr inTime), inTime]
  simp only [Flavour.keepsProtocol, fate, inTime, Bool.false_eq_true, if_false,
    Script.awaitLoser]
  cases reaction with
  | never => simp [Reaction.awaitUnbounded, settleLoser]
  | ends inGrace body => exact settled_ended_iff schedule.interrupted body

theorem signals_iff (flavour : Flavour ν α) (config : Config) (given : config.signals = true)
    (schedule : Schedule config ν α) :
    flavour.SignalsWell config schedule.toScript ↔
      flavour.keepsProtocol config schedule.toScript = true := by
  cases fate : schedule.work with
  | won body => exact won_signals_iff flavour schedule given fate
  | lost reaction =>
      cases timedOut : schedule.timedOut config with
      | true => exact deadline_signals_iff flavour schedule given fate timedOut
      | false => exact cancel_signals_iff flavour schedule given fate timedOut

/-- Both functions keep the signal protocol exactly on the schedules whose user
code is one of those `keepsProtocol` lists. -/
theorem signal_protocol_iff (ν α : Type) (config : Config) (given : config.signals = true) :
    (∀ schedule : Schedule config Empty α,
      runAsync.SignalsWell config schedule.toScript ↔
        runAsync.keepsProtocol config schedule.toScript = true) ∧
    (∀ schedule : Schedule config ν α,
      iterateAsync.SignalsWell config schedule.toScript ↔
        iterateAsync.keepsProtocol config schedule.toScript = true) :=
  ⟨fun schedule => signals_iff runAsync config given schedule,
    fun schedule => signals_iff iterateAsync config given schedule⟩

/-- The coroutine ends by raising `asyncio.CancelledError`; nobody cancelled it. -/
def selfCancelled : Schedule ⟨false, none, true⟩ Empty Nat where
  work := .won (.error (.of .asyncioCancelledError ""))
  fired _ := false
  order := [.ownCancel]
  completed _ := false
  interrupted := false
  racing := []
  unwinding := []
  leftover := []
  first_completed := ⟨.work, by decide, rfl⟩
  unfinished_order := by decide
  loop_runs exc won := by cases won; rfl

theorem signal_protocol_iff_selfCancelled :
    runAsync.SignalsWell ⟨false, none, true⟩ selfCancelled.toScript ↔
      runAsync.keepsProtocol ⟨false, none, true⟩ selfCancelled.toScript = true :=
  (signal_protocol_iff Nat Nat ⟨false, none, true⟩ rfl).1 selfCancelled

/-- `future_t.exception()` raises for a cancelled task, before any signal. -/
theorem signal_protocol_silent :
    ¬ ∀ (config : Config) (_ : config.signals = true) (schedule : Schedule config Empty Nat),
      runAsync.SignalsWell config schedule.toScript := by
  intro holds
  obtain ⟨nexts, terminal, future, shape, _, _⟩ := holds ⟨false, none, true⟩ rfl selfCancelled
  have silent : (runAsync.passedWithContext ⟨false, none, true⟩ selfCancelled.toScript).emitted =
      [] := by rfl
  rw [silent] at shape
  simp at shape

end Koil.Race
