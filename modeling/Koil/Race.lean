import Koil.Tasks
import Mathlib.Data.List.Perm.Basic

/-! The race that `run_async_sharing_context` and `iterate_async_sharing_context` run.

Both hand the loop a coroutine `passed_with_context` which races the work task
against the cancel events and the deadline, tidies up the losers and then
resolves the future. What user code does and what the loop reports is a
`Schedule`; everything else is computed from it as the source computes it. -/

namespace Koil.Race

/-- The tasks in `race`: `future_t`, the two cancel waiters, the timeout waiter. -/
inductive Racer
  | work
  | ownCancel
  | ambientCancel
  | deadline
  deriving DecidableEq, Repr

/-- What one call of either function fixes before the race: whether an ambient
cancel event was captured, the timeout as its messages show it, and whether a
signals object was given. -/
structure Config where
  ambient : Bool
  timeout : Option String
  signals : Bool
  deriving DecidableEq, Repr

/-- `race = [future_t, *cancel_waiters]`, with the timeout waiter appended. -/
def Config.race (config : Config) : List Racer :=
  [.work, .ownCancel] ++ (if config.ambient then [.ambientCancel] else []) ++
    (if config.timeout.isSome then [.deadline] else [])

/-- What the losing work task does once it is asked to cancel: it ends at some
point, before or after the wait in its grace is over, or it never ends. -/
inductive Reaction (α : Type) where
  | ends (inGrace : Bool) (body : Except Exc α)
  | never

/-- The part of user code in one race: the work ended before `asyncio.wait`
returned, or it was still running then. -/
inductive Work (α : Type) where
  | won (body : Except Exc α)
  | lost (reaction : Reaction α)

/-- What the loop and user code contribute to one race. `fired` are the waiters
found finished when `asyncio.wait` returns, `order` is the iteration order of the
set `unfinished`, `completed` are the waiters that complete after that and before
their `cancel()`, and `interrupted` says that the shutdown of the loop cancels the
wait for the work: during the grace, or else once the work has ended, since before
that the work itself is cancelled again. The three lists are what the work passes
to `signals.next.emit` until `asyncio.wait` returns, until the tidying up is over,
and after that. -/
structure Script (ν α : Type) where
  work : Work α
  fired : Racer → Bool
  order : List Racer
  completed : Racer → Bool
  interrupted : Bool
  racing : List ν
  unwinding : List ν
  leftover : List ν

variable {ν α : Type}

def Script.finished (script : Script ν α) : Racer → Bool
  | .work =>
      match script.work with
      | .won _ => true
      | .lost _ => false
  | waiter => script.fired waiter

/-- A script in which `asyncio.wait` has returned: with at least one finished
task, and not in a loop which the work itself has stopped. -/
structure Schedule (config : Config) (ν α : Type) extends Script ν α where
  first_completed : ∃ racer ∈ config.race, toScript.finished racer = true
  unfinished_order :
    order.Perm (config.race.filter (fun racer => !toScript.finished racer))
  loop_runs : ∀ exc, toScript.work = .won (.error exc) → exc.stopsLoop = false

inductive Awaited
  | returned
  | raised (exc : Exc)
  | stuck
  deriving DecidableEq, Repr

def asyncioCancelled : Exc := .of .asyncioCancelledError ""

def awaitEnd (done : TaskEnd α) : Awaited :=
  match done.get with
  | .ok _ => .returned
  | .error exc => .raised exc

/-- `await asyncio.wait_for(asyncio.shield(untask), timeout=grace)` on the cancelled work. -/
def Reaction.awaitBounded (interrupted : Bool) : Reaction α → Awaited
  | .ends true body =>
      if interrupted then .raised asyncioCancelled else awaitEnd (.ofCoroutine body)
  | _ => if interrupted then .raised asyncioCancelled else .raised (.of .timeoutError "")

/-- `await untask` on the cancelled work. -/
def Reaction.awaitUnbounded (interrupted : Bool) : Reaction α → Awaited
  | .ends _ body =>
      if interrupted then .raised asyncioCancelled else awaitEnd (.ofCoroutine body)
  | .never => .stuck

/-- `untask.cancel()` and the `await` after it. -/
def Script.awaitLoser (script : Script ν α) (timedOut : Bool) : Racer → Awaited
  | .work =>
      match script.work with
      | .won _ => .returned
      | .lost reaction =>
          if timedOut then reaction.awaitBounded script.interrupted
          else reaction.awaitUnbounded script.interrupted
  | waiter => if script.completed waiter then .returned else .raised asyncioCancelled

inductive Tidied
  | finished (acknowledged : Bool)
  | escaped (exc : Exc)
  | stuck
  deriving DecidableEq, Repr

/-- `for untask in unfinished: ...` with its two `except` clauses. -/
def tidyUp (awaitLoser : Racer → Awaited) : List Racer → Bool → Tidied
  | [], acknowledged => .finished acknowledged
  | untask :: rest, acknowledged =>
      match awaitLoser untask with
      | .returned => tidyUp awaitLoser rest acknowledged
      | .raised exc =>
          if exc.isA .timeoutError then tidyUp awaitLoser rest false
          else if exc.isA .asyncioCancelledError then tidyUp awaitLoser rest acknowledged
          else .escaped exc
      | .stuck => .stuck

/-- The signals of `QtSignalHolder` and `QtIteratorSignalHolder`. -/
inductive Signal (ν α : Type) where
  | next (value : ν)
  | returned (value : α)
  | done
  | errored (exc : Exc)
  | cancelled (exc : Exc)
  deriving DecidableEq, Repr

/-- Where the two `passed_with_context` differ: the signal for a result, the
text of a timeout (`true`: acknowledged) and the class of a cancellation. -/
structure Flavour (ν α : Type) where
  success : α → Signal ν α
  timeoutText : Bool → String → String
  cancelClass : Builtin
  success_terminal : ∀ value, success value = .returned value ∨ success value = .done
  timeoutText_inj : ∀ timeout, timeoutText true timeout ≠ timeoutText false timeout
  cancel_class : cancelClass = .asyncioCancelledError ∨ cancelClass = .koilCancelledError

theorem texts_differ (before timeout first second : String) (differ : first ≠ second) :
    before ++ timeout ++ first ≠ before ++ timeout ++ second := by
  intro same
  exact differ (String.append_right_inj _ |>.mp same)

/-- `run_async_sharing_context.passed_with_context`. It emits no `next`. -/
def runAsync : Flavour Empty α where
  success := .returned
  timeoutText acknowledged timeout :=
    if acknowledged then
      "Task did not complete within " ++ timeout ++ "s; it was cancelled."
    else
      "Task did not complete within " ++ timeout ++ ("s and did not " ++
      "acknowledge cancellation within the grace period. Make " ++
      "sure the task is not blocking the loop with " ++
      "uncancellable work and that workers call " ++
      "check_cancelled periodically.")
  cancelClass := .asyncioCancelledError
  success_terminal value := .inl rfl
  timeoutText_inj timeout := texts_differ _ timeout _ _ (by decide)
  cancel_class := .inl rfl

def iterateAsync : Flavour ν α where
  success _ := .done
  timeoutText acknowledged timeout :=
    if acknowledged then
      "Generator did not finish within " ++ timeout ++ "s; it was cancelled."
    else
      "Generator did not finish within " ++ timeout ++ ("s and did not " ++
      "acknowledge cancellation within the grace period.")
  cancelClass := .koilCancelledError
  success_terminal _ := .inr rfl
  timeoutText_inj timeout := texts_differ _ timeout _ _ (by decide)
  cancel_class := .inr rfl

def Flavour.timeoutError (flavour : Flavour ν α) (config : Config) (acknowledged : Bool) : Exc :=
  .of .koilTimeoutError (flavour.timeoutText acknowledged (config.timeout.getD "None"))

def Flavour.cancelError (flavour : Flavour ν α) : Exc :=
  .of flavour.cancelClass "Future was cancelled"

/-- What a run leaves behind: the signals in the order of their emission and how
the task of `passed_with_context` ended, if it did. -/
structure Run (ν α : Type) where
  emitted : List (Signal ν α)
  ended : Option (TaskEnd α)

/-- The state of the `concurrent.futures.Future` behind the `KoilFuture`. -/
def Run.resolution (run : Run ν α) : Option (FutureEnd α) :=
  run.ended.map setConcurrentFutureState

def Script.timedOut (script : Script ν α) (config : Config) : Bool :=
  config.timeout.isSome && script.finished .deadline

/-- The work task is still running when the wait in its grace is over. -/
def Script.unfinishedAfterGrace (script : Script ν α) : Bool :=
  match script.work with
  | .won _ => false
  | .lost (.ends true _) => false
  | .lost _ => true

/-- `if signals: signals.x.emit(...)`. -/
def Config.emit (config : Config) (signals : List (Signal ν α)) : List (Signal ν α) :=
  if config.signals then signals else []

/-- The end of a coroutine that raises `exc`. Where `exc` stops the loop, no loop
is left to set the future. -/
def raiseEnd (exc : Exc) : Option (TaskEnd α) :=
  if exc.stopsLoop then none else some (.ofCoroutine (.error exc))

/-- `passed_with_context` from the return of `asyncio.wait` on. -/
def Flavour.passedWithContext (flavour : Flavour ν α) (config : Config) (script : Script ν α) :
    Run ν α :=
  let timedOut := script.timedOut config
  let racing := script.racing.map Signal.next
  match tidyUp (script.awaitLoser timedOut) script.order true with
  | .stuck => ⟨config.emit (racing ++ script.unwinding.map .next), none⟩
  | .escaped exc => ⟨config.emit (racing ++ script.unwinding.map .next), raiseEnd exc⟩
  | .finished acknowledged =>
      match script.work with
      | .won body =>
          match TaskEnd.ofCoroutine body with
          -- `future_t.exception()` raises the CancelledError of a cancelled task
          | .cancelled => ⟨config.emit racing, raiseEnd asyncioCancelled⟩
          | .raised exc =>
              -- `if exception:` is false for an exception whose truth value is
              if exc.truthy then ⟨config.emit (racing ++ [.errored exc]), raiseEnd exc⟩
              else ⟨config.emit racing, raiseEnd exc⟩
          | .returned value =>
              ⟨config.emit (racing ++ [flavour.success value]), some (.returned value)⟩
      | .lost _ =>
          let unwound := racing ++ script.unwinding.map Signal.next
          if timedOut then
            let error := flavour.timeoutError config acknowledged
            ⟨config.emit (unwound ++ [.errored error] ++
              (if script.unfinishedAfterGrace then script.leftover.map .next else [])),
              raiseEnd error⟩
          else ⟨config.emit (unwound ++ [.cancelled flavour.cancelError]),
            raiseEnd flavour.cancelError⟩

theorem race_nodup (config : Config) : config.race.Nodup := by
  rcases config with ⟨ambient, timeout, signals⟩
  cases ambient <;> cases timeout <;> simp [Config.race]

theorem work_mem_race (config : Config) : Racer.work ∈ config.race := by
  simp [Config.race]

/-- What the tidying up makes of the one task in `unfinished` which is not a waiter. -/
def settleLoser : Awaited → Tidied
  | .returned => .finished true
  | .raised exc =>
      if exc.isA .timeoutError then .finished false
      else if exc.isA .asyncioCancelledError then .finished true
      else .escaped exc
  | .stuck => .stuck

theorem awaitLoser_waiter (script : Script ν α) (timedOut : Bool) (waiter : Racer)
    (notWork : waiter ≠ .work) :
    script.awaitLoser timedOut waiter = .returned ∨
      script.awaitLoser timedOut waiter = .raised asyncioCancelled := by
  cases waiter with
  | work => exact absurd rfl notWork
  | ownCancel | ambientCancel | deadline =>
      simp only [Script.awaitLoser]
      split <;> simp

theorem tidyUp_waiter (script : Script ν α) (timedOut acknowledged : Bool) (waiter : Racer)
    (rest : List Racer) (notWork : waiter ≠ .work) :
    tidyUp (script.awaitLoser timedOut) (waiter :: rest) acknowledged =
      tidyUp (script.awaitLoser timedOut) rest acknowledged := by
  rcases awaitLoser_waiter script timedOut waiter notWork with ended | ended
  · simp [tidyUp, ended]
  · simp [tidyUp, ended, asyncioCancelled, Builtin.isA, Builtin.mro]

theorem tidyUp_waiters (script : Script ν α) (timedOut acknowledged : Bool) (losers : List Racer)
    (absent : Racer.work ∉ losers) :
    tidyUp (script.awaitLoser timedOut) losers acknowledged = .finished acknowledged := by
  induction losers with
  | nil => rfl
  | cons untask rest ih =>
      rw [List.mem_cons, not_or] at absent
      rw [tidyUp_waiter script timedOut acknowledged untask rest (Ne.symm absent.1)]
      exact ih absent.2

theorem tidyUp_work (script : Script ν α) (timedOut : Bool) (losers : List Racer)
    (distinct : losers.Nodup) (present : Racer.work ∈ losers) :
    tidyUp (script.awaitLoser timedOut) losers true =
      settleLoser (script.awaitLoser timedOut .work) := by
  induction losers with
  | nil => cases present
  | cons untask rest ih =>
      rw [List.nodup_cons] at distinct
      by_cases first : untask = .work
      · subst first
        have waiters := fun acknowledged =>
          tidyUp_waiters script timedOut acknowledged rest distinct.1
        simp only [tidyUp, settleLoser]
        cases script.awaitLoser timedOut .work <;> simp [waiters]
      · rw [tidyUp_waiter script timedOut true untask rest first]
        have later : Racer.work ∈ rest := by
          rcases List.mem_cons.mp present with here | later
          · exact absurd here.symm first
          · exact later
        exact ih distinct.2 later

theorem work_mem_order {config : Config} (schedule : Schedule config ν α) :
    Racer.work ∈ schedule.order ↔ schedule.finished .work = false := by
  rw [schedule.unfinished_order.mem_iff, List.mem_filter]
  simp [work_mem_race]

theorem tidyUp_schedule {config : Config} (schedule : Schedule config ν α) (timedOut : Bool) :
    tidyUp (schedule.awaitLoser timedOut) schedule.order true =
      match schedule.work with
      | .won _ => .finished true
      | .lost _ => settleLoser (schedule.awaitLoser timedOut .work) := by
  cases fate : schedule.work with
  | won body =>
      apply tidyUp_waiters
      rw [work_mem_order]
      simp [Script.finished, fate]
  | lost reaction =>
      apply tidyUp_work
      · exact schedule.unfinished_order.nodup_iff.mpr ((race_nodup config).filter _)
      · rw [work_mem_order]
        simp [Script.finished, fate]

end Koil.Race
