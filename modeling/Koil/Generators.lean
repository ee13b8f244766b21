import Koil.Submission

/-! `unkoil_gen` and `unkoil_gen_with_timeout`: an async generator behind a sync one.

Every resumption is a loop task of its own, with its own race. The async
generator is any transition function on any states; the sync generator that
drives it is the frame of the source's generator function. -/

namespace Koil.Generators

open Race

variable {σ S V : Type}

inductive GenStep (σ V : Type) where
  | yielded (value : V) (state : σ)
  | returned
  | raised (exc : Exc)
  deriving DecidableEq, Repr

inductive GenClose
  | closed
  | yielded
  | raised (exc : Exc)
  | outlasts
  deriving DecidableEq, Repr

/-- The body of an async generator function: its reaction to a value sent to the
`yield` at which it is suspended (`none` is `None`), and to being closed there. -/
structure AsyncGen (σ S V : Type) where
  resume : σ → Option S → GenStep σ V
  close : σ → GenClose

/-- An async generator lets neither kind of stop iteration out of its body. -/
def agenException (exc : Exc) : Exc :=
  if exc.isA .stopIteration then .of .runtimeError "async generator raised StopIteration"
  else if exc.isA .stopAsyncIteration then
    .of .runtimeError "async generator raised StopAsyncIteration"
  else exc

def AsyncGen.asend (gen : AsyncGen σ S V) (state : σ) (sent : Option S) : GenStep σ V :=
  match gen.resume state sent with
  | .raised exc => .raised (agenException exc)
  | step => step

def GenStep.awaited : GenStep σ V → Except Exc V
  | .yielded value _ => .ok value
  | .returned => .error (.of .stopAsyncIteration "")
  | .raised exc => .error exc

def GenStep.after : GenStep σ V → Option σ
  | .yielded _ state => some state
  | _ => none

/-- `aclose_async_gen_threadsafe`: the exception it lets through, if any. -/
def acloseAsyncGenThreadsafe : GenClose → Option Exc
  | .closed => none
  | .outlasts => none
  | .yielded => none
  | .raised exc =>
      match (setConcurrentFutureState (.ofCoroutine (.error exc : Except Exc Unit))).get with
      | .ok _ => none
      | .error seen =>
          if seen.isA .runtimeError || seen.isA .koilCancelledError ||
            seen.isA .futuresCancelledError || seen.isA .timeoutError then none
          else some seen

inductive Reply (V : Type) where
  | yielded (value : V)
  | stopped
  | raised (exc : Exc)
  deriving DecidableEq, Repr

inductive Frame (σ : Type) where
  | unstarted (state : σ)
  | suspended (state : σ)
  | finished
  deriving DecidableEq, Repr

/-- One resumption of the sync generator: what the async generator was resumed
with, if it was, and what came back. -/
structure Sent (σ S V : Type) where
  received : Option (Option S)
  reply : Reply V
  frame : Frame σ
  deriving DecidableEq, Repr

/-- The `finally` block: an exception of the close replaces what is under way. -/
def leave (gen : AsyncGen σ S V) (ait : Option σ) (reply : Reply V) : Reply V :=
  match ait with
  | none => reply
  | some state =>
      match acloseAsyncGenThreadsafe (gen.close state) with
      | none => reply
      | some exc => .raised exc

def frameAfter : Option σ → Frame σ
  | some state => .suspended state
  | none => .finished

def firstResult (gen : AsyncGen σ S V) (ait : Option σ) : Except Exc V → Sent σ S V
  | .ok value => ⟨some none, .yielded value, frameAfter ait⟩
  | .error exc => ⟨some none, leave gen ait (.raised exc), .finished⟩

def nextResult (gen : AsyncGen σ S V) (ait : Option σ) : Except Exc V → Sent σ S V
  | .ok value => ⟨some none, .yielded value, frameAfter ait⟩
  | .error exc =>
      if exc.isA .stopAsyncIteration then ⟨some none, leave gen ait .stopped, .finished⟩
      else ⟨some none, leave gen ait (.raised exc), .finished⟩

def firstStep {config : Config} (gen : AsyncGen σ S V) (waiters : Waiters config) (state : σ) :
    Option (Sent σ S V) :=
  let step := gen.asend state none
  (submittedResult waiters step.awaited).map (firstResult gen step.after)

def nextStep {config : Config} (gen : AsyncGen σ S V) (waiters : Waiters config) (state : σ) :
    Option (Sent σ S V) :=
  let step := gen.asend state none
  (submittedResult waiters step.awaited).map (nextResult gen step.after)

/-- A later step with a value to send: the submitted call is `ait.__anext__(send_val)`,
which raises before the generator is resumed. -/
def sendStep {config : Config} (gen : AsyncGen σ S V) (waiters : Waiters config) (state : σ) :
    Option (Sent σ S V) :=
  let called : Except Exc V := .error (.of .typeError "expected 0 arguments, got 1")
  (submittedResult waiters called).map fun
    | .ok value => ⟨none, .yielded value, .suspended state⟩
    | .error exc =>
        if exc.isA .stopAsyncIteration then ⟨none, leave gen (some state) .stopped, .finished⟩
        else ⟨none, leave gen (some state) (.raised exc), .finished⟩

/-- `generator.send(sent)` on the sync generator; `next` sends `None`. -/
def send {config : Config} (gen : AsyncGen σ S V) (waiters : Waiters config) :
    Frame σ → Option S → Option (Sent σ S V)
  | .unstarted state, none => firstStep gen waiters state
  | .unstarted state, some _ =>
      some ⟨none, .raised (.of .typeError "can't send non-None value to a just-started generator"),
        .unstarted state⟩
  | .suspended state, none => nextStep gen waiters state
  | .suspended state, some _ => sendStep gen waiters state
  | .finished, _ => some ⟨none, .stopped, .finished⟩

def unkoilGen (ambient : Bool) : Config := ⟨ambient, none, false⟩

def unkoilGenWithTimeout (ambient : Bool) (timeout : String) : Config :=
  ⟨ambient, some timeout, false⟩

theorem agenException_not_stop (exc : Exc) :
    (agenException exc).isA .stopAsyncIteration = false := by
  unfold agenException
  split
  · rfl
  · split
    · rfl
    · next notStop => simpa using notStop

theorem asend_raised_not_stop {gen : AsyncGen σ S V} {state : σ} {sent : Option S} {exc : Exc}
    (raised : gen.asend state sent = .raised exc) : exc.isA .stopAsyncIteration = false := by
  unfold AsyncGen.asend at raised
  split at raised
  · cases raised
    exact agenException_not_stop _
  · next step notRaised => exact absurd raised (notRaised exc)

variable {config : Config}

theorem firstStep_eq (gen : AsyncGen σ S V) (waiters : Waiters config) (state : σ) :
    firstStep gen waiters state = some
      (match gen.asend state none with
      | .yielded value next => ⟨some none, .yielded value, .suspended next⟩
      | .returned => ⟨some none, .raised (.of .stopAsyncIteration ""), .finished⟩
      | .raised exc => ⟨some none, .raised (crossed exc), .finished⟩) := by
  simp only [firstStep, submittedResult_eq]
  cases gen.asend state none <;> rfl

theorem nextStep_eq (gen : AsyncGen σ S V) (waiters : Waiters config) (state : σ) :
    nextStep gen waiters state = some
      (match gen.asend state none with
      | .yielded value next => ⟨some none, .yielded value, .suspended next⟩
      | .returned => ⟨some none, .stopped, .finished⟩
      | .raised exc => ⟨some none, .raised (crossed exc), .finished⟩) := by
  simp only [nextStep, submittedResult_eq]
  cases stepped : gen.asend state none with
  | yielded value next => rfl
  | returned => rfl
  | raised exc =>
      have notStop := crossed_not_stop (asend_raised_not_stop stepped)
      simp [GenStep.awaited, Except.mapError, GenStep.after, nextResult, leave, notStop]

theorem sendStep_unreceived (gen : AsyncGen σ S V) (waiters : Waiters config) (state : σ) :
    ∃ reply, sendStep gen waiters state = some ⟨none, reply, .finished⟩ := by
  refine ⟨leave gen (some state) (.raised (.of .typeError "expected 0 arguments, got 1")), ?_⟩
  simp only [sendStep, submittedResult_eq]
  rfl

end Koil.Generators
