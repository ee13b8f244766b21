import Koil.Generators

namespace Koil.Generators

open Race

variable {σ S V : Type} {config : Config}

/-- An async generator in numbered tasks, each with a Context of its own: a step that nothing
cancels; whether a step is at an await once its race is lost; and the step that is cancelled
there, if it ends at all. -/
structure TaskGen (σ S V : Type) where
  resume : Nat → σ → Option S → GenStep σ V
  outlasts : Nat → σ → Bool
  cancelled : Nat → σ → Option (GenStep σ V)
  close : Nat → σ → GenClose

def AsyncGen.anyTask (gen : AsyncGen σ S V) : TaskGen σ S V where
  resume _ := gen.resume
  outlasts _ _ := false
  cancelled _ _ := none
  close _ := gen.close

def TaskGen.inTask (gen : TaskGen σ S V) (task closing : Nat) : AsyncGen σ S V :=
  ⟨gen.resume task, gen.close closing⟩

/-- One resumption of the sync generator: the task of its step and that of an `aclose()` after
it; whether the ambient cancel event is set by then; and whether another racer is done while the
step still runs, as the waiter of an event is that is bound to another loop. -/
structure Moment where
  task : Nat
  closing : Nat
  isSet : Bool
  loses : Bool

/-- The racers beside the work, where it wins and where it loses. -/
structure Races (config : Config) where
  waiters : Waiters config
  losing : Losing config

def TaskGen.here (gen : TaskGen σ S V) (moment : Moment) : AsyncGen σ S V :=
  gen.inTask moment.task moment.closing

def TaskGen.cut (gen : TaskGen σ S V) (moment : Moment) (state : σ) : Bool :=
  moment.loses && gen.outlasts moment.task state

/-- The step that is cancelled, as `asend` ends. -/
def TaskGen.cutStep (gen : TaskGen σ S V) (moment : Moment) (state : σ) : Option (GenStep σ V) :=
  match gen.cancelled moment.task state with
  | some (.raised exc) => some (.raised (agenException exc))
  | step => step

def threadCancelled : Exc := .of .threadCancelledError "Thread was cancelled"

def TaskGen.send (gen : TaskGen σ S V) (moment : Moment) (races : Races config) :
    Frame σ → Option S → Option (Sent σ S V)
  | .unstarted state, none =>
      -- the `aclose()` of a generator that was never started runs nothing of it
      if moment.isSet then some ⟨none, .raised threadCancelled, .finished⟩
      else if gen.cut moment state then
        (gen.cutStep moment state).bind fun step =>
          (lostResult races.losing step.awaited).map (firstResult (gen.here moment) step.after)
      else firstStep (gen.here moment) races.waiters state
  | .suspended state, none =>
      if moment.isSet then
        some ⟨none, leave (gen.here moment) (some state) (.raised threadCancelled), .finished⟩
      else if gen.cut moment state then
        (gen.cutStep moment state).bind fun step =>
          (lostResult races.losing step.awaited).map (nextResult (gen.here moment) step.after)
      else nextStep (gen.here moment) races.waiters state
  | .suspended state, some _ =>
      if moment.isSet then
        some ⟨none, leave (gen.here moment) (some state) (.raised threadCancelled), .finished⟩
      else sendStep (gen.here moment) races.waiters state
  | frame, sent => Generators.send (gen.here moment) races.waiters frame sent

def frameOf (first : Bool) (state : σ) : Frame σ :=
  if first then .unstarted state else .suspended state

/-- The step is neither refused nor cancelled, and yields. -/
def TaskGen.Continues (gen : TaskGen σ S V) (moment : Moment) (state : σ) (value : V) (next : σ) :
    Prop :=
  moment.isSet = false ∧ gen.cut moment state = false ∧
    (gen.here moment).asend state none = .yielded value next

/-- What a StopAsyncIteration out of `result()` is in the first step and in a later one. -/
def leaving (first : Bool) (exc : Exc) : Reply V :=
  if !first && exc.isA .stopAsyncIteration then .stopped else .raised exc

/-- How a step that wins its race ends for the consumer, unless it yields. -/
def GenStep.lastReply (first : Bool) : GenStep σ V → Option (Reply V)
  | .yielded _ _ => none
  | .returned => some (leaving first (.of .stopAsyncIteration ""))
  | .raised exc => some (.raised (crossed exc))

/-- How a step ends for the consumer that does not yield to it: it finishes or raises, is
cancelled, or is refused. -/
def TaskGen.ends (gen : TaskGen σ S V) (moment : Moment) (first : Bool) (state : σ) :
    Option (Reply V) :=
  if moment.isSet then
    some (leave (gen.here moment) (if first then none else some state) (.raised threadCancelled))
  else if gen.cut moment state then
    (gen.cutStep moment state).map fun step =>
      leave (gen.here moment) step.after (leaving first (crossed (unwound step.awaited)))
  else ((gen.here moment).asend state none).lastReply first

def Races.idle (config : Config) : Races config := ⟨.idle config, .own config⟩

variable {gen : TaskGen σ S V} {moment : Moment} {state next : σ} {value : V} {reply : Reply V}

theorem firstResult_error (agen : AsyncGen σ S V) (ait : Option σ) (exc : Exc) :
    firstResult agen ait (.error exc) = ⟨some none, leave agen ait (leaving true exc), .finished⟩ :=
  rfl

theorem nextResult_error (agen : AsyncGen σ S V) (ait : Option σ) (exc : Exc) :
    nextResult agen ait (.error exc) =
      ⟨some none, leave agen ait (leaving false exc), .finished⟩ := by
  simp only [nextResult, leaving, Bool.not_false, Bool.true_and]
  split <;> rfl

theorem send_continues (continues : gen.Continues moment state value next) (first : Bool)
    (races : Races config) :
    gen.send moment races (frameOf first state) none =
      some ⟨some none, .yielded value, .suspended next⟩ := by
  obtain ⟨unset, uncut, yields⟩ := continues
  cases first with
  | true => simp [frameOf, TaskGen.send, unset, uncut, firstStep_eq, yields]
  | false => simp [frameOf, TaskGen.send, unset, uncut, nextStep_eq, yields]

theorem send_ends {first : Bool} (ends : gen.ends moment first state = some reply)
    (races : Races config) :
    gen.send moment races (frameOf first state) none =
      some ⟨if moment.isSet then none else some none, reply, .finished⟩ := by
  unfold TaskGen.ends at ends
  cases set : moment.isSet with
  | true =>
      rw [set, if_pos rfl] at ends
      cases first <;> simp [frameOf, TaskGen.send, set, ← Option.some.inj ends, leave]
  | false =>
      rw [set, if_neg Bool.false_ne_true] at ends
      cases cut : gen.cut moment state with
      | true =>
          rw [cut, if_pos rfl] at ends
          obtain ⟨step, stepped, rfl⟩ := Option.map_eq_some_iff.mp ends
          cases first <;> simp [frameOf, TaskGen.send, set, cut, stepped, lostResult_eq,
            firstResult_error, nextResult_error]
      | false =>
          rw [cut, if_neg Bool.false_ne_true] at ends
          cases stepped : (gen.here moment).asend state none with
          | yielded value next => simp [stepped, GenStep.lastReply] at ends
          | returned =>
              rw [stepped] at ends
              cases first <;> simp [frameOf, TaskGen.send, set, cut, firstStep_eq, nextStep_eq,
                stepped, ← Option.some.inj ends, leaving]
              rfl
          | raised exc =>
              rw [stepped] at ends
              cases first <;> simp [frameOf, TaskGen.send, set, cut, firstStep_eq, nextStep_eq,
                stepped, ← Option.some.inj ends]

theorem send_waits {first : Bool} (ends : gen.ends moment first state = none)
    (halts : ∀ value next, ¬ gen.Continues moment state value next) (races : Races config) :
    gen.send moment races (frameOf first state) none = none := by
  unfold TaskGen.ends at ends
  cases set : moment.isSet with
  | true => simp [set] at ends
  | false =>
      rw [set, if_neg Bool.false_ne_true] at ends
      cases cut : gen.cut moment state with
      | true =>
          rw [cut, if_pos rfl, Option.map_eq_none_iff] at ends
          cases first <;> simp [frameOf, TaskGen.send, set, cut, ends]
      | false =>
          rw [cut, if_neg Bool.false_ne_true] at ends
          cases stepped : (gen.here moment).asend state none with
          | yielded value next => exact absurd ⟨set, cut, stepped⟩ (halts value next)
          | returned => simp [stepped, GenStep.lastReply] at ends
          | raised exc => simp [stepped, GenStep.lastReply] at ends

theorem leave_not_yielded (agen : AsyncGen σ S V) (ait : Option σ)
    (unyielded : ∀ value, reply ≠ .yielded value) (value : V) :
    leave agen ait reply ≠ .yielded value := by
  unfold leave
  split
  · exact unyielded value
  · split
    · exact unyielded value
    · exact nofun

theorem leaving_not_yielded (first : Bool) (exc : Exc) (value : V) :
    leaving first exc ≠ .yielded value := by
  unfold leaving
  split <;> exact nofun

theorem ends_not_yielded {first : Bool} (ends : gen.ends moment first state = some reply)
    (value : V) : reply ≠ .yielded value := by
  unfold TaskGen.ends at ends
  split at ends
  · obtain rfl := Option.some.inj ends
    exact leave_not_yielded _ _ nofun value
  · split at ends
    · obtain ⟨step, _, rfl⟩ := Option.map_eq_some_iff.mp ends
      exact leave_not_yielded _ _ (leaving_not_yielded first _) value
    · cases stepped : (gen.here moment).asend state none with
      | yielded value next => simp [stepped, GenStep.lastReply] at ends
      | returned =>
          rw [stepped] at ends
          obtain rfl := Option.some.inj ends
          exact leaving_not_yielded first _ value
      | raised exc =>
          rw [stepped] at ends
          obtain rfl := Option.some.inj ends
          exact nofun

theorem not_continues {first : Bool} (ends : gen.ends moment first state = some reply) :
    ¬ gen.Continues moment state value next := by
  rintro ⟨unset, uncut, yields⟩
  simp [TaskGen.ends, unset, uncut, yields, GenStep.lastReply] at ends

theorem TaskGen.Continues.unique {value' : V} {next' : σ}
    (continues : gen.Continues moment state value next)
    (continues' : gen.Continues moment state value' next') : value = value' ∧ next = next' := by
  have same := continues.2.2.symm.trans continues'.2.2
  exact GenStep.yielded.inj same

end Koil.Generators
