import Koil.RaceVerdict
import Koil.Runs
import Mathlib.Algebra.Group.Int.Defs
import Mathlib.Algebra.Order.Group.Defs

namespace Koil.ResultTimeouts

open Race Runs

variable {τ α : Type}

/-- How the underlying future completes: with what the task itself came to, or because a
cancellation got through to it. -/
inductive Completion (α : Type) where
  | own (ended : Except Exc α)
  | cancelled (raised : Option Exc)
  deriving DecidableEq

def Completion.future : Completion α → FutureEnd α
  | .own (.ok value) => .result value
  | .own (.error exc) => .exception exc
  | .cancelled (some exc) => .exception exc
  | .cancelled none => .cancelled

def Completion.isOwn : Completion α → Bool
  | .own _ => true
  | .cancelled _ => false

/-- The arguments of `result`, with `poll_interval` or its default, and the ambient grace.
A negative timeout is refused with a ValueError. -/
structure Call (τ : Type) [AddCommGroup τ] [LinearOrder τ] where
  timeout : Option τ
  interval : τ
  grace : τ
  shownTimeout : String
  shownGrace : String
  accepted : ∀ limit ∈ timeout, 0 ≤ limit

/-- Where `result` is; the steps from `expired` to `givingUp` are `_timeout_expired`. -/
inductive Stage (τ α : Type) where
  | doneCheck
  | deadlineCheck
  | sleeping (slice : τ)
  | waiting (wake : τ)
  | expired
  | signalling
  | granting
  | graceWait (wake : τ)
  | givingUp (done : Bool)
  | fetching
  | timedOut (error : Exc)
  | ended (outcome : Except Exc α)

structure State (τ α : Type) where
  now : τ
  deadline : Option τ
  future : Option (Completion α)
  cancelRequested : Bool
  cancelEvent : Bool
  stage : Stage τ α

def State.isOver (s : State τ α) : Bool :=
  match s.stage with
  | .timedOut _ => true
  | .ended _ => true
  | _ => false

/-- The timeout of `result` covers no completed task, and any other end of `result` is
that of the task. -/
def State.Truthful (s : State τ α) : Prop :=
  match s.stage with
  | .timedOut _ => ∀ completion, s.future = some completion → completion.isOwn = false
  | .ended outcome => ∃ completion, s.future = some completion ∧ outcome = completion.future.get
  | _ => True

def State.giveUp (s : State τ α) : Bool :=
  match s.stage with
  | .expired | .signalling | .granting | .graceWait _ | .givingUp _ | .timedOut _ => true
  | _ => false

def State.completedOwn (s : State τ α) : Bool := s.future.any Completion.isOwn

structure Kept (s : State τ α) : Prop where
  unspent : s.giveUp = true → s.completedOwn = false
  fetched : s.stage = .fetching → s.future.isSome = true
  ended : ∀ outcome, s.stage = .ended outcome →
    ∃ completion, s.future = some completion ∧ outcome = completion.future.get

/-- A task that completed on its own is going to be covered by the timeout. -/
structure Spoiled (s : State τ α) : Prop where
  spent : s.giveUp = true
  completed : s.completedOwn = true

variable {s s' : State τ α}

theorem Kept.of_stage (stays : s'.giveUp = false) (stage : s'.stage ≠ .fetching)
    (running : s'.isOver = false) : Kept s' where
  unspent spent := by
    rw [stays] at spent
    cases spent
  fetched fetching := absurd fetching stage
  ended outcome isOver := by simp [State.isOver, isOver] at running

theorem Kept.expire (spent : s.giveUp = true) (kept : Kept s) (same : s'.future = s.future)
    (still : s'.giveUp = true) : Kept s' where
  unspent _ := by
    have before := kept.unspent spent
    simpa [State.completedOwn, same] using before
  fetched fetching := by simp [State.giveUp, fetching] at still
  ended outcome isOver := by simp [State.giveUp, isOver] at still

theorem Kept.truthful (kept : Kept s) : s.Truthful := by
  unfold State.Truthful
  cases stage : s.stage with
  | timedOut error =>
      have unspent := kept.unspent (by simp [State.giveUp, stage])
      intro completion done
      simpa [State.completedOwn, done] using unspent
  | ended outcome => exact kept.ended outcome stage
  | _ => trivial

theorem Spoiled.not_truthful (spoiled : Spoiled s) (isOver : s.isOver = true) : ¬ s.Truthful := by
  intro truthful
  have spent := spoiled.spent
  have completed := spoiled.completed
  cases stage : s.stage with
  | timedOut error =>
      simp only [State.Truthful, stage] at truthful
      cases done : s.future with
      | none => simp [State.completedOwn, done] at completed
      | some completion =>
          have other := truthful completion done
          simp [State.completedOwn, done, other] at completed
  | ended outcome => simp [State.giveUp, stage] at spent
  | _ => simp [State.isOver, stage] at isOver

variable [AddCommGroup τ] [LinearOrder τ]

/-- The first lines of `result`, of a task that may have completed before. -/
def start (call : Call τ) (now : τ) (future : Option (Completion α)) : State τ α where
  now := now
  deadline := call.timeout.map (now + ·)
  future := future
  cancelRequested := false
  cancelEvent := false
  stage := .doneCheck

def timeoutExpired (call : Call τ) (done : Bool) : Exc :=
  .of .koilTimeoutError (if done then
    "Task did not complete within " ++ call.shownTimeout ++ "s; it was cancelled."
  else
    "Task did not complete within " ++ call.shownTimeout ++ ("s and did not " ++
    "acknowledge cancellation within the ") ++ call.shownGrace ++ ("s grace period. " ++
    "Make sure the task is not blocking the loop with " ++
    "uncancellable work and that workers call check_cancelled " ++
    "periodically."))

def State.woken (s : State τ α) (wake : τ) : Prop := s.future.isSome ∨ wake ≤ s.now

instance (s : State τ α) (wake : τ) : Decidable (s.woken wake) :=
  inferInstanceAs (Decidable (_ ∨ _))

def proceed (call : Call τ) (s : State τ α) : Option (State τ α) :=
  match s.stage with
  | .doneCheck =>
      some { s with stage := if s.future.isSome then .fetching else .deadlineCheck }
  | .deadlineCheck =>
      match s.deadline with
      | none => some { s with stage := .sleeping call.interval }
      | some deadline =>
          if deadline - s.now ≤ 0 then some { s with stage := .expired }
          else some { s with stage := .sleeping (min call.interval (deadline - s.now)) }
  | .sleeping slice => some { s with stage := .waiting (s.now + slice) }
  | .waiting wake => if s.woken wake then some { s with stage := .doneCheck } else none
  | .expired =>
      -- `cancel(reason=...)`: it looks at `done()` again
      if s.future.isSome then some { s with stage := .granting }
      else some { s with cancelRequested := true, stage := .signalling }
  | .signalling => some { s with cancelEvent := true, stage := .granting }
  | .granting => some { s with stage := .graceWait (s.now + call.grace) }
  | .graceWait wake =>
      if s.woken wake then some { s with stage := .givingUp s.future.isSome } else none
  | .givingUp done => some { s with stage := .timedOut (timeoutExpired call done) }
  | .fetching => s.future.map fun done => { s with stage := .ended done.future.get }
  | .timedOut _ => none
  | .ended _ => none

inductive Label (τ α : Type) where
  | proceed
  | completes (completion : Completion α)
  | elapses (duration : τ)

/-- One step of the thread in `result`, of the task or of the clock. -/
def step (call : Call τ) (s : State τ α) : Label τ α → Option (State τ α)
  | .proceed => proceed call s
  | .completes completion =>
      if s.future = none ∧ s.isOver = false then some { s with future := some completion } else none
  | .elapses duration =>
      if 0 ≤ duration ∧ s.isOver = false then some { s with now := s.now + duration } else none

def State.expiring (s : State τ α) : Bool :=
  match s.stage, s.deadline with
  | .deadlineCheck, some deadline => decide (deadline - s.now ≤ 0)
  | _, _ => false

/-- The task does not complete on its own after its deadline has been found expired, and
the deadline is not found expired after the task has completed on its own. -/
def meets (s : State τ α) : Label τ α → Bool
  | .proceed => !(s.expiring && s.completedOwn)
  | .completes completion => !(s.giveUp && completion.isOwn)
  | .elapses _ => true

variable {call : Call τ}

theorem kept_elapses {duration : τ} (kept : Kept s)
    (taken : step call s (.elapses duration) = some s') : Kept s' := by
  obtain ⟨_, moved⟩ := Option.ite_none_right_eq_some.mp taken
  cases moved
  exact ⟨kept.unspent, kept.fetched, kept.ended⟩

theorem kept_completes {completion : Completion α}
    (taken : step call s (.completes completion) = some s') :
    meets s (.completes completion) = true ∧ Kept s' ∨
      meets s (.completes completion) = false ∧ Spoiled s' := by
  obtain ⟨⟨pending, running⟩, moved⟩ := Option.ite_none_right_eq_some.mp taken
  cases moved
  have notEnded : ∀ outcome, s.stage ≠ .ended outcome := by
    intro outcome ended
    simp [State.isOver, ended] at running
  by_cases spent : s.giveUp = true
  · by_cases own : completion.isOwn = true
    · right
      exact ⟨by simp [meets, spent, own], spent, by simpa [State.completedOwn] using own⟩
    · left
      have other : completion.isOwn = false := by simpa using own
      refine ⟨by simp [meets, other], ?_, ?_, ?_⟩
      · intro _
        simpa [State.completedOwn] using other
      · intro fetching
        rfl
      · intro outcome ended
        exact absurd ended (notEnded outcome)
  · left
    have early : s.giveUp = false := by simpa using spent
    refine ⟨by simp [meets, early], ?_, ?_, ?_⟩
    · intro late
      exact absurd late spent
    · intro fetching
      rfl
    · intro outcome ended
      exact absurd ended (notEnded outcome)

theorem kept_deadlineCheck (check : s.stage = .deadlineCheck)
    (taken : step call s .proceed = some s') :
    meets s (.proceed : Label τ α) = true ∧ Kept s' ∨
      meets s (.proceed : Label τ α) = false ∧ Spoiled s' := by
  simp only [step, proceed, check] at taken
  cases due : s.deadline with
  | none =>
      simp only [due] at taken
      cases taken
      left
      exact ⟨by simp [meets, State.expiring, check, due], .of_stage rfl (by simp) rfl⟩
  | some deadline =>
      simp only [due] at taken
      by_cases expired : deadline - s.now ≤ 0
      · simp only [expired, if_true] at taken
        cases taken
        cases own : s.completedOwn with
        | true =>
            right
            exact ⟨by simp [meets, State.expiring, check, due, expired, own], rfl, own⟩
        | false =>
            left
            refine ⟨by simp [meets, own], ?_, ?_, ?_⟩
            · intro _
              exact own
            · intro fetching
              cases fetching
            · intro outcome ended
              cases ended
      · simp only [expired, if_false] at taken
        cases taken
        left
        exact ⟨by simp [meets, State.expiring, check, due, expired], .of_stage rfl (by simp) rfl⟩

/-- Once the deadline has been found expired `result` looks at the future for the text of
its error only. -/
theorem proceed_giveUp (spent : s.giveUp = true) (taken : proceed call s = some s') :
    s'.giveUp = true ∧ s'.future = s.future := by
  unfold proceed at taken
  cases stage : s.stage with
  | doneCheck | deadlineCheck | sleeping | waiting | fetching | ended =>
      simp [State.giveUp, stage] at spent
  | expired =>
      simp only [stage] at taken
      split at taken <;> cases taken <;> exact ⟨rfl, rfl⟩
  | signalling | granting | givingUp =>
      simp only [stage] at taken
      cases taken
      exact ⟨rfl, rfl⟩
  | graceWait wake =>
      simp only [stage] at taken
      obtain ⟨_, moved⟩ := Option.ite_none_right_eq_some.mp taken
      cases moved
      exact ⟨rfl, rfl⟩
  | timedOut error =>
      simp only [stage] at taken
      cases taken

theorem kept_proceed (kept : Kept s) (taken : step call s .proceed = some s') :
    meets s (.proceed : Label τ α) = true ∧ Kept s' ∨
      meets s (.proceed : Label τ α) = false ∧ Spoiled s' := by
  by_cases check : s.stage = .deadlineCheck
  · exact kept_deadlineCheck check taken
  · have allowed : meets s (.proceed : Label τ α) = true := by
      unfold meets State.expiring
      split <;> simp_all
    refine .inl ⟨allowed, ?_⟩
    simp only [step] at taken
    cases stage : s.stage with
    | doneCheck =>
        simp only [proceed, stage] at taken
        cases taken
        cases done : s.future.isSome with
        | true =>
            refine ⟨?_, fun _ => done, ?_⟩
            · intro spent
              cases spent
            · intro outcome ended
              cases ended
        | false => exact .of_stage rfl (by simp) rfl
    | deadlineCheck => exact absurd stage check
    | sleeping slice =>
        simp only [proceed, stage] at taken
        cases taken
        exact .of_stage rfl (by simp) rfl
    | waiting wake =>
        simp only [proceed, stage] at taken
        obtain ⟨_, moved⟩ := Option.ite_none_right_eq_some.mp taken
        cases moved
        exact .of_stage rfl (by simp) rfl
    | expired | signalling | granting | graceWait | givingUp | timedOut =>
        have spent : s.giveUp = true := by simp [State.giveUp, stage]
        obtain ⟨still, same⟩ := proceed_giveUp spent taken
        exact kept.expire spent same still
    | fetching =>
        simp only [proceed, stage] at taken
        obtain ⟨completion, done, moved⟩ := Option.map_eq_some_iff.mp taken
        cases moved
        refine ⟨?_, ?_, ?_⟩
        · intro spent
          cases spent
        · intro fetching
          cases fetching
        · intro outcome ended
          cases ended
          exact ⟨completion, done, rfl⟩
    | ended outcome =>
        simp only [proceed, stage] at taken
        cases taken

theorem kept_step {label : Label τ α} (kept : Kept s) (taken : step call s label = some s') :
    meets s label = true ∧ Kept s' ∨ meets s label = false ∧ Spoiled s' := by
  cases label with
  | proceed => exact kept_proceed kept taken
  | completes completion => exact kept_completes taken
  | elapses duration => exact .inl ⟨rfl, kept_elapses kept taken⟩

theorem spoiled_step {label : Label τ α} (spoiled : Spoiled s)
    (taken : step call s label = some s') : Spoiled s' := by
  cases label with
  | proceed =>
      obtain ⟨still, same⟩ := proceed_giveUp spoiled.spent taken
      have completed := spoiled.completed
      exact ⟨still, by simpa [State.completedOwn, same] using completed⟩
  | completes completion =>
      obtain ⟨⟨pending, _⟩, _⟩ := Option.ite_none_right_eq_some.mp taken
      have completed := spoiled.completed
      simp [State.completedOwn, pending] at completed
  | elapses duration =>
      obtain ⟨_, moved⟩ := Option.ite_none_right_eq_some.mp taken
      cases moved
      exact ⟨spoiled.spent, spoiled.completed⟩

variable {now : τ} {future : Option (Completion α)} {history : List (State τ α × Label τ α)}

theorem kept_start : Kept (start call now future) := .of_stage rfl (by simp [start]) rfl

theorem run_kept_or_spoiled (run : Reaches (step call) (start call now future) history s) :
    (∀ taken ∈ history, meets taken.1 taken.2 = true) ∧ Kept s ∨
      (∃ taken ∈ history, meets taken.1 taken.2 = false) ∧ Spoiled s := by
  induction run with
  | start => exact .inl ⟨by simp, kept_start⟩
  | next before taken ih =>
      rcases ih with ⟨met, kept⟩ | ⟨⟨missed, member, fails⟩, spoiled⟩
      · rcases kept_step kept taken with ⟨meets, after⟩ | ⟨fails, after⟩
        · exact .inl ⟨List.forall_mem_cons.mpr ⟨meets, met⟩, after⟩
        · exact .inr ⟨⟨_, List.mem_cons_self, fails⟩, after⟩
      · exact .inr ⟨⟨missed, List.mem_cons_of_mem _ member, fails⟩, spoiled_step spoiled taken⟩

/-- A call of `result` that has ended has discarded no completed task and reports what the
task came to, exactly when no completion of the task's own fell between its last look at
the future and the end of its grace. -/
theorem result_truthful_iff (call : Call τ) (now : τ) (future : Option (Completion α))
    (history : List (State τ α × Label τ α)) (s : State τ α)
    (run : Reaches (step call) (start call now future) history s) (isOver : s.isOver = true) :
    s.Truthful ↔ ∀ taken ∈ history, meets taken.1 taken.2 = true := by
  rcases run_kept_or_spoiled run with ⟨met, kept⟩ | ⟨⟨missed, member, fails⟩, spoiled⟩
  · exact ⟨fun _ => met, fun _ => kept.truthful⟩
  · constructor
    · intro truthful
      exact absurd truthful (spoiled.not_truthful isOver)
    · intro met
      rw [met missed member] at fails
      cases fails

def zeroTimeout : Call Int where
  timeout := some 0
  interval := 1
  grace := 2
  shownTimeout := "0"
  shownGrace := "2"
  accepted limit given := by
    cases given
    exact le_refl _

theorem result_truthful_cancelled :
    ∃ (history : List (State Int Nat × Label Int Nat)) (s : State Int Nat),
      Reaches (step zeroTimeout) (start zeroTimeout 0 none) history s ∧ s.isOver = true ∧
        (s.Truthful ↔ ∀ taken ∈ history, meets taken.1 taken.2 = true) := by
  have started : Reaches (step zeroTimeout) (start zeroTimeout 0 none : State Int Nat) [] _ :=
    .start
  have run := started.follow
    [.proceed, .proceed, .proceed, .proceed, .completes (.cancelled none), .proceed, .proceed,
      .proceed] rfl
  exact ⟨_, _, run, rfl, result_truthful_iff zeroTimeout 0 none _ _ run rfl⟩

/-- The task completes between the look at `done()` and the look at the clock. -/
theorem completed_task_discarded :
    ∃ (history : List (State Int Nat × Label Int Nat)) (s : State Int Nat),
      Reaches (step zeroTimeout) (start zeroTimeout 0 none) history s ∧
        s.future = some (.own (.ok 5)) ∧ s.stage = .timedOut (timeoutExpired zeroTimeout true) ∧
          ¬ s.Truthful := by
  have started : Reaches (step zeroTimeout) (start zeroTimeout 0 none : State Int Nat) [] _ :=
    .start
  have run := started.follow
    [.proceed, .completes (.own (.ok 5)), .proceed, .proceed, .proceed, .proceed, .proceed] rfl
  refine ⟨_, _, run, rfl, rfl, ?_⟩
  intro truthful
  cases truthful (.own (.ok 5)) rfl

end Koil.ResultTimeouts
