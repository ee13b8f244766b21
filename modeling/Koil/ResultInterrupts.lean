import Koil.ResultTimeouts
import Koil.Timed
import Mathlib.Algebra.Order.Group.Int
import Mathlib.Tactic.Simps.Basic

/-! `result()` under Ctrl+C, in time: the polling thread, its KeyboardInterrupts and the
handler that asks the task to cancel. -/

namespace Koil.ResultInterrupts

open ResultTimeouts Runs Timed

variable {τ α : Type}

/-- Where the call is: before its `try`, in it, or in `except KeyboardInterrupt`, before the
`done()` of its `self.cancel` or before the `set()` of it; `left` is when an interrupt has left
`result`. -/
inductive Handler
  | entering
  | idle
  | cancelling
  | signalling
  | left
  deriving DecidableEq, Repr

/-- `pressed` is the time of the first Ctrl+C that has not been raised, `unguarded` says that
one was raised before the `try` or in its handler. -/
structure State (τ α : Type) where
  result : ResultTimeouts.State τ α
  handler : Handler
  pressed : Option τ
  unguarded : Bool

def Handler.caught : Handler → Bool
  | .entering | .idle => false
  | _ => true

inductive Label (α : Type) where
  | proceed
  | completes (completion : Completion α)
  | press
  | raise

def State.isOver (s : State τ α) : Bool :=
  match s.handler with
  | .idle => s.result.isOver
  | .left => true
  | _ => false

def blocks (s : ResultTimeouts.State τ α) : Bool :=
  match s.stage with
  | .sleeping _ | .granting => true
  | _ => false

@[simps] def State.handle (s : State τ α) (handler : Handler) : State τ α :=
  { s with handler := handler }

@[simps] def State.withResult (s : State τ α) (result : ResultTimeouts.State τ α) : State τ α :=
  { s with result := result }

/-- The thread acts at once unless it is blocked, and then when the wait is over: an
interrupt need not end the wait. -/
def latest (now : τ) (s : State τ α) : Option τ :=
  match s.handler with
  | .idle =>
      match s.result.stage with
      | .waiting wake | .graceWait wake => if s.result.future.isSome then some now else some wake
      | .timedOut _ | .ended _ => none
      | _ => some now
  | .left => none
  | _ => some now

theorem latest_cases (s : State τ α) (now : τ) :
    latest now s = some now ∨ s.isOver = true ∨
      ∃ wake, latest now s = some wake ∧ s.handler = .idle ∧ s.result.future = none ∧
        (s.result.stage = .waiting wake ∨ s.result.stage = .graceWait wake) := by
  unfold latest State.isOver ResultTimeouts.State.isOver
  cases at_ : s.handler with
  | entering | cancelling | signalling => exact .inl rfl
  | left => exact .inr (.inl rfl)
  | idle =>
      cases stage : s.result.stage with
      | doneCheck | deadlineCheck | sleeping | expired | signalling | granting | givingUp
      | fetching => exact .inl rfl
      | timedOut | ended => exact .inr (.inl rfl)
      | waiting wake =>
          cases pending : s.result.future with
          | some completion => exact .inl rfl
          | none => exact .inr (.inr ⟨wake, rfl, rfl, rfl, .inl rfl⟩)
      | graceWait wake =>
          cases pending : s.result.future with
          | some completion => exact .inl rfl
          | none => exact .inr (.inr ⟨wake, rfl, rfl, rfl, .inr rfl⟩)

theorem over_cases {s : State τ α} (isOver : s.isOver = true) :
    s.handler = .left ∨ s.handler = .idle ∧
      ((∃ error, s.result.stage = .timedOut error) ∨
        ∃ outcome, s.result.stage = .ended outcome) := by
  unfold State.isOver ResultTimeouts.State.isOver at isOver
  split at isOver
  · next idle =>
      right
      refine ⟨idle, ?_⟩
      split at isOver
      · next error stage => exact .inl ⟨error, stage⟩
      · next outcome stage => exact .inr ⟨outcome, stage⟩
      · cases isOver
  · next left => exact .inl left
  · cases isOver

variable [AddCommGroup τ] [LinearOrder τ]

/-- The thread's next step at a time. An interrupt that is there is raised before the
thread blocks. -/
def proceedAt (call : Call τ) (now : τ) (s : State τ α) : Option (State τ α) :=
  match s.handler with
  | .entering => some (s.handle .idle)
  | .idle =>
      if s.pressed.isSome && blocks s.result then none
      else (proceed call { s.result with now := now }).map s.withResult
  | .cancelling =>
      if s.result.future.isSome then some (s.handle .left)
      else some ((s.withResult { s.result with cancelRequested := true }).handle .signalling)
  | .signalling => some ((s.withResult { s.result with cancelEvent := true }).handle .left)
  | .left => none

def stepAt (call : Call τ) (now : τ) (s : State τ α) : Label α → Option (State τ α)
  | .proceed => proceedAt call now s
  | .completes completion =>
      if s.result.future = none ∧ s.isOver = false then
        some (s.withResult { s.result with future := some completion })
      else none
  | .press => if s.pressed = none then some { s with pressed := some now } else none
  | .raise =>
      if s.pressed.isSome = true ∧ s.isOver = false then
        match s.handler with
        | .idle => some { s with handler := .cancelling, pressed := none }
        | _ => some { s with handler := .left, pressed := none, unguarded := true }
      else none

def system (call : Call τ) : System (State τ α) (Label α) τ := ⟨stepAt call, latest⟩

def begin (call : Call τ) (begun : τ) (future : Option (Completion α)) : State τ α :=
  ⟨ResultTimeouts.start call begun future, .entering, none, false⟩

def patience (call : Call τ) : τ :=
  match call.timeout with
  | none => max call.interval 0
  | some _ => max (max call.interval call.grace) 0

def InTime (call : Call τ) (now deadline : τ) (s : State τ α) : Prop :=
  match s.handler with
  | .entering | .idle =>
      match s.result.stage with
      | .sleeping slice => now ≤ deadline ∧ now + slice ≤ deadline
      | .waiting wake => now ≤ deadline ∧ wake ≤ deadline
      | .graceWait wake =>
          now ≤ deadline + max call.grace 0 ∧ wake ≤ deadline + max call.grace 0
      | .givingUp _ => now ≤ deadline + max call.grace 0
      | .timedOut _ | .ended _ => True
      | _ => now ≤ deadline
  | .left => True
  | _ => now ≤ deadline + max call.grace 0

/-- The wait that the thread is in or about to begin is no longer than an interrupt may
have to wait. -/
def Patient (call : Call τ) (now : τ) (s : State τ α) : Prop :=
  match s.result.stage with
  | .sleeping slice => slice ≤ patience call
  | .waiting wake | .graceWait wake =>
      wake ≤ now + patience call ∧
        ∀ pressed, s.pressed = some pressed → wake ≤ pressed + patience call
  | .expired | .signalling | .granting => call.timeout.isSome = true
  | _ => True

structure Inv (call : Call τ) (begun : τ) (future : Option (Completion α)) (now : τ)
    (s : State τ α) : Prop where
  past : s.result.now ≤ now
  fresh : s.handler = .entering → s.result.stage = .doneCheck
  deadline : s.result.deadline = call.timeout.map (begun + ·)
  led : s.handler.caught = false →
    Leads (ResultTimeouts.step call) (ResultTimeouts.start call begun future) s.result
  inTime : ∀ deadline, s.result.deadline = some deadline → InTime call now deadline s
  patient : s.handler.caught = false → Patient call now s
  prompt : s.isOver = false → ∀ pressed, s.pressed = some pressed → now ≤ pressed + patience call
  told : s.handler = .left →
    s.result.future.isSome = true ∨ s.result.cancelEvent = true ∨ s.unguarded = true

variable {call : Call τ} {begun now : τ} {future : Option (Completion α)} {s s' : State τ α}
  {r r' : ResultTimeouts.State τ α}

theorem proceed_keeps (taken : proceed call r = some r') :
    r'.now = r.now ∧ r'.deadline = r.deadline := by
  unfold proceed at taken
  cases stage : r.stage with
  | doneCheck | sleeping | signalling | granting | givingUp =>
      simp only [stage, Option.some.injEq] at taken
      subst taken
      exact ⟨rfl, rfl⟩
  | deadlineCheck =>
      simp only [stage] at taken
      split at taken
      · cases taken
        exact ⟨rfl, rfl⟩
      · split at taken <;> cases taken <;> exact ⟨rfl, rfl⟩
  | expired =>
      simp only [stage] at taken
      split at taken <;> cases taken <;> exact ⟨rfl, rfl⟩
  | waiting wake | graceWait wake =>
      simp only [stage] at taken
      obtain ⟨_, moved⟩ := Option.ite_none_right_eq_some.mp taken
      cases moved
      exact ⟨rfl, rfl⟩
  | fetching =>
      simp only [stage] at taken
      obtain ⟨_, _, moved⟩ := Option.map_eq_some_iff.mp taken
      cases moved
      exact ⟨rfl, rfl⟩
  | timedOut | ended =>
      simp only [stage] at taken
      cases taken

theorem patience_nonneg (call : Call τ) : 0 ≤ patience call := by
  unfold patience
  split <;> exact le_max_right _ _

theorem interval_le_patience (call : Call τ) : call.interval ≤ patience call := by
  unfold patience
  split
  · exact le_max_left _ _
  · exact (le_max_left _ _).trans (le_max_left _ _)

theorem grace_le_patience (bounded : call.timeout.isSome = true) : call.grace ≤ patience call := by
  unfold patience
  split
  · next none =>
      rw [none] at bounded
      cases bounded
  · exact (le_max_right _ _).trans (le_max_left _ _)

theorem Inv.going (held : Inv call begun future now s) (running : s.isOver = false)
    (uncaught : s.handler.caught = false) : s.result.isOver = false := by
  unfold State.isOver at running
  cases at_ : s.handler with
  | entering => simp [ResultTimeouts.State.isOver, held.fresh at_]
  | idle => simpa [at_] using running
  | cancelling | signalling | left => simp [at_, Handler.caught] at uncaught

theorem inv_enters (held : Inv call begun future now s) (entering : s.handler = .entering) :
    Inv call begun future now (s.handle .idle) := by
  have running : s.isOver = false := by simp [State.isOver, entering]
  have uncaught : s.handler.caught = false := by simp [entering, Handler.caught]
  refine ⟨held.past, by simp, held.deadline, fun _ => held.led uncaught, ?_,
    fun _ => held.patient uncaught, fun _ => held.prompt running, by simp⟩
  intro deadline same
  have late := held.inTime deadline same
  unfold InTime at late ⊢
  rw [entering] at late
  exact late

theorem inv_handler {handler : Handler} {cancelRequested cancelEvent : Bool}
    (held : Inv call begun future now s) (running : s.isOver = false)
    (busy : s.handler.caught = true) (next : handler.caught = true)
    (told : handler = .left → s.result.future.isSome = true ∨ cancelEvent = true) :
    Inv call begun future now ((s.withResult { s.result with
      cancelRequested := cancelRequested, cancelEvent := cancelEvent }).handle handler) := by
  refine ⟨held.past, ?_, held.deadline, ?_, ?_, ?_, ?_, ?_⟩
  · rintro rfl
    cases next
  · intro uncaught
    rw [State.handle_handler, next] at uncaught
    cases uncaught
  · intro deadline same
    have late := held.inTime deadline same
    unfold InTime at late ⊢
    cases handler with
    | entering | idle => cases next
    | left => exact trivial
    | cancelling | signalling =>
        unfold State.isOver at running
        cases at_ : s.handler with
        | entering | idle => simp [at_, Handler.caught] at busy
        | left => simp [at_] at running
        | cancelling | signalling =>
            rw [at_] at late
            exact late
  · intro uncaught
    rw [State.handle_handler, next] at uncaught
    cases uncaught
  · intro _
    exact held.prompt running
  · intro left
    rcases told left with done | asked
    · exact .inl done
    · exact .inr (.inl asked)

theorem inv_completes {completion : Completion α} (held : Inv call begun future now s)
    (taken : stepAt call now s (.completes completion) = some s') :
    Inv call begun future now s' := by
  obtain ⟨⟨pending, running⟩, moved⟩ := Option.ite_none_right_eq_some.mp taken
  cases moved
  refine ⟨held.past, held.fresh, held.deadline, ?_, held.inTime, held.patient, held.prompt,
    fun _ => .inl rfl⟩
  intro uncaught
  have going : s.result.isOver = false := held.going running uncaught
  refine (held.led uncaught).trans (.of_step (.completes completion) ?_)
  simp [ResultTimeouts.step, pending, going]

theorem proceed_woken {wake : τ} (blocked : r.stage = .waiting wake ∨ r.stage = .graceWait wake)
    (woken : r.woken wake) : (proceed call r).isSome = true := by
  rcases blocked with stage | stage <;> simp [proceed, stage, woken]

def Fetched (r : ResultTimeouts.State τ α) : Prop :=
  r.stage = .fetching → r.future.isSome = true

theorem fetched_proceed (taken : proceed call r = some r') : Fetched r' := by
  unfold proceed at taken
  cases stage : r.stage with
  | doneCheck =>
      simp only [stage, Option.some.injEq] at taken
      subst taken
      cases done : r.future with
      | none => simp [Fetched]
      | some completion => simp [Fetched]
  | sleeping | signalling | granting | givingUp =>
      simp only [stage, Option.some.injEq] at taken
      subst taken
      simp [Fetched]
  | deadlineCheck =>
      simp only [stage] at taken
      split at taken
      · cases taken
        simp [Fetched]
      · split at taken <;> cases taken <;> simp [Fetched]
  | expired =>
      simp only [stage] at taken
      split at taken <;> cases taken <;> simp [Fetched]
  | waiting wake | graceWait wake =>
      simp only [stage] at taken
      obtain ⟨_, moved⟩ := Option.ite_none_right_eq_some.mp taken
      cases moved
      simp [Fetched]
  | fetching =>
      simp only [stage] at taken
      obtain ⟨_, _, moved⟩ := Option.map_eq_some_iff.mp taken
      cases moved
      simp [Fetched]
  | timedOut | ended =>
      simp only [stage] at taken
      cases taken

theorem fetched_of_leads
    (led : Leads (ResultTimeouts.step call) (ResultTimeouts.start call begun future) r) :
    Fetched r := by
  obtain ⟨history, run⟩ := led
  apply run.invariant
  · simp [Fetched, ResultTimeouts.start]
  · intro r label r' held taken
    cases label with
    | proceed => exact fetched_proceed taken
    | completes completion =>
        obtain ⟨_, moved⟩ := Option.ite_none_right_eq_some.mp taken
        cases moved
        exact fun _ => rfl
    | elapses duration =>
        obtain ⟨_, moved⟩ := Option.ite_none_right_eq_some.mp taken
        cases moved
        exact held

theorem free_of_inv (held : Inv call begun future now s) (running : s.isOver = false) :
    (system call).Free now s := by
  have acts : ∀ label, (stepAt call now s label).isSome = true → (system call).Free now s :=
    fun label possible => .inl ⟨label, possible⟩
  by_cases waiting : s.pressed.isSome = true
  · apply acts .raise
    simp only [stepAt, waiting, running, and_self, if_true]
    split <;> rfl
  · cases at_ : s.handler with
    | entering => exact acts .proceed (by simp [stepAt, proceedAt, at_])
    | cancelling =>
        apply acts .proceed
        simp only [stepAt, proceedAt, at_]
        split <;> rfl
    | signalling => exact acts .proceed (by simp [stepAt, proceedAt, at_])
    | left => simp [State.isOver, at_] at running
    | idle =>
        have goes : (proceed call { s.result with now := now }).isSome = true →
            (system call).Free now s := by
          intro possible
          apply acts .proceed
          simpa [stepAt, proceedAt, at_, waiting] using possible
        have blocked : ∀ wake, latest now s = some wake → now < wake →
            (system call).Free now s := by
          intro wake due early
          right
          simpa [system, due] using early
        cases stage : s.result.stage with
        | doneCheck | sleeping | signalling | granting | givingUp =>
            exact goes (by simp [proceed, stage])
        | deadlineCheck =>
            apply goes
            simp only [proceed, stage]
            split
            · rfl
            · split <;> rfl
        | expired =>
            apply goes
            simp only [proceed, stage]
            split <;> rfl
        | waiting wake | graceWait wake =>
            by_cases woken : s.result.future.isSome = true ∨ wake ≤ now
            · exact goes (proceed_woken (by simp [stage]) woken)
            · rw [not_or, not_le] at woken
              exact blocked wake (by simp [latest, at_, stage, woken.1]) woken.2
        | fetching =>
            obtain ⟨completion, done⟩ :=
              Option.isSome_iff_exists.mp
                (fetched_of_leads (held.led (by simp [at_, Handler.caught])) stage)
            exact goes (by simp [proceed, stage, done])
        | timedOut | ended =>
            simp [State.isOver, at_, ResultTimeouts.State.isOver, stage] at running

variable [IsOrderedAddMonoid τ]

theorem leads_proceed (past : r.now ≤ now) (taken : proceed call { r with now := now } = some r') :
    Leads (ResultTimeouts.step call) r r' := by
  have running : r.isOver = false := by
    unfold ResultTimeouts.State.isOver
    split
    · next stage => simp [proceed, stage] at taken
    · next stage => simp [proceed, stage] at taken
    · rfl
  have elapsed : ResultTimeouts.step call r (.elapses (now - r.now)) =
      some { r with now := now } := by
    simp [ResultTimeouts.step, running, sub_nonneg.mpr past]
  exact (Leads.of_step _ elapsed).trans (.of_step .proceed taken)

theorem le_extended {deadline : τ} (early : now ≤ deadline) : now ≤ deadline + max call.grace 0 :=
  early.trans (le_add_of_nonneg_right (le_max_right _ _))

theorem inTime_proceed {deadline : τ} (idle : s.handler = .idle)
    (held : InTime call now deadline s) (due : s.result.deadline = some deadline)
    (taken : proceed call { s.result with now := now } = some r') :
    InTime call now deadline (s.withResult r') := by
  unfold InTime at held ⊢
  simp only [idle, State.withResult_handler, State.withResult_result] at held ⊢
  unfold proceed at taken
  cases stage : s.result.stage with
  | doneCheck =>
      simp only [stage, Option.some.injEq] at taken held
      subst taken
      cases s.result.future.isSome <;> exact held
  | deadlineCheck =>
      simp only [stage, due] at taken held
      split at taken
      · cases taken
        exact held
      · next early =>
          cases taken
          refine ⟨held, ?_⟩
          calc now + min call.interval (deadline - now) ≤ now + (deadline - now) :=
                add_le_add_right (min_le_right _ _) now
            _ = deadline := add_sub_cancel now deadline
  | sleeping slice =>
      simp only [stage, Option.some.injEq] at taken held
      subst taken
      exact held
  | waiting wake =>
      simp only [stage] at taken held
      obtain ⟨_, moved⟩ := Option.ite_none_right_eq_some.mp taken
      cases moved
      exact held.1
  | expired =>
      simp only [stage] at taken held
      split at taken <;> cases taken <;> exact held
  | signalling =>
      simp only [stage, Option.some.injEq] at taken held
      subst taken
      exact held
  | granting =>
      simp only [stage, Option.some.injEq] at taken held
      subst taken
      exact ⟨le_extended held, add_le_add held (le_max_left _ _)⟩
  | graceWait wake =>
      simp only [stage] at taken held
      obtain ⟨_, moved⟩ := Option.ite_none_right_eq_some.mp taken
      cases moved
      exact held.1
  | givingUp done =>
      simp only [stage, Option.some.injEq] at taken
      subst taken
      exact trivial
  | fetching =>
      simp only [stage] at taken
      obtain ⟨_, _, moved⟩ := Option.map_eq_some_iff.mp taken
      cases moved
      exact trivial
  | timedOut | ended =>
      simp only [stage] at taken
      cases taken

theorem patient_proceed (held : Patient call now s)
    (same : s.result.deadline = call.timeout.map (begun + ·))
    (quiet : blocks s.result = true → s.pressed = none)
    (taken : proceed call { s.result with now := now } = some r') :
    Patient call now (s.withResult r') := by
  unfold Patient at held ⊢
  simp only [State.withResult_result, State.withResult_pressed] at held ⊢
  unfold proceed at taken
  cases stage : s.result.stage with
  | doneCheck =>
      simp only [stage, Option.some.injEq] at taken
      subst taken
      cases s.result.future.isSome <;> exact trivial
  | deadlineCheck =>
      simp only [stage] at taken
      split at taken
      · cases taken
        exact interval_le_patience call
      · next deadline due =>
          have bounded : call.timeout.isSome = true := by
            rw [due] at same
            cases timeout : call.timeout with
            | none => simp [timeout] at same
            | some limit => rfl
          split at taken
          · cases taken
            exact bounded
          · cases taken
            exact (min_le_left _ _).trans (interval_le_patience call)
  | sleeping slice =>
      simp only [stage, Option.some.injEq] at taken held
      subst taken
      refine ⟨add_le_add_right held now, ?_⟩
      simp [quiet (by simp [blocks, stage])]
  | waiting wake =>
      simp only [stage] at taken
      obtain ⟨_, moved⟩ := Option.ite_none_right_eq_some.mp taken
      cases moved
      exact trivial
  | expired =>
      simp only [stage] at taken held
      split at taken <;> cases taken <;> exact held
  | signalling =>
      simp only [stage, Option.some.injEq] at taken held
      subst taken
      exact held
  | granting =>
      simp only [stage, Option.some.injEq] at taken held
      subst taken
      refine ⟨add_le_add_right (grace_le_patience held) now, ?_⟩
      simp [quiet (by simp [blocks, stage])]
  | graceWait wake =>
      simp only [stage] at taken
      obtain ⟨_, moved⟩ := Option.ite_none_right_eq_some.mp taken
      cases moved
      exact trivial
  | givingUp done =>
      simp only [stage, Option.some.injEq] at taken
      subst taken
      exact trivial
  | fetching =>
      simp only [stage] at taken
      obtain ⟨_, _, moved⟩ := Option.map_eq_some_iff.mp taken
      cases moved
      exact trivial
  | timedOut | ended =>
      simp only [stage] at taken
      cases taken

theorem inv_result (held : Inv call begun future now s) (idle : s.handler = .idle)
    (quiet : blocks s.result = true → s.pressed = none)
    (taken : proceed call { s.result with now := now } = some r') :
    Inv call begun future now (s.withResult r') := by
  obtain ⟨clock, due⟩ := proceed_keeps taken
  have uncaught : s.handler.caught = false := by simp [idle, Handler.caught]
  have running : s.isOver = false := by
    unfold State.isOver ResultTimeouts.State.isOver
    rw [idle]
    dsimp only
    split
    · next stage => simp [proceed, stage] at taken
    · next stage => simp [proceed, stage] at taken
    · rfl
  refine ⟨clock.le, by simp [idle], due.trans held.deadline, ?_, ?_, ?_, ?_, ?_⟩
  · intro _
    exact (held.led uncaught).trans (leads_proceed held.past taken)
  · intro deadline same
    have before : s.result.deadline = some deadline := due.symm.trans same
    exact inTime_proceed idle (held.inTime deadline before) before taken
  · intro _
    exact patient_proceed (held.patient uncaught) held.deadline quiet taken
  · intro _
    exact held.prompt running
  · intro left
    rw [State.withResult_handler, idle] at left
    cases left

theorem inv_proceed (held : Inv call begun future now s)
    (taken : stepAt call now s .proceed = some s') : Inv call begun future now s' := by
  simp only [stepAt, proceedAt] at taken
  cases at_ : s.handler with
  | entering =>
      simp only [at_, Option.some.injEq] at taken
      subst taken
      exact inv_enters held at_
  | idle =>
      simp only [at_] at taken
      split at taken
      · cases taken
      · next free =>
          obtain ⟨result, moved, rfl⟩ := Option.map_eq_some_iff.mp taken
          refine inv_result held at_ ?_ moved
          intro stops
          simpa [stops] using free
  | cancelling =>
      simp only [at_] at taken
      have running : s.isOver = false := by simp [State.isOver, at_]
      split at taken
      · next done =>
          cases taken
          exact inv_handler held running (by simp [at_, Handler.caught]) rfl (fun _ => .inl done)
      · cases taken
        exact inv_handler held running (by simp [at_, Handler.caught]) rfl (by simp)
  | signalling =>
      simp only [at_, Option.some.injEq] at taken
      subst taken
      have running : s.isOver = false := by simp [State.isOver, at_]
      exact inv_handler held running (by simp [at_, Handler.caught]) rfl (fun _ => .inr rfl)
  | left =>
      simp only [at_] at taken
      cases taken

theorem late_running {deadline : τ} (held : Inv call begun future now s)
    (running : s.isOver = false) (due : s.result.deadline = some deadline) :
    now ≤ deadline + max call.grace 0 := by
  have inTime := held.inTime deadline due
  unfold InTime at inTime
  cases at_ : s.handler with
  | entering | idle =>
      have going := held.going running (by simp [at_, Handler.caught])
      simp only [at_] at inTime
      cases stage : s.result.stage with
      | timedOut | ended => simp [ResultTimeouts.State.isOver, stage] at going
      | doneCheck | deadlineCheck | expired | signalling | granting | fetching =>
          simp only [stage] at inTime
          exact le_extended inTime
      | sleeping | waiting =>
          simp only [stage] at inTime
          exact le_extended inTime.1
      | graceWait =>
          simp only [stage] at inTime
          exact inTime.1
      | givingUp =>
          simp only [stage] at inTime
          exact inTime
  | left => simp [State.isOver, at_] at running
  | cancelling | signalling =>
      simp only [at_] at inTime
      exact inTime

theorem inv_press (held : Inv call begun future now s)
    (taken : stepAt call now s .press = some s') : Inv call begun future now s' := by
  obtain ⟨_, moved⟩ := Option.ite_none_right_eq_some.mp taken
  cases moved
  refine ⟨held.past, held.fresh, held.deadline, held.led, held.inTime, ?_, ?_, held.told⟩
  · intro uncaught
    have before := held.patient uncaught
    unfold Patient at before ⊢
    dsimp only
    cases stage : s.result.stage with
    | waiting | graceWait =>
        simp only [stage] at before
        exact ⟨before.1, by simpa using before.1⟩
    | sleeping | expired | signalling | granting =>
        simp only [stage] at before
        exact before
    | doneCheck | deadlineCheck | givingUp | fetching | timedOut | ended => exact trivial
  · rintro _ _ ⟨⟩
    exact le_add_of_nonneg_right (patience_nonneg call)

theorem inv_raise (held : Inv call begun future now s)
    (taken : stepAt call now s .raise = some s') : Inv call begun future now s' := by
  obtain ⟨⟨_, running⟩, moved⟩ := Option.ite_none_right_eq_some.mp taken
  have late : ∀ deadline, s.result.deadline = some deadline →
      now ≤ deadline + max call.grace 0 :=
    fun deadline same => late_running held running same
  split at moved
  · cases moved
    exact ⟨held.past, nofun, held.deadline, nofun, late, nofun, nofun, nofun⟩
  · cases moved
    exact ⟨held.past, nofun, held.deadline, nofun, fun _ _ => trivial, nofun, nofun,
      fun _ => .inr (.inr rfl)⟩

theorem inv_step {label : Label α} (held : Inv call begun future now s)
    (taken : stepAt call now s label = some s') : Inv call begun future now s' := by
  cases label with
  | proceed => exact inv_proceed held taken
  | completes completion => exact inv_completes held taken
  | press => exact inv_press held taken
  | raise => exact inv_raise held taken

theorem inv_elapse {duration : τ} (held : Inv call begun future now s) (forward : 0 ≤ duration)
    (inTime : ∀ limit ∈ latest now s, now + duration ≤ limit) :
    Inv call begun future (now + duration) s := by
  have later : now ≤ now + duration := le_add_of_nonneg_right forward
  rcases latest_cases s now with due | isOver | ⟨wake, due, idle, _, blocked⟩
  · have still : now + duration ≤ now := inTime now due
    have none : duration = 0 := le_antisymm (by simpa using still) forward
    simpa [none] using held
  · refine ⟨held.past.trans later, held.fresh, held.deadline, held.led, ?_, ?_, ?_, held.told⟩
    · intro deadline _
      unfold InTime
      rcases over_cases isOver with left | ⟨idle, ⟨_, stage⟩ | ⟨_, stage⟩⟩
      · rw [left]
        exact trivial
      · rw [idle, stage]
        exact trivial
      · rw [idle, stage]
        exact trivial
    · intro uncaught
      unfold Patient
      rcases over_cases isOver with left | ⟨_, ⟨_, stage⟩ | ⟨_, stage⟩⟩
      · rw [left] at uncaught
        cases uncaught
      · rw [stage]
        exact trivial
      · rw [stage]
        exact trivial
    · intro running
      rw [isOver] at running
      cases running
  · have early : now + duration ≤ wake := inTime wake due
    have patient := held.patient (by simp [idle, Handler.caught])
    refine ⟨held.past.trans later, held.fresh, held.deadline, held.led, ?_, ?_, ?_, held.told⟩
    · intro deadline same
      have before := held.inTime deadline same
      unfold InTime at before ⊢
      rw [idle] at before ⊢
      rcases blocked with waits | waits <;> rw [waits] at before ⊢ <;>
        exact ⟨early.trans before.2, before.2⟩
    · intro _
      unfold Patient at patient ⊢
      rcases blocked with waits | waits <;> rw [waits] at patient ⊢ <;>
        exact ⟨patient.1.trans (add_le_add_left later _), patient.2⟩
    · intro _ pressed same
      unfold Patient at patient
      rcases blocked with waits | waits <;> rw [waits] at patient <;>
        exact early.trans (patient.2 pressed same)

theorem inv_begin (call : Call τ) (begun : τ) (future : Option (Completion α)) :
    Inv call begun future begun (begin call begun future) := by
  refine ⟨le_refl begun, fun _ => rfl, rfl, fun _ => .refl _, ?_, fun _ => trivial, nofun, nofun⟩
  intro deadline same
  obtain ⟨limit, timeout, rfl⟩ := Option.map_eq_some_iff.mp same
  exact le_add_of_nonneg_right (call.accepted limit timeout)

theorem inv_run (run : (system call).Runs begun (begin call begun future) now s) :
    Inv call begun future now s :=
  run.invariant (inv_begin call begun future) (fun _ _ _ _ held taken => inv_step held taken)
    (fun _ _ _ held forward inTime => inv_elapse held forward inTime)

/-- A `result()` under Ctrl+C, in time. Until it is over, time can go on or somebody has a
step to take; a Ctrl+C has been raised in it within `patience`, and with a timeout it is over
by the deadline and the grace, whatever the task does. A KeyboardInterrupt leaves it only
with the task done or asked to cancel, unless it was raised before the `try` or another one
in the handler, and without KeyboardInterrupts it is the polling of `result(timeout)`. -/
theorem result_interrupted_in_time
    (run : (system call).Runs begun (begin call begun future) now s) :
    (s.handler.caught = false →
      Leads (ResultTimeouts.step call) (ResultTimeouts.start call begun future) s.result) ∧
    (s.handler = .left →
      s.result.future.isSome = true ∨ s.result.cancelEvent = true ∨ s.unguarded = true) ∧
    (s.isOver = false →
      (system call).Free now s ∧
      (∀ pressed, s.pressed = some pressed → now ≤ pressed + patience call) ∧
      ∀ limit, call.timeout = some limit → now ≤ begun + limit + max call.grace 0) := by
  have held : Inv call begun future now s := inv_run run
  refine ⟨held.led, held.told, ?_⟩
  intro running
  refine ⟨free_of_inv held running, held.prompt running, ?_⟩
  intro limit timeout
  have due : s.result.deadline = some (begun + limit) := by
    rw [held.deadline, timeout]
    rfl
  exact late_running held running due

def polled : Call Int where
  timeout := some 10
  interval := 3
  grace := 5
  shownTimeout := "10"
  shownGrace := "5"
  accepted := by simp

def polledActions : List (Action (Label Unit) Int) :=
  [.act .proceed, .act .proceed, .act .proceed, .act .proceed, .elapse 3, .act .proceed,
    .act .proceed, .act .proceed, .act .proceed, .elapse 1, .act .press, .elapse 2, .act .proceed]

def polledLate : State Int Unit where
  result :=
    { ResultTimeouts.start polled 0 none with
      now := 6
      stage := .doneCheck }
  handler := .idle
  pressed := some 4
  unguarded := false

theorem result_interrupted_in_time_polled :
    (6 : Int) ≤ 4 + patience polled ∧ (6 : Int) ≤ 0 + 10 + max 5 0 := by
  have run : (system polled).Runs 0 (begin polled 0 none) 6 polledLate :=
    ⟨_, Reaches.start.follow polledActions rfl⟩
  obtain ⟨_, _, bounds⟩ := result_interrupted_in_time run
  obtain ⟨_, prompt, inTime⟩ := bounds rfl
  exact ⟨prompt 4 rfl, inTime 10 rfl⟩

/-- A Ctrl+C before the `try` leaves the task alone. -/
example : (system polled).Runs 0 (begin polled 0 (none : Option (Completion Unit))) 0
    { begin polled 0 none with handler := .left, unguarded := true } :=
  ⟨_, Reaches.start.follow [.act .press, .act .raise] rfl⟩

end Koil.ResultInterrupts
