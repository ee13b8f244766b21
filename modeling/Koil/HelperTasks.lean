import Koil.Race
import Koil.Runs

namespace Koil.HelperTasks

open Race Runs

/-- Where `passed_with_context` is: in `asyncio.wait`, at the head of
`for untask in unfinished`, in the `await` of that loop's body, or at its end. -/
inductive Stage
  | racing
  | tidying (losers : List Racer)
  | awaiting (untask : Racer) (rest : List Racer)
  | ended
  deriving DecidableEq, Repr

/-- `work` is the end of the coroutine or of the generator's loop, `waiters` whether a
waiter has ended and whether by being cancelled. `graceOver` and `cutShort` say how the
wait in the grace was left: when the grace was over, or by a cancellation from outside. -/
structure State where
  work : Option (Except Exc Unit)
  waiters : Racer → Option Bool
  cancelled : Racer → Bool
  timedOut : Bool
  acknowledged : Bool
  graceOver : Bool
  cutShort : Bool
  stage : Stage

def start : State where
  work := none
  waiters _ := none
  cancelled _ := false
  timedOut := false
  acknowledged := true
  graceOver := false
  cutShort := false
  stage := .racing

def State.done (s : State) : Racer → Bool
  | .work => s.work.isSome
  | waiter => (s.waiters waiter).isSome

def State.awaited (s : State) : Racer → Awaited
  | .work =>
      match s.work with
      | none => .stuck
      | some body => awaitEnd (.ofCoroutine body)
  | waiter =>
      match s.waiters waiter with
      | none => .stuck
      | some false => .returned
      | some true => .raised asyncioCancelled

/-- What happens on the loop: the work or a waiter ends, `asyncio.wait` returns with the
set of the unfinished in some order, the loop over this set takes its next task, and the
`await` on it is left, with the task done or else after the grace. The task of
`passed_with_context` may be cancelled from outside, by the loop's shutdown. -/
inductive Label
  | workEnds (body : Except Exc Unit)
  | waiterEnds (waiter : Racer) (cancelled : Bool)
  | wakes (unfinished : List Racer)
  | cancelNext
  | resumes (interrupted : Bool)
  | graceOver
  | finish
  | interrupt
  deriving DecidableEq

variable (config : Config)

/-- `await asyncio.wait_for(asyncio.shield(untask), timeout=grace)`. -/
def State.bounded (s : State) (untask : Racer) : Bool := untask == .work && s.timedOut

/-- The `except` clauses around the `await`, and the next turn of the loop. -/
def State.settle (s : State) (rest : List Racer) (awaiting : Awaited) : Option State :=
  match settleLoser awaiting with
  | .finished acknowledged =>
      some { s with acknowledged := s.acknowledged && acknowledged, stage := .tidying rest }
  | .escaped _ => some { s with stage := .ended }
  | .stuck => none

def step (s : State) : Label → Option State
  | .workEnds body => if s.work = none then some { s with work := some body } else none
  | .waiterEnds waiter cancelled =>
      if waiter ≠ .work ∧ s.waiters waiter = none then
        some { s with waiters := Function.update s.waiters waiter (some cancelled) }
      else none
  | .wakes unfinished =>
      if s.stage = .racing ∧ (∃ racer ∈ config.race, s.done racer = true) ∧
          unfinished.Perm (config.race.filter (fun racer => !s.done racer)) then
        some { s with
          timedOut := config.timeout.isSome && s.done .deadline
          stage := .tidying unfinished }
      else none
  | .cancelNext =>
      match s.stage with
      | .tidying (untask :: rest) =>
          some { s with
            cancelled := Function.update s.cancelled untask true
            stage := .awaiting untask rest }
      | _ => none
  | .resumes interrupted =>
      match s.stage with
      | .awaiting untask rest =>
          if s.done untask then
            s.settle rest (if interrupted then .raised asyncioCancelled else s.awaited untask)
          else if s.bounded untask && interrupted then
            -- the shield lets the cancellation through at once
            some { s with cutShort := true, stage := .tidying rest }
          else none
      | _ => none
  | .graceOver =>
      match s.stage with
      | .awaiting untask rest =>
          if s.bounded untask then
            some { s with acknowledged := false, graceOver := true, stage := .tidying rest }
          else none
      | _ => none
  | .finish => if s.stage = .tidying [] then some { s with stage := .ended } else none
  | .interrupt => if s.stage = .racing then some { s with stage := .ended } else none

/-- A task that `passed_with_context` may leave: done, or the work after a timeout whose
grace is over. -/
def State.settled (s : State) (racer : Racer) : Bool :=
  s.done racer || (racer == .work && s.timedOut && s.graceOver)

/-- Once `passed_with_context` has ended, no task that it created is still running, but
for the work after a timeout whose grace is over. -/
def NoOrphans (s : State) : Prop :=
  s.stage = .ended → ∀ racer ∈ config.race, s.settled racer = true

def State.escapes (s : State) (untask : Racer) : Bool :=
  match settleLoser (s.awaited untask) with
  | .escaped _ => true
  | _ => false

/-- An exception of the losing work leaves the loop only once the tasks after it are done,
the wait for the race is interrupted only once all of them are, and after a wait in the
grace that was cut short the work is done when the loop is over. -/
def meets (s : State) : Label → Bool
  | .resumes interrupted =>
      match s.stage with
      | .awaiting untask rest =>
          interrupted || !s.escapes untask || rest.all s.done
      | _ => true
  | .finish => !(s.cutShort && !s.graceOver && !s.done .work)
  | .interrupt => config.race.all s.done
  | _ => true

def State.handled (s : State) (racer : Racer) : Prop :=
  s.done racer = true ∨ racer = .work ∧ s.timedOut = true ∧ (s.graceOver = true ∨ s.cutShort = true)

def Stage.losers : Stage → Option (List Racer)
  | .tidying losers => some losers
  | .awaiting untask rest => some (untask :: rest)
  | _ => none

structure Inv (s : State) : Prop where
  early : s.stage = .racing → s.timedOut = false
  among : ∀ losers, s.stage.losers = some losers → ∀ racer ∈ losers, racer ∈ config.race
  handled : ∀ losers, s.stage.losers = some losers →
    ∀ racer ∈ config.race, racer ∉ losers → s.handled racer
  good : NoOrphans config s

variable {config} {s s' : State}

structure Later (s s' : State) : Prop where
  done : ∀ racer, s.done racer = true → s'.done racer = true
  timedOut : s'.timedOut = s.timedOut
  graceOver : s'.graceOver = s.graceOver
  cutShort : s'.cutShort = s.cutShort
  stage : s'.stage = s.stage

theorem later_workEnds {body : Except Exc Unit} (taken : step config s (.workEnds body) = some s') :
    Later s s' := by
  obtain ⟨pending, moved⟩ := Option.ite_none_right_eq_some.mp taken
  cases moved
  refine ⟨?_, rfl, rfl, rfl, rfl⟩
  intro racer done
  cases racer with
  | work => rfl
  | ownCancel | ambientCancel | deadline => exact done

theorem later_waiterEnds {waiter : Racer} {cancelled : Bool}
    (taken : step config s (.waiterEnds waiter cancelled) = some s') : Later s s' := by
  obtain ⟨⟨notWork, pending⟩, moved⟩ := Option.ite_none_right_eq_some.mp taken
  cases moved
  refine ⟨?_, rfl, rfl, rfl, rfl⟩
  intro racer done
  by_cases same : racer = waiter
  · subst same
    cases racer with
    | work => exact absurd rfl notWork
    | ownCancel | ambientCancel | deadline => simp [State.done]
  · cases racer with
    | work => exact done
    | ownCancel | ambientCancel | deadline =>
        simpa [State.done, Function.update_of_ne same] using done

theorem Later.settled (later : Later s s') {racer : Racer} (settled : s.settled racer = true) :
    s'.settled racer = true := by
  simp only [State.settled, Bool.or_eq_true] at settled ⊢
  rcases settled with done | left
  · exact .inl (later.done racer done)
  · right
    simpa [later.timedOut, later.graceOver] using left

theorem Later.inv (later : Later s s') (held : Inv config s) : Inv config s' where
  early racing := by
    rw [later.timedOut]
    exact held.early (later.stage ▸ racing)
  among losers stage := held.among losers (later.stage ▸ stage)
  handled losers stage racer created passed := by
    rcases held.handled losers (later.stage ▸ stage) racer created passed with done | left
    · exact .inl (later.done racer done)
    · right
      simpa [later.timedOut, later.graceOver, later.cutShort] using left
  good ended racer created := later.settled (held.good (later.stage ▸ ended) racer created)

theorem escapes_work {untask : Racer} (escapes : s.escapes untask = true) :
    untask = .work ∧ s.done .work = true := by
  cases untask with
  | work =>
      refine ⟨rfl, ?_⟩
      cases pending : s.work with
      | none => simp [State.escapes, State.awaited, pending, settleLoser] at escapes
      | some body => simp [State.done, pending]
  | ownCancel | ambientCancel | deadline =>
      simp only [State.escapes, State.awaited] at escapes
      split at escapes
      · next exc escaped =>
          split at escaped <;> cases escaped
      · cases escapes

theorem noOrphans_of_running (running : s.stage ≠ .ended) : NoOrphans config s :=
  fun ended => absurd ended running

/-- What a step leads to: a task is left behind exactly if the step misses the condition. -/
structure Follows (config : Config) (s' : State) (met : Bool) : Prop where
  good : NoOrphans config s' ↔ met = true
  inv : NoOrphans config s' → Inv config s'

theorem Follows.of_inv (held : Inv config s') : Follows config s' true :=
  ⟨⟨fun _ => rfl, fun _ => held.good⟩, fun _ => held⟩

theorem Follows.of_ended {met : Bool} (ended : s'.stage = .ended)
    (good : NoOrphans config s' ↔ met = true) : Follows config s' met where
  good := good
  inv left :=
    { early := by simp [ended]
      among := by simp [ended, Stage.losers]
      handled := by simp [ended, Stage.losers]
      good := left }

theorem follows_wakes {unfinished : List Racer}
    (taken : step config s (.wakes unfinished) = some s') : Follows config s' true := by
  obtain ⟨⟨racing, _, order⟩, moved⟩ := Option.ite_none_right_eq_some.mp taken
  cases moved
  apply Follows.of_inv
  refine ⟨by simp, ?_, ?_, noOrphans_of_running (by simp)⟩
  · intro losers same racer member
    cases same
    exact (List.mem_filter.mp (order.mem_iff.mp member)).1
  · intro losers same racer created passed
    cases same
    left
    by_contra running
    apply passed
    rw [order.mem_iff, List.mem_filter]
    exact ⟨created, by simpa [State.done] using running⟩

theorem follows_cancelNext (held : Inv config s) (taken : step config s .cancelNext = some s') :
    Follows config s' true := by
  simp only [step] at taken
  split at taken
  · next untask rest stage =>
      cases taken
      apply Follows.of_inv
      refine ⟨by simp, ?_, ?_, noOrphans_of_running (by simp)⟩
      · intro losers same
        cases same
        exact held.among _ (by simp [stage, Stage.losers])
      · intro losers same
        cases same
        exact held.handled _ (by simp [stage, Stage.losers])
  · cases taken

theorem inv_next {untask : Racer} {rest : List Racer} (held : Inv config s)
    (stage : s.stage = .awaiting untask rest) (next : s'.stage = .tidying rest)
    (kept : ∀ racer, s.handled racer → s'.handled racer) (through : s'.handled untask) :
    Inv config s' := by
  have losers : s.stage.losers = some (untask :: rest) := by simp [stage, Stage.losers]
  refine ⟨by simp [next], ?_, ?_, noOrphans_of_running (by simp [next])⟩
  · intro left same racer member
    rw [next] at same
    cases same
    exact held.among _ losers racer (List.mem_cons_of_mem _ member)
  · intro left same racer created passed
    rw [next] at same
    cases same
    by_cases here : racer = untask
    · exact here ▸ through
    · apply kept
      exact held.handled _ losers racer created (by simp [here, passed])

theorem follows_graceOver (held : Inv config s) (taken : step config s .graceOver = some s') :
    Follows config s' true := by
  simp only [step] at taken
  split at taken
  · next untask rest stage =>
      obtain ⟨bounded, moved⟩ := Option.ite_none_right_eq_some.mp taken
      cases moved
      obtain ⟨work, timedOut⟩ : untask = .work ∧ s.timedOut = true := by
        simpa [State.bounded] using bounded
      apply Follows.of_inv
      refine inv_next held stage rfl ?_ ?_
      · rintro racer (done | ⟨same, late, _⟩)
        · exact .inl done
        · exact .inr ⟨same, late, .inl rfl⟩
      · exact .inr ⟨work, timedOut, .inl rfl⟩
  · cases taken

theorem noOrphans_escaped_iff {rest : List Racer} (held : Inv config s)
    (stage : s.stage = .awaiting .work rest) (done : s.done .work = true) :
    NoOrphans config { s with stage := .ended } ↔ rest.all s.done = true := by
  have losers : s.stage.losers = some (.work :: rest) := by simp [stage, Stage.losers]
  constructor
  · intro good
    rw [List.all_eq_true]
    intro racer member
    have settled := good rfl racer (held.among _ losers racer (List.mem_cons_of_mem _ member))
    by_cases work : racer = .work
    · exact work ▸ done
    · simpa [State.settled, State.done, work] using settled
  · intro others ended racer created
    by_cases member : racer ∈ (.work :: rest : List Racer)
    · rcases List.mem_cons.mp member with rfl | later
      · simp only [State.settled, Bool.or_eq_true]
        exact .inl done
      · simp only [State.settled, Bool.or_eq_true]
        exact .inl (List.all_eq_true.mp others racer later)
    · rcases held.handled _ losers racer created member with isOver | ⟨rfl, _⟩
      · simp only [State.settled, Bool.or_eq_true]
        exact .inl isOver
      · exact absurd List.mem_cons_self member

theorem follows_settle {untask : Racer} {rest : List Racer} {interrupted : Bool}
    (held : Inv config s) (stage : s.stage = .awaiting untask rest) (done : s.done untask = true)
    (taken : s.settle rest (if interrupted then .raised asyncioCancelled else s.awaited untask) =
      some s') :
    Follows config s' (interrupted || !s.escapes untask || rest.all s.done) := by
  have through : ∀ acknowledged, Follows config
      { s with acknowledged := s.acknowledged && acknowledged, stage := .tidying rest } true := by
    intro acknowledged
    apply Follows.of_inv
    refine inv_next held stage rfl ?_ (.inl done)
    intro racer handled
    exact handled
  cases interrupted with
  | true =>
      simp only [if_true, State.settle] at taken
      cases taken
      exact through true
  | false =>
      simp only [Bool.false_eq_true, if_false, State.settle] at taken
      cases settled : settleLoser (s.awaited untask) with
      | stuck =>
          simp only [settled] at taken
          cases taken
      | finished acknowledged =>
          simp only [settled] at taken
          cases taken
          have stays : s.escapes untask = false := by simp [State.escapes, settled]
          simpa [stays] using through acknowledged
      | escaped exc =>
          simp only [settled] at taken
          cases taken
          have escapes : s.escapes untask = true := by simp [State.escapes, settled]
          obtain ⟨rfl, isOver⟩ := escapes_work escapes
          have left := noOrphans_escaped_iff held stage isOver
          exact .of_ended rfl (by simpa [escapes] using left)

theorem follows_resumes {interrupted : Bool} (held : Inv config s)
    (taken : step config s (.resumes interrupted) = some s') :
    Follows config s' (meets config s (.resumes interrupted)) := by
  simp only [step] at taken
  cases stage : s.stage with
  | racing | tidying | ended =>
      simp only [stage] at taken
      cases taken
  | awaiting untask rest =>
      simp only [stage] at taken
      simp only [meets, stage]
      by_cases done : s.done untask = true
      · simp only [done, if_true] at taken
        exact follows_settle held stage done taken
      · simp only [done, Bool.false_eq_true, if_false] at taken
        obtain ⟨cut, moved⟩ := Option.ite_none_right_eq_some.mp taken
        obtain ⟨bounded, rfl⟩ := Bool.and_eq_true_iff.mp cut
        cases moved
        obtain ⟨work, timedOut⟩ : untask = .work ∧ s.timedOut = true := by
          simpa [State.bounded] using bounded
        apply Follows.of_inv
        refine inv_next held stage rfl ?_ ?_
        · rintro racer (isOver | ⟨same, late, _⟩)
          · exact .inl isOver
          · exact .inr ⟨same, late, .inr rfl⟩
        · exact .inr ⟨work, timedOut, .inr rfl⟩

theorem follows_finish (held : Inv config s) (taken : step config s .finish = some s') :
    Follows config s' (meets config s .finish) := by
  obtain ⟨stage, moved⟩ := Option.ite_none_right_eq_some.mp taken
  cases moved
  have handled := held.handled [] (by simp [stage, Stage.losers])
  refine .of_ended rfl ?_
  simp only [meets]
  constructor
  · intro good
    have work := good rfl .work (work_mem_race config)
    simp only [State.settled, Bool.or_eq_true] at work
    rcases work with done | left
    · have isOver : s.done .work = true := done
      simp [isOver]
    · have isOver : s.graceOver = true := by simp at left; exact left.2
      simp [isOver]
  · intro met ended racer created
    simp only [State.settled, Bool.or_eq_true]
    rcases handled racer created (by simp) with done | ⟨rfl, late, isOver | cut⟩
    · exact .inl done
    · exact .inr (by simp [late, isOver])
    · by_cases done : s.done .work = true
      · exact .inl done
      · have isOver : s.graceOver = true := by simpa [cut, done] using met
        exact .inr (by simp [late, isOver])

theorem follows_interrupt (held : Inv config s) (taken : step config s .interrupt = some s') :
    Follows config s' (meets config s .interrupt) := by
  obtain ⟨stage, moved⟩ := Option.ite_none_right_eq_some.mp taken
  cases moved
  have inTime := held.early stage
  refine .of_ended rfl ?_
  simp only [meets, List.all_eq_true]
  constructor
  · intro good racer created
    simpa [State.settled, inTime, State.done] using good rfl racer created
  · intro done ended racer created
    simp only [State.settled, Bool.or_eq_true]
    exact .inl (done racer created)

theorem follows_step {label : Label} (held : Inv config s) (taken : step config s label = some s') :
    Follows config s' (meets config s label) := by
  cases label with
  | workEnds body => exact .of_inv ((later_workEnds taken).inv held)
  | waiterEnds waiter cancelled => exact .of_inv ((later_waiterEnds taken).inv held)
  | wakes unfinished => exact follows_wakes taken
  | cancelNext => exact follows_cancelNext held taken
  | resumes interrupted => exact follows_resumes held taken
  | graceOver => exact follows_graceOver held taken
  | finish => exact follows_finish held taken
  | interrupt => exact follows_interrupt held taken

theorem inv_start : Inv config start where
  early _ := rfl
  among losers stage := by cases stage
  handled losers stage := by cases stage
  good := noOrphans_of_running (by simp [start])

/-- The states of a run leave no task of `passed_with_context` behind exactly when every
step of the run meets the condition. -/
theorem no_orphans_iff (config : Config) (history : List (State × Label)) (s : State)
    (run : Reaches (step config) start history s) :
    ((∀ taken ∈ history, NoOrphans config taken.1) ∧ NoOrphans config s) ↔
      ∀ taken ∈ history, meets config taken.1 taken.2 = true := by
  have agree : ∀ before label after, Inv config before → step config before label = some after →
      (NoOrphans config after ↔ meets config before label = true) := by
    intro before label after held taken
    exact (follows_step held taken).good
  have preserved : ∀ before label after, Inv config before → meets config before label = true →
      step config before label = some after → Inv config after := by
    intro before label after held met taken
    exact (follows_step held taken).inv ((agree before label after held taken).mpr met)
  exact run.good_states_iff inv_start inv_start.good preserved agree

theorem tidyUp_cons (awaitLoser : Racer → Awaited) (untask : Racer) (rest : List Racer)
    (acknowledged : Bool) :
    tidyUp awaitLoser (untask :: rest) acknowledged =
      match settleLoser (awaitLoser untask) with
      | .finished settled => tidyUp awaitLoser rest (acknowledged && settled)
      | .escaped exc => .escaped exc
      | .stuck => .stuck := by
  simp only [tidyUp, settleLoser]
  cases awaitLoser untask with
  | returned => simp
  | stuck => rfl
  | raised exc =>
      by_cases timeout : exc.isA .timeoutError = true
      · simp [timeout]
      · by_cases cancel : exc.isA .asyncioCancelledError = true
        · simp [timeout, cancel]
        · simp [timeout, cancel]

/-- Where the loop over the unfinished gets with tasks that are done, and nothing but it
running. -/
def Gets (config : Config) (s : State) : Tidied → Prop
  | .finished acknowledged =>
      ∃ s', Leads (step config) s s' ∧ s'.stage = .tidying [] ∧ s'.acknowledged = acknowledged
  | .escaped _ => ∃ s', Leads (step config) s s' ∧ s'.stage = .ended
  | .stuck => False

theorem Gets.of_leads {tidied : Tidied} (led : Leads (step config) s s')
    (gets : Gets config s' tidied) : Gets config s tidied := by
  cases tidied with
  | finished acknowledged =>
      obtain ⟨last, next, stage, same⟩ := gets
      exact ⟨last, led.trans next, stage, same⟩
  | escaped exc =>
      obtain ⟨last, next, stage⟩ := gets
      exact ⟨last, led.trans next, stage⟩
  | stuck => exact gets

theorem awaited_not_stuck {racer : Racer} (done : s.done racer = true) :
    s.awaited racer ≠ .stuck := by
  cases racer with
  | work =>
      obtain ⟨body, ended⟩ := Option.isSome_iff_exists.mp done
      simp only [State.awaited, ended, awaitEnd]
      split <;> simp
  | ownCancel | ambientCancel | deadline =>
      obtain ⟨cancelled, ended⟩ := Option.isSome_iff_exists.mp done
      simp only [State.awaited, ended]
      cases cancelled <;> simp

theorem settleLoser_stuck_iff (awaiting : Awaited) :
    settleLoser awaiting = .stuck ↔ awaiting = .stuck := by
  cases awaiting with
  | returned | stuck => simp [settleLoser]
  | raised exc =>
      simp only [settleLoser]
      split
      · simp
      · split <;> simp

theorem tidying_gets_tidyUp {losers : List Racer} (stage : s.stage = .tidying losers)
    (done : ∀ racer ∈ losers, s.done racer = true) :
    Gets config s (tidyUp s.awaited losers s.acknowledged) := by
  induction losers generalizing s with
  | nil => exact ⟨s, .refl s, stage, rfl⟩
  | cons untask rest ih =>
      let taken : State :=
        { s with
          cancelled := Function.update s.cancelled untask true
          stage := .awaiting untask rest }
      have first : step config s .cancelNext = some taken := by simp [step, stage, taken]
      have isOver : taken.done untask = true := done untask List.mem_cons_self
      have awaited_same : taken.awaited = s.awaited := by
        funext racer
        cases racer <;> rfl
      have second : step config taken (.resumes false) =
          taken.settle rest (s.awaited untask) := by
        rw [← awaited_same]
        simp only [step, taken]
        exact if_pos isOver
      rw [tidyUp_cons]
      refine .of_leads (.of_step .cancelNext first) ?_
      cases settled : settleLoser (s.awaited untask) with
      | stuck =>
          have stuck := (settleLoser_stuck_iff _).mp settled
          exact absurd stuck (awaited_not_stuck (done untask List.mem_cons_self))
      | escaped exc =>
          simp only [State.settle, settled] at second
          exact ⟨_, .of_step _ second, rfl⟩
      | finished acknowledged =>
          simp only [State.settle, settled] at second
          refine .of_leads (.of_step _ second) ?_
          exact ih rfl (fun racer member => done racer (List.mem_cons_of_mem _ member))

def workerConfig : Config := ⟨true, none, false⟩

theorem no_orphans_cancelled :
    ∃ (history : List (State × Label)) (s : State),
      Reaches (step workerConfig) start history s ∧ s.stage = .ended ∧
        (((∀ taken ∈ history, NoOrphans workerConfig taken.1) ∧ NoOrphans workerConfig s) ↔
          ∀ taken ∈ history, meets workerConfig taken.1 taken.2 = true) := by
  have started : Reaches (step workerConfig) start [] start := .start
  have run := started.follow
    [.waiterEnds .ownCancel false, .wakes [.ambientCancel, .work], .cancelNext,
      .waiterEnds .ambientCancel true, .resumes false, .cancelNext,
      .workEnds (.error (.of .asyncioCancelledError "")), .resumes false, .finish] rfl
  exact ⟨_, _, run, rfl, no_orphans_iff workerConfig _ _ run⟩

/-- The work raises a ValueError while it unwinds, and the waiter for the ambient event has
not had its turn yet. -/
theorem waiter_left_behind :
    ∃ (history : List (State × Label)) (s : State),
      Reaches (step workerConfig) start history s ∧ s.stage = .ended ∧
        s.done .ambientCancel = false ∧ ¬ NoOrphans workerConfig s := by
  have started : Reaches (step workerConfig) start [] start := .start
  have run := started.follow
    [.waiterEnds .ownCancel false, .wakes [.work, .ambientCancel], .cancelNext,
      .workEnds (.error (.of .valueError "cleanup failed")), .resumes false] rfl
  refine ⟨_, _, run, rfl, rfl, ?_⟩
  intro good
  cases good rfl .ambientCancel (by decide)

end Koil.HelperTasks
