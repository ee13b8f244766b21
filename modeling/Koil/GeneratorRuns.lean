import Koil.HelperTasks

/-! One run of `unkoil_gen` or `unkoil_gen_with_timeout`, from its first step to the end of
everything it has left on the loop, and what becomes of the async generator. -/

namespace Koil.GeneratorRuns

open Race Runs

/-- The async generator: not resumed yet, at a `yield`, resumed by a step or by `aclose()`,
over, at a `yield` to which it came in response to the GeneratorExit of `aclose()` or after
that, or freed there. -/
inductive Gen
  | created
  | suspended
  | stepping
  | closing
  | exhausted
  | ignoring
  | abandoned
  deriving DecidableEq, Repr

/-- A generator which `aclose()` would throw a GeneratorExit into. -/
def Gen.isOpen : Gen → Bool
  | .created | .suspended => true
  | _ => false

/-- A step resumes it; `__anext__` does not ask whether `aclose()` has been through. -/
def Gen.resumable : Gen → Bool
  | .created | .suspended | .ignoring => true
  | _ => false

/-- Where the sync generator is: before its first step, at its `yield`, in `result()`, in
its `finally` after an interrupt, in the wait there, in the wait for `aclose()`, or done. -/
inductive Phase
  | starting
  | atYield
  | waiting
  | unwinding
  | settling
  | closing
  | ended
  deriving DecidableEq, Repr

inductive Close
  | none
  | submitted
  | running
  | done
  deriving DecidableEq, Repr

/-- How the steps are submitted, and whether anything keeps the async generator alive when
the sync one is over: the consumer, or the traceback of an exception that it handles. -/
structure Setup where
  race : Config
  held : Bool

/-- `race` is the `passed_with_context` of the last step, `sending` whether the step passes a
value to `__anext__`, `began` whether it has resumed the generator, and `won` whether it had
ended when `asyncio.wait` returned. `ignored` says that the generator has come to a `yield` when
it was closed, `waitOver` that the wait in the `finally` has ended before the future was done,
`hooked` that the interpreter has left the generator to the loop's hook. -/
structure State where
  gen : Gen
  entered : Bool
  ignored : Bool
  finallyRuns : Nat
  race : Option HelperTasks.State
  sending : Bool
  began : Bool
  won : Bool
  cancelRequested : Bool
  waitOver : Bool
  phase : Phase
  close : Close
  hooked : Bool

/-- `ait = iterator(*args, **kwargs).__aiter__()`. -/
def start : State where
  gen := .created
  entered := false
  ignored := false
  finallyRuns := 0
  race := none
  sending := false
  began := false
  won := false
  cancelRequested := false
  waitOver := false
  phase := .starting
  close := .none
  hooked := false

def State.workDone (s : State) : Bool := s.race.all fun race => race.work.isSome

def State.pending (s : State) : Bool := !s.began && s.race.any fun race => race.work.isNone

def State.futureDone (s : State) : Bool := s.race.any fun race => race.stage == .ended

def State.value (s : State) : Bool :=
  s.won && s.race.any fun race =>
    match race.work with
    | some (.ok _) => true
    | _ => false

def State.workCancelled (s : State) : Bool := s.race.any fun race => race.cancelled .work

/-- The sync generator, at its `yield` or in its `result()`; the tasks of its last step and of
its `aclose()`; and the interpreter, which frees a generator that nothing refers to: the loop's
hook closes it, and one whose close is behind it gets one more GeneratorExit, which `ends` it
or not. -/
inductive Label
  | submit (sending : Bool)
  | leave
  | result
  | interrupt
  | settle
  | waited
  | closeReturns
  | resume
  | drop (exc : Exc)
  | yields
  | leaves (exc : Exc)
  | race (label : HelperTasks.Label)
  | closeBegins
  | closeEnds
  | closeYields
  | collected (ends : Bool)

/-- `aclose_async_gen_threadsafe(ait, koil_loop)` up to the wait for the close. -/
def State.toClose (s : State) : State := { s with phase := .closing, close := .submitted }

/-- What happens to a race on a loop that is not shut down, but for the end of its work. -/
def State.allows (setup : Setup) (s : State) : HelperTasks.Label → Bool
  | .workEnds _ | .interrupt | .resumes true => false
  | .waiterEnds .ownCancel false => s.cancelRequested
  | .waiterEnds waiter _ => setup.race.race.contains waiter
  | _ => true

def State.yielded (s : State) : Gen := if s.ignored then .ignoring else .suspended

def State.endWork (setup : Setup) (s : State) (body : Except Exc Unit) : Option State :=
  s.race.bind fun race =>
    (HelperTasks.step setup.race race (.workEnds body)).map fun race => { s with race := some race }

def step (setup : Setup) (s : State) : Label → Option State
  | .submit sending =>
      if s.phase = .starting ∧ sending = false ∨ s.phase = .atYield then
        some { s with
          race := some HelperTasks.start
          sending := sending
          began := false
          won := false
          cancelRequested := false
          phase := .waiting }
      else none
  | .leave =>
      -- the consumer closes the generator or throws into it, or the submission is refused
      if s.phase = .starting ∨ s.phase = .atYield then some s.toClose else none
  | .result =>
      if s.phase = .waiting ∧ s.futureDone = true then
        some (if s.value then { s with phase := .atYield } else s.toClose)
      else none
  | .interrupt =>
      match s.phase with
      | .waiting =>
          some { s with
            cancelRequested := s.cancelRequested || !s.futureDone
            phase := .unwinding }
      | .settling | .closing => some { s with phase := .ended }
      | _ => none
  | .settle =>
      if s.phase = .unwinding then
        some (if s.futureDone then s.toClose
          else { s with cancelRequested := true, phase := .settling })
      else none
  | .waited =>
      if s.phase = .settling then some { s.toClose with waitOver := !s.futureDone } else none
  | .closeReturns => if s.phase = .closing then some { s with phase := .ended } else none
  | .resume =>
      if s.pending = true ∧ s.sending = false ∧ s.workCancelled = false ∧
          s.gen.resumable = true then
        some { s with gen := .stepping, entered := true, began := true }
      else none
  | .drop exc =>
      -- `__anext__` takes no value, the task was cancelled before it began, or the
      -- generator is over or being closed
      if s.pending = true ∧ exc.stopsLoop = false ∧
          (s.sending = true ∨ s.workCancelled = true ∨ s.gen.resumable = false) then
        s.endWork setup (.error exc)
      else none
  | .yields =>
      if s.gen = .stepping then { s with gen := s.yielded }.endWork setup (.ok ()) else none
  | .leaves exc =>
      if s.gen = .stepping ∧ exc.stopsLoop = false then
        { s with gen := .exhausted, finallyRuns := s.finallyRuns + 1 }.endWork setup (.error exc)
      else none
  | .race label =>
      if s.allows setup label = true then
        s.race.bind fun race =>
          (HelperTasks.step setup.race race label).map fun race' =>
            { s with
              race := some race'
              won := match label with
                | .wakes _ => race.work.isSome
                | _ => s.won }
      else none
  | .closeBegins =>
      if s.close = .submitted then
        match s.gen with
        | .suspended => some { s with gen := .closing, close := .running }
        | .created => some { s with gen := .exhausted, close := .done }
        -- a RuntimeError while a step runs, which `aclose_async_gen_threadsafe` swallows
        | _ => some { s with close := .done }
      else none
  | .closeEnds =>
      if s.close = .running ∧ s.gen = .closing then
        some { s with gen := .exhausted, finallyRuns := s.finallyRuns + 1, close := .done }
      else none
  | .closeYields =>
      if s.close = .running ∧ s.gen = .closing then
        some { s with gen := .ignoring, ignored := true, close := .done }
      else none
  | .collected ends =>
      if setup.held = false ∧ s.phase = .ended ∧ s.workDone = true ∧ s.close ≠ .submitted then
        match s.gen with
        | .created => some { s with gen := .exhausted }
        | .suspended => some { s with close := .submitted, hooked := true }
        | .ignoring =>
            -- an object is finalized once, by the hook or by the interpreter itself
            if ends = true ∧ s.hooked = false then
              some { s with gen := .exhausted, finallyRuns := s.finallyRuns + 1 }
            else some { s with gen := .abandoned }
        | _ => none
      else none

/-- The sync generator is over, and nothing it has left on the loop is still to run. -/
structure State.Quiescent (setup : Setup) (s : State) : Prop where
  phase : s.phase = .ended
  work : s.workDone = true
  close : s.close ≠ .submitted ∧ s.close ≠ .running
  garbage : setup.held = false → s.gen.isOpen = false ∧ s.gen ≠ .ignoring

/-- The generator is over, and its body was left once if it was ever entered. -/
structure State.Closed (s : State) : Prop where
  gen : s.gen = .exhausted
  once : s.finallyRuns = s.entered.toNat

/-- No `aclose()` is to come any more: it has been through, or it was never submitted. -/
def State.closeGone (s : State) : Bool :=
  s.close == .done || (s.phase == .ended && s.close == .none)

/-- Of a generator that something keeps alive: no step comes to a `yield` once the close is
gone, a wait in the `finally` is interrupted only where the generator is over or a step may
still end it, and the generator comes to no `yield` when it is closed, but where a step may
still end it. One that nothing refers to is closed when it is freed, unless it stops on the way
in the last GeneratorExit it gets. -/
def meets (setup : Setup) (s : State) : Label → Bool
  | .yields => !(setup.held && s.closeGone)
  | .drop _ => !(setup.held && s.closeGone && s.gen.resumable)
  | .interrupt => !(setup.held && s.phase == .settling && s.gen.isOpen && s.workDone)
  | .closeYields => !((setup.held || s.hooked) && s.workDone)
  | .collected ends => ends || s.gen != .ignoring
  | _ => true

/-- Nothing closes the generator any more. -/
def State.lost (setup : Setup) (s : State) : Bool :=
  s.gen == .abandoned || (s.gen == .ignoring && (setup.held || s.hooked) && s.workDone) ||
    (setup.held && s.closeGone && s.gen.isOpen && s.workDone)

def State.early (s : State) : Bool :=
  match s.phase with
  | .closing | .ended => false
  | _ => true

structure Inv (s : State) : Prop where
  stepping : s.gen = .stepping → s.workDone = false ∧ s.began = true
  closing : s.gen = .closing → s.close = .running
  ignoring : s.gen = .ignoring ∨ s.gen = .abandoned → s.ignored = true
  ignored : s.ignored = true → s.close = .done ∧ s.gen.isOpen = false
  hooked : s.hooked = true → s.phase = .ended ∧ s.workDone = true
  early : s.early = true → s.close = .none
  submitted : s.phase = .closing → s.close ≠ .none
  idle : s.phase = .starting ∨ s.phase = .atYield → s.workDone = true
  counted : s.finallyRuns = if s.gen = .exhausted then s.entered.toNat else 0
  entered : s.gen ≠ .exhausted → s.entered = (s.gen != .created)

theorem inv_start : Inv start := by
  refine ⟨nofun, nofun, nofun, nofun, nofun, fun _ => rfl, nofun, fun _ => rfl, rfl,
    fun _ => rfl⟩

variable {setup : Setup} {s s' : State}

theorem race_onward {config : Config} {race race' : HelperTasks.State} {label : HelperTasks.Label}
    (taken : HelperTasks.step config race label = some race') :
    ((∃ body, label = .workEnds body) ∨ race'.work = race.work) ∧
      (race.graceOver = true → race'.graceOver = true) := by
  cases label with
  | workEnds body =>
      obtain ⟨_, moved⟩ := Option.ite_none_right_eq_some.mp taken
      cases moved
      exact ⟨.inl ⟨body, rfl⟩, id⟩
  | waiterEnds | wakes | finish | interrupt =>
      obtain ⟨_, moved⟩ := Option.ite_none_right_eq_some.mp taken
      cases moved
      exact ⟨.inr rfl, id⟩
  | cancelNext =>
      simp only [HelperTasks.step] at taken
      split at taken <;> cases taken
      exact ⟨.inr rfl, id⟩
  | graceOver =>
      simp only [HelperTasks.step] at taken
      split at taken
      · obtain ⟨_, moved⟩ := Option.ite_none_right_eq_some.mp taken
        cases moved
        exact ⟨.inr rfl, fun _ => rfl⟩
      · cases taken
  | resumes interrupted =>
      have settled : ∀ rest awaiting, race.settle rest awaiting = some race' →
          race'.work = race.work ∧ race'.graceOver = race.graceOver := by
        intro rest awaiting settled
        unfold HelperTasks.State.settle at settled
        split at settled <;> cases settled <;> exact ⟨rfl, rfl⟩
      simp only [HelperTasks.step] at taken
      split at taken
      · split at taken
        · obtain ⟨work, isOver⟩ := settled _ _ taken
          exact ⟨.inr work, fun before => isOver.trans before⟩
        · obtain ⟨_, moved⟩ := Option.ite_none_right_eq_some.mp taken
          cases moved
          exact ⟨.inr rfl, id⟩
      · cases taken

theorem endWork_eq {body : Except Exc Unit} (taken : s.endWork setup body = some s') :
    ∃ race, s' = { s with race := some race } ∧ s'.workDone = true := by
  obtain ⟨race, held, moved⟩ := Option.bind_eq_some_iff.mp taken
  obtain ⟨race', stepped, rfl⟩ := Option.map_eq_some_iff.mp moved
  obtain ⟨_, moved⟩ := Option.ite_none_right_eq_some.mp stepped
  cases moved
  exact ⟨_, rfl, rfl⟩

theorem race_eq {label : HelperTasks.Label} (taken : step setup s (.race label) = some s') :
    ∃ race won, s' = { s with race := some race, won := won } ∧ s'.workDone = s.workDone := by
  obtain ⟨allowed, moved⟩ := Option.ite_none_right_eq_some.mp taken
  obtain ⟨race, held, moved⟩ := Option.bind_eq_some_iff.mp moved
  obtain ⟨race', stepped, rfl⟩ := Option.map_eq_some_iff.mp moved
  refine ⟨race', _, rfl, ?_⟩
  rcases (race_onward stepped).1 with ⟨body, same⟩ | kept
  · subst same
    cases allowed
  · simp [State.workDone, held, kept]

theorem Inv.unfinished (held : Inv s) {gen : Gen} (here : s.gen = gen) (left : gen ≠ .exhausted) :
    s.finallyRuns = 0 ∧ s.entered = (gen != .created) := by
  subst here
  exact ⟨held.counted.trans (if_neg left), held.entered left⟩

theorem Inv.not_closed (held : Inv s) (early : s.early = true) :
    s.gen ≠ .closing ∧ ¬(s.gen = .ignoring ∨ s.gen = .abandoned) := by
  have none := held.early early
  refine ⟨fun closing => ?_, fun ignoring => ?_⟩
  · have running := held.closing closing
    rw [none] at running
    cases running
  · have done := (held.ignored (held.ignoring ignoring)).1
    rw [none] at done
    cases done

theorem Inv.not_ignored (held : Inv s) (close : s.close ≠ .done) : s.ignored = false := by
  cases ignored : s.ignored with
  | false => rfl
  | true => exact absurd (held.ignored ignored).1 close

theorem Inv.not_ignored_early (held : Inv s) (early : s.early = true) : ¬ s.ignored = true := by
  rw [held.not_ignored (by rw [held.early early]; nofun)]
  nofun

theorem Inv.not_hooked (held : Inv s) (early : s.early = true) : ¬ s.hooked = true := by
  intro hooked
  simp [State.early, (held.hooked hooked).1] at early

theorem Inv.toClose (held : Inv s) (early : s.early = true) : Inv s.toClose :=
  { held with
    closing := fun closing => absurd closing (held.not_closed early).1
    ignored := fun ignored => absurd ignored (held.not_ignored_early early)
    hooked := fun hooked => absurd hooked (held.not_hooked early)
    early := nofun
    submitted := nofun
    idle := nofun }

theorem Inv.waits (held : Inv s) (early : s.early = true) {phase : Phase} {requested : Bool}
    (waits : phase = .unwinding ∨ phase = .settling) :
    Inv { s with cancelRequested := requested, phase := phase } :=
  { held with
    hooked := fun hooked => absurd hooked (held.not_hooked early)
    early := fun _ => held.early early
    submitted := fun closing => by
      rcases waits with rfl | rfl <;> cases closing
    idle := fun idle => by
      rcases waits with rfl | rfl <;> rcases idle with idle | idle <;> cases idle }

theorem Inv.ended (held : Inv s) : Inv { s with phase := .ended } :=
  { held with
    hooked := fun hooked => ⟨rfl, (held.hooked hooked).2⟩
    early := nofun
    submitted := nofun
    idle := nofun }

theorem Inv.workEnded {race : HelperTasks.State} (held : Inv s) (outside : s.gen ≠ .stepping)
    (done : State.workDone { s with race := some race } = true) :
    Inv { s with race := some race } :=
  { held with
    stepping := fun stepping => absurd stepping outside
    hooked := fun hooked => ⟨(held.hooked hooked).1, done⟩
    idle := fun _ => done }

theorem workDone_of_value (value : s.value = true) : s.workDone = true := by
  unfold State.value at value
  unfold State.workDone
  cases held : s.race with
  | none => rfl
  | some race =>
      cases work : race.work with
      | none => simp [held, work] at value
      | some body => simp [work]

theorem early_of (phase : Phase) (here : s.phase = phase)
    (early : phase ≠ .closing ∧ phase ≠ .ended) : s.early = true := by
  unfold State.early
  rw [here]
  cases phase with
  | closing => exact absurd rfl early.1
  | ended => exact absurd rfl early.2
  | _ => rfl

theorem early_idle (idle : s.phase = .starting ∨ s.phase = .atYield) : s.early = true := by
  rcases idle with here | here
  · exact early_of _ here (by decide)
  · exact early_of _ here (by decide)

theorem pending_not_done (pending : s.pending = true) : s.workDone = false := by
  unfold State.pending at pending
  unfold State.workDone
  cases held : s.race with
  | none => simp [held] at pending
  | some race =>
      cases work : race.work with
      | none => simp [work]
      | some body => simp [held, work] at pending

theorem inv_submit {sending : Bool} (held : Inv s)
    (taken : step setup s (.submit sending) = some s') : Inv s' := by
  obtain ⟨ready, moved⟩ := Option.ite_none_right_eq_some.mp taken
  cases moved
  have place : s.phase = .starting ∨ s.phase = .atYield := ready.imp (fun both => both.1) id
  exact
    { held with
      stepping := fun stepping => by
        have running := (held.stepping stepping).1
        rw [held.idle place] at running
        cases running
      hooked := fun hooked => absurd hooked (held.not_hooked (early_idle place))
      early := fun _ => held.early (early_idle place)
      submitted := nofun
      idle := nofun }

theorem inv_result (held : Inv s) (taken : step setup s .result = some s') : Inv s' := by
  obtain ⟨⟨here, done⟩, moved⟩ := Option.ite_none_right_eq_some.mp taken
  have early := early_of _ here (by decide)
  cases moved
  by_cases value : s.value = true
  · rw [if_pos value]
    exact
      { held with
        hooked := fun hooked => absurd hooked (held.not_hooked early)
        early := fun _ => held.early early
        submitted := nofun
        idle := fun _ => workDone_of_value value }
  · rw [if_neg value]
    exact held.toClose early

theorem inv_interrupt (held : Inv s) (taken : step setup s .interrupt = some s') : Inv s' := by
  simp only [step] at taken
  split at taken
  · next here =>
      cases taken
      exact held.waits (early_of _ here (by decide)) (.inl rfl)
  · cases taken
    exact held.ended
  · cases taken
    exact held.ended
  · cases taken

theorem inv_settle (held : Inv s) (taken : step setup s .settle = some s') : Inv s' := by
  obtain ⟨here, moved⟩ := Option.ite_none_right_eq_some.mp taken
  have early := early_of _ here (by decide)
  cases moved
  by_cases done : s.futureDone = true
  · rw [if_pos done]
    exact held.toClose early
  · rw [if_neg done]
    exact held.waits early (.inr rfl)

theorem inv_closeBegins (held : Inv s) (taken : step setup s .closeBegins = some s') : Inv s' := by
  obtain ⟨submitted, moved⟩ := Option.ite_none_right_eq_some.mp taken
  have late : s.early ≠ true := by
    intro early
    rw [held.early early] at submitted
    cases submitted
  have notIgnored : ¬ s.ignored = true := by
    rw [held.not_ignored (by rw [submitted]; nofun)]
    nofun
  have notIgnoring : ¬(s.gen = .ignoring ∨ s.gen = .abandoned) := fun ignoring =>
    notIgnored (held.ignoring ignoring)
  have notClosing : s.gen ≠ .closing := by
    intro closing
    rw [held.closing closing] at submitted
    cases submitted
  cases gen : s.gen with
  | suspended =>
      simp only [gen] at moved
      cases moved
      obtain ⟨runs, entered⟩ := held.unfinished gen (by decide)
      exact
        { held with
          stepping := nofun
          closing := fun _ => rfl
          ignoring := nofun
          ignored := fun ignored => absurd ignored notIgnored
          early := fun early => absurd early late
          submitted := nofun
          counted := runs
          entered := fun _ => entered }
  | created =>
      simp only [gen] at moved
      cases moved
      obtain ⟨runs, entered⟩ := held.unfinished gen (by decide)
      exact
        { held with
          stepping := nofun
          closing := nofun
          ignoring := nofun
          ignored := fun ignored => absurd ignored notIgnored
          early := fun early => absurd early late
          submitted := nofun
          counted := by simp [runs, entered]
          entered := fun other => absurd rfl other }
  | stepping | exhausted =>
      simp only [gen] at moved
      cases moved
      exact
        { held with
          stepping := fun stepping => held.stepping (gen.trans stepping)
          closing := fun closing => absurd (gen.trans closing) notClosing
          ignoring := fun ignoring => absurd (gen ▸ ignoring) notIgnoring
          ignored := fun ignored => absurd ignored notIgnored
          early := fun early => absurd early late
          submitted := nofun
          counted := by
            have counted := held.counted
            rw [gen] at counted
            exact counted
          entered := fun other => by
            have entered := held.entered (gen ▸ other)
            rw [gen] at entered
            exact entered }
  | closing => exact absurd gen notClosing
  | ignoring => exact absurd (.inl gen) notIgnoring
  | abandoned => exact absurd (.inr gen) notIgnoring

theorem inv_collected {ends : Bool} (held : Inv s)
    (taken : step setup s (.collected ends) = some s') : Inv s' := by
  obtain ⟨⟨_, here, done, _⟩, moved⟩ := Option.ite_none_right_eq_some.mp taken
  cases gen : s.gen with
  | created =>
      simp only [gen] at moved
      cases moved
      obtain ⟨runs, entered⟩ := held.unfinished gen (by decide)
      exact
        { held with
          stepping := nofun
          closing := nofun
          ignoring := nofun
          ignored := fun ignored => ⟨(held.ignored ignored).1, rfl⟩
          counted := by simp [runs, entered]
          entered := fun other => absurd rfl other }
  | suspended =>
      simp only [gen] at moved
      cases moved
      obtain ⟨runs, entered⟩ := held.unfinished gen (by decide)
      exact
        { held with
          stepping := nofun
          closing := nofun
          ignoring := nofun
          ignored := fun ignored => by
            have closed := (held.ignored ignored).2
            rw [gen] at closed
            cases closed
          hooked := fun _ => ⟨here, done⟩
          early := fun early => by simp [State.early, here] at early
          submitted := nofun
          counted := runs
          entered := fun _ => entered }
  | ignoring =>
      simp only [gen] at moved
      have ignored := held.ignoring (.inl gen)
      obtain ⟨runs, entered⟩ := held.unfinished gen (by decide)
      split at moved <;> cases moved
      · exact
          { held with
            stepping := nofun
            closing := nofun
            ignoring := nofun
            ignored := fun _ => ⟨(held.ignored ignored).1, rfl⟩
            counted := by
              rw [runs, entered]
              rfl
            entered := fun other => absurd rfl other }
      · exact
          { held with
            stepping := nofun
            closing := nofun
            ignoring := fun _ => ignored
            ignored := fun _ => ⟨(held.ignored ignored).1, rfl⟩
            counted := runs
            entered := fun _ => entered }
  | stepping | closing | exhausted | abandoned => simp [gen] at moved

theorem inv_resume (held : Inv s) (taken : step setup s .resume = some s') : Inv s' := by
  obtain ⟨⟨pending, _, _, resumable⟩, moved⟩ := Option.ite_none_right_eq_some.mp taken
  cases moved
  have running := pending_not_done pending
  have notOver : s.gen ≠ .exhausted := by
    intro isOver
    rw [isOver] at resumable
    cases resumable
  exact
    { held with
      stepping := fun _ => ⟨running, rfl⟩
      closing := nofun
      ignoring := nofun
      ignored := fun ignored => ⟨(held.ignored ignored).1, rfl⟩
      counted := (held.unfinished rfl notOver).1
      entered := fun _ => rfl }

theorem yielded_cases (s : State) :
    s.ignored = true ∧ s.yielded = .ignoring ∨ s.ignored = false ∧ s.yielded = .suspended := by
  cases ignored : s.ignored with
  | true => exact .inl ⟨rfl, by simp [State.yielded, ignored]⟩
  | false => exact .inr ⟨rfl, by simp [State.yielded, ignored]⟩

theorem inv_yields (held : Inv s) (taken : step setup s .yields = some s') : Inv s' := by
  obtain ⟨stepping, moved⟩ := Option.ite_none_right_eq_some.mp taken
  obtain ⟨runs, entered⟩ := held.unfinished stepping (by decide)
  rcases yielded_cases s with ⟨ignored, place⟩ | ⟨ignored, place⟩
  · rw [place] at moved
    obtain ⟨race, rfl, done⟩ := endWork_eq moved
    exact
      { held with
        stepping := nofun
        closing := nofun
        ignoring := fun _ => ignored
        ignored := fun _ => ⟨(held.ignored ignored).1, rfl⟩
        hooked := fun hooked => ⟨(held.hooked hooked).1, done⟩
        idle := fun _ => done
        counted := runs
        entered := fun _ => entered }
  · rw [place] at moved
    obtain ⟨race, rfl, done⟩ := endWork_eq moved
    exact
      { held with
        stepping := nofun
        closing := nofun
        ignoring := nofun
        ignored := fun other => absurd (ignored.symm.trans other) nofun
        hooked := fun hooked => ⟨(held.hooked hooked).1, done⟩
        idle := fun _ => done
        counted := runs
        entered := fun _ => entered }

theorem inv_leaves {exc : Exc} (held : Inv s)
    (taken : step setup s (.leaves exc) = some s') : Inv s' := by
  obtain ⟨⟨stepping, _⟩, moved⟩ := Option.ite_none_right_eq_some.mp taken
  obtain ⟨race, rfl, done⟩ := endWork_eq moved
  obtain ⟨runs, entered⟩ := held.unfinished stepping (by decide)
  exact
    { held with
      stepping := nofun
      closing := nofun
      ignoring := nofun
      ignored := fun ignored => ⟨(held.ignored ignored).1, rfl⟩
      hooked := fun hooked => ⟨(held.hooked hooked).1, done⟩
      idle := fun _ => done
      counted := by
        rw [runs, entered]
        rfl
      entered := fun other => absurd rfl other }

theorem inv_closeEnds (held : Inv s) (taken : step setup s .closeEnds = some s') : Inv s' := by
  obtain ⟨⟨running, closing⟩, moved⟩ := Option.ite_none_right_eq_some.mp taken
  cases moved
  obtain ⟨runs, entered⟩ := held.unfinished closing (by decide)
  exact
    { held with
      stepping := nofun
      closing := nofun
      ignoring := nofun
      ignored := fun _ => ⟨rfl, rfl⟩
      early := fun early => absurd closing (held.not_closed early).1
      submitted := nofun
      counted := by
        rw [runs, entered]
        rfl
      entered := fun other => absurd rfl other }

theorem inv_closeYields (held : Inv s) (taken : step setup s .closeYields = some s') : Inv s' := by
  obtain ⟨⟨running, closing⟩, moved⟩ := Option.ite_none_right_eq_some.mp taken
  cases moved
  obtain ⟨runs, entered⟩ := held.unfinished closing (by decide)
  exact
    { held with
      stepping := nofun
      closing := nofun
      ignoring := fun _ => rfl
      ignored := fun _ => ⟨rfl, rfl⟩
      early := fun early => absurd closing (held.not_closed early).1
      submitted := nofun
      counted := runs
      entered := fun _ => entered }

theorem inv_step {label : Label} (held : Inv s) (taken : step setup s label = some s') :
    Inv s' := by
  cases label with
  | submit sending => exact inv_submit held taken
  | leave =>
      obtain ⟨here, moved⟩ := Option.ite_none_right_eq_some.mp taken
      cases moved
      exact held.toClose (early_idle here)
  | result => exact inv_result held taken
  | interrupt => exact inv_interrupt held taken
  | settle => exact inv_settle held taken
  | waited =>
      obtain ⟨here, moved⟩ := Option.ite_none_right_eq_some.mp taken
      cases moved
      exact { held.toClose (early_of _ here (by decide)) with }
  | closeReturns =>
      obtain ⟨_, moved⟩ := Option.ite_none_right_eq_some.mp taken
      cases moved
      exact held.ended
  | resume => exact inv_resume held taken
  | drop exc =>
      obtain ⟨⟨pending, _⟩, moved⟩ := Option.ite_none_right_eq_some.mp taken
      obtain ⟨race, rfl, done⟩ := endWork_eq moved
      apply held.workEnded _ done
      intro stepping
      have began := (held.stepping stepping).2
      simp [State.pending, began] at pending
  | yields => exact inv_yields held taken
  | leaves exc => exact inv_leaves held taken
  | race label =>
      obtain ⟨race, won, rfl, same⟩ := race_eq taken
      exact
        { held with
          stepping := fun stepping => by
            rw [same]
            exact held.stepping stepping
          hooked := fun hooked => by
            rw [same]
            exact held.hooked hooked
          idle := fun idle => by
            rw [same]
            exact held.idle idle }
  | closeBegins => exact inv_closeBegins held taken
  | closeEnds => exact inv_closeEnds held taken
  | closeYields => exact inv_closeYields held taken
  | collected ends => exact inv_collected held taken

end Koil.GeneratorRuns
