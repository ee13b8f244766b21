import Koil.GeneratorRuns

namespace Koil.GeneratorRuns

open Race Runs

variable {setup : Setup} {s s' : State}

theorem not_lost (isOver : s.gen = .stepping ∨ s.gen = .closing ∨ s.gen = .exhausted) :
    s.lost setup = false := by
  rcases isOver with gen | gen | gen <;> simp [State.lost, gen, Gen.isOpen]

theorem Inv.not_lost_submitted (held : Inv s) (submitted : s.close = .submitted) :
    s.lost setup = false := by
  have notIgnored : s.ignored = false := held.not_ignored (by rw [submitted]; nofun)
  obtain ⟨notIgnoring, notAbandoned⟩ := not_or.mp fun ignoring =>
    absurd (notIgnored.symm.trans (held.ignoring ignoring)) nofun
  simp [State.lost, notIgnoring, notAbandoned, State.closeGone, submitted]

theorem Inv.not_lost_early (held : Inv s) (early : s.early = true) : s.lost setup = false := by
  have notEnded : s.phase ≠ .ended := by
    intro ended
    simp [State.early, ended] at early
  obtain ⟨notIgnoring, notAbandoned⟩ := not_or.mp (held.not_closed early).2
  simp [State.lost, notIgnoring, notAbandoned, State.closeGone, held.early early, notEnded]

theorem lost_early {label : Label} (held : Inv s) (taken : step setup s label = some s')
    (before : s.early = true) (after : s'.early = true ∨ s'.close = .submitted) :
    s'.lost setup = s.lost setup := by
  rw [held.not_lost_early before]
  rcases after with early | submitted
  · exact (inv_step held taken).not_lost_early early
  · exact (inv_step held taken).not_lost_submitted submitted

theorem lost_ended (setup : Setup) (held : Inv s) (here : s.phase = .closing) :
    State.lost setup { s with phase := .ended } = s.lost setup := by
  have submitted : (s.close == Close.none) = false := by simpa using held.submitted here
  simp [State.lost, State.closeGone, State.workDone, here, submitted]

theorem lost_interrupt (held : Inv s) (taken : step setup s .interrupt = some s') :
    s'.lost setup = (s.lost setup || !meets setup s .interrupt) := by
  simp only [step] at taken
  split at taken
  · next here =>
      cases taken
      have early := early_of _ here (by decide)
      rw [held.not_lost_early early, (held.waits early (.inl rfl)).not_lost_early rfl]
      simp [meets, here]
  · next here =>
      cases taken
      have early := early_of _ here (by decide)
      obtain ⟨notIgnoring, notAbandoned⟩ := not_or.mp (held.not_closed early).2
      rw [held.not_lost_early early]
      simp [State.lost, State.closeGone, State.workDone, meets, here, held.early early, notIgnoring,
        notAbandoned]
  · next here =>
      cases taken
      rw [lost_ended setup held here]
      simp [meets, here]
  · cases taken

theorem lost_closeBegins (held : Inv s) (taken : step setup s .closeBegins = some s') :
    s'.lost setup = false := by
  obtain ⟨submitted, moved⟩ := Option.ite_none_right_eq_some.mp taken
  cases gen : s.gen with
  | suspended =>
      simp only [gen] at moved
      cases moved
      exact not_lost (.inr (.inl rfl))
  | created =>
      simp only [gen] at moved
      cases moved
      exact not_lost (.inr (.inr rfl))
  | stepping | closing | exhausted =>
      simp only [gen] at moved
      cases moved
      exact not_lost (by simp)
  | ignoring | abandoned =>
      rw [(held.ignored (held.ignoring (by simp [gen]))).1] at submitted
      cases submitted

theorem lost_collected {ends : Bool} (taken : step setup s (.collected ends) = some s') :
    s'.lost setup = (s.lost setup || !meets setup s (.collected ends)) := by
  obtain ⟨⟨unheld, _⟩, moved⟩ := Option.ite_none_right_eq_some.mp taken
  cases gen : s.gen with
  | created | suspended =>
      simp only [gen] at moved
      cases moved
      rw [State.lost, State.lost, meets, gen, unheld]
      cases ends <;> rfl
  | ignoring =>
      simp only [gen] at moved
      split at moved
      · next ending =>
          cases moved
          rw [not_lost (.inr (.inr rfl))]
          simp [State.lost, meets, gen, unheld, ending]
      · next stopping =>
          cases moved
          cases ends <;> simp_all [State.lost, meets]
  | stepping | closing | exhausted | abandoned => simp [gen] at moved

/-- A generator that has ignored its close is closed no more, and the hook has nothing to do with
it while a step still runs. -/
theorem Inv.ignored_gone (held : Inv s) (ignored : s.ignored = true)
    (running : s.workDone = false) : s.closeGone = true ∧ s.hooked = false := by
  refine ⟨by simp [State.closeGone, (held.ignored ignored).1], ?_⟩
  cases hooked : s.hooked with
  | false => rfl
  | true => exact absurd (running.symm.trans (held.hooked hooked).2) nofun

theorem resumable_eq {gen : Gen} (notIgnoring : gen ≠ .ignoring) : gen.resumable = gen.isOpen := by
  cases gen with
  | ignoring => exact absurd rfl notIgnoring
  | _ => rfl

theorem lost_drop {exc : Exc} (held : Inv s) (taken : step setup s (.drop exc) = some s') :
    s'.lost setup = (s.lost setup || !meets setup s (.drop exc)) := by
  obtain ⟨⟨pending, _⟩, moved⟩ := Option.ite_none_right_eq_some.mp taken
  have running := pending_not_done pending
  obtain ⟨race, rfl, done⟩ := endWork_eq moved
  rw [State.lost, State.lost, done, running]
  by_cases ignoring : s.gen = .ignoring
  · obtain ⟨gone, unhooked⟩ := held.ignored_gone (held.ignoring (.inl ignoring)) running
    simp only [State.closeGone] at gone
    simp [meets, State.closeGone, ignoring, gone, unhooked, Gen.isOpen, Gen.resumable]
  · have notIgnoring : (s.gen == .ignoring) = false := by simpa using ignoring
    simp [meets, State.closeGone, notIgnoring, resumable_eq ignoring]

theorem lost_yields (held : Inv s) (taken : step setup s .yields = some s') :
    s'.lost setup = (s.lost setup || !meets setup s .yields) := by
  obtain ⟨stepping, moved⟩ := Option.ite_none_right_eq_some.mp taken
  obtain ⟨race, rfl, done⟩ := endWork_eq moved
  rw [not_lost (.inl stepping), State.lost, done]
  rcases yielded_cases s with ⟨ignored, place⟩ | ⟨_, place⟩
  · obtain ⟨gone, unhooked⟩ := held.ignored_gone ignored (held.stepping stepping).1
    simp [meets, place, gone, unhooked, Gen.isOpen]
  · simp [meets, place, State.closeGone, Gen.isOpen]

theorem lost_step {label : Label} (held : Inv s) (taken : step setup s label = some s') :
    s'.lost setup = (s.lost setup || !meets setup s label) := by
  cases label with
  | submit sending =>
      obtain ⟨ready, moved⟩ := Option.ite_none_right_eq_some.mp taken
      have early := early_idle (ready.imp (fun both => both.1) id)
      have same := lost_early held taken early (.inl (by cases moved; rfl))
      simp [same, meets]
  | leave =>
      obtain ⟨here, moved⟩ := Option.ite_none_right_eq_some.mp taken
      have same := lost_early held taken (early_idle here) (.inr (by cases moved; rfl))
      simp [same, meets]
  | result =>
      obtain ⟨⟨here, _⟩, moved⟩ := Option.ite_none_right_eq_some.mp taken
      have after : s'.early = true ∨ s'.close = .submitted := by
        cases moved
        by_cases value : s.value = true
        · rw [if_pos value]
          exact .inl rfl
        · rw [if_neg value]
          exact .inr rfl
      have same := lost_early held taken (early_of _ here (by decide)) after
      simp [same, meets]
  | interrupt => exact lost_interrupt held taken
  | settle =>
      obtain ⟨here, moved⟩ := Option.ite_none_right_eq_some.mp taken
      have after : s'.early = true ∨ s'.close = .submitted := by
        cases moved
        by_cases done : s.futureDone = true
        · rw [if_pos done]
          exact .inr rfl
        · rw [if_neg done]
          exact .inl rfl
      have same := lost_early held taken (early_of _ here (by decide)) after
      simp [same, meets]
  | waited =>
      obtain ⟨here, moved⟩ := Option.ite_none_right_eq_some.mp taken
      have same := lost_early held taken (early_of _ here (by decide)) (.inr (by cases moved; rfl))
      simp [same, meets]
  | closeReturns =>
      obtain ⟨here, moved⟩ := Option.ite_none_right_eq_some.mp taken
      cases moved
      have same := lost_ended setup held here
      simp [same, meets]
  | resume =>
      obtain ⟨⟨pending, _, _, resumable⟩, moved⟩ := Option.ite_none_right_eq_some.mp taken
      cases moved
      rw [not_lost (.inl rfl)]
      cases gen : s.gen <;>
        simp [State.lost, meets, pending_not_done pending, gen, Gen.resumable, Gen.isOpen]
          at resumable ⊢
  | drop exc => exact lost_drop held taken
  | yields => exact lost_yields held taken
  | leaves exc =>
      obtain ⟨⟨stepping, _⟩, moved⟩ := Option.ite_none_right_eq_some.mp taken
      obtain ⟨race, rfl, done⟩ := endWork_eq moved
      rw [not_lost (.inl stepping), not_lost (.inr (.inr rfl))]
      rfl
  | race label =>
      obtain ⟨race, won, rfl, same⟩ := race_eq taken
      rw [State.lost, State.lost, same]
      simp [meets, State.closeGone]
  | closeBegins =>
      have submitted := (Option.ite_none_right_eq_some.mp taken).1
      rw [lost_closeBegins held taken, held.not_lost_submitted submitted]
      rfl
  | closeEnds =>
      obtain ⟨⟨_, closing⟩, moved⟩ := Option.ite_none_right_eq_some.mp taken
      cases moved
      rw [not_lost (.inr (.inl closing)), not_lost (.inr (.inr rfl))]
      rfl
  | closeYields =>
      obtain ⟨⟨_, closing⟩, moved⟩ := Option.ite_none_right_eq_some.mp taken
      cases moved
      rw [not_lost (.inr (.inl closing))]
      simp [State.lost, State.workDone, meets, Gen.isOpen]
  | collected ends => exact lost_collected taken

/-- A run loses the generator exactly if one of its steps misses the condition. -/
theorem lost_run {history : List (State × Label)} (run : Reaches (step setup) start history s) :
    s.lost setup = history.any fun taken => !meets setup taken.1 taken.2 := by
  induction run with
  | start => simp [State.lost, start, State.closeGone]
  | @next history s s' label before taken ih =>
      have held : Inv s := before.invariant inv_start fun _ _ _ held taken => inv_step held taken
      rw [lost_step held taken, ih, List.any_cons, Bool.or_comm]

theorem closed_iff (held : Inv s) (quiet : s.Quiescent setup) :
    s.Closed ↔ s.lost setup = false := by
  constructor
  · intro closed
    exact not_lost (.inr (.inr closed.gen))
  · intro kept
    have gone : s.closeGone = true := by
      cases close : s.close with
      | none => simp [State.closeGone, close, quiet.phase]
      | submitted => exact absurd close quiet.close.1
      | running => exact absurd close quiet.close.2
      | done => simp [State.closeGone, close]
    have isOver : s.gen = .exhausted := by
      cases gen : s.gen with
      | created | suspended =>
          cases kept_alive : setup.held with
          | true => simp [State.lost, gen, Gen.isOpen, gone, quiet.work, kept_alive] at kept
          | false =>
              have collected := (quiet.garbage kept_alive).1
              rw [gen] at collected
              cases collected
      | stepping =>
          have running := (held.stepping gen).1
          rw [quiet.work] at running
          cases running
      | closing => exact absurd (held.closing gen) quiet.close.2
      | exhausted => rfl
      | ignoring =>
          cases kept_alive : setup.held with
          | true => simp [State.lost, gen, quiet.work, kept_alive] at kept
          | false => exact absurd gen (quiet.garbage kept_alive).2
      | abandoned => simp [State.lost, gen] at kept
    have counted := held.counted
    rw [if_pos isOver] at counted
    exact ⟨isOver, counted⟩

/-- Once the sync generator is over and the loop is quiescent, the async generator is closed
exactly if every step has met the condition: where something keeps it alive, it does not
ignore its closing, and no step has come to a `yield` once its close was gone. -/
theorem unkoil_gen_closes_iff (setup : Setup) (history : List (State × Label)) (s : State)
    (run : Reaches (step setup) start history s) (quiet : s.Quiescent setup) :
    s.Closed ↔ ∀ taken ∈ history, meets setup taken.1 taken.2 = true := by
  have held : Inv s := run.invariant inv_start fun _ _ _ held taken => inv_step held taken
  rw [closed_iff held quiet, lost_run run, List.any_eq_false]
  simp

def untimed : Setup := ⟨⟨false, none, false⟩, true⟩

def timed : Setup := ⟨⟨false, some "0.05", false⟩, true⟩

/-- The consumer closes the generator at its first `yield`. -/
theorem unkoil_gen_closes_iff_closedEarly :
    ∃ (history : List (State × Label)) (s : State),
      Reaches (step untimed) start history s ∧ s.Quiescent untimed ∧
        (s.Closed ↔ ∀ taken ∈ history, meets untimed taken.1 taken.2 = true) := by
  have started : Reaches (step untimed) start [] start := .start
  have run := started.follow
    [.submit false, .resume, .yields, .race (.wakes [.ownCancel]), .race .cancelNext,
      .race (.waiterEnds .ownCancel true), .race (.resumes false), .race .finish, .result, .leave,
      .closeBegins, .closeEnds, .closeReturns] rfl
  refine ⟨_, _, run, ?quiet, unkoil_gen_closes_iff untimed _ _ run ?quiet⟩
  exact ⟨rfl, rfl, ⟨nofun, nofun⟩, nofun⟩

/-- A step outlives the grace of its timeout, the close finds it running, and then it comes
to a `yield`. -/
theorem generator_left_suspended :
    ∃ (history : List (State × Label)) (s : State),
      Reaches (step timed) start history s ∧ s.Quiescent timed ∧ s.gen = .suspended ∧
        s.finallyRuns = 0 ∧ ¬ s.Closed := by
  have started : Reaches (step timed) start [] start := .start
  have run := started.follow
    [.submit false, .resume, .race (.waiterEnds .deadline false),
      .race (.wakes [.work, .ownCancel]), .race .cancelNext, .race .graceOver,
      .race .cancelNext, .race (.waiterEnds .ownCancel true), .race (.resumes false),
      .race .finish, .result, .closeBegins, .closeReturns, .yields] rfl
  refine ⟨_, _, run, ⟨rfl, rfl, ⟨nofun, nofun⟩, nofun⟩, rfl, rfl, fun closed => ?_⟩
  cases closed.gen

/-- The loop over the unfinished tasks has not been through the work, or the work is done or
its grace is over. -/
structure Settles (race : HelperTasks.State) : Prop where
  losers : ∀ losers, race.stage.losers = some losers →
    .work ∈ losers ∨ race.work.isSome = true ∨ race.graceOver = true
  ended : race.stage = .ended → race.work.isSome = true ∨ race.graceOver = true

section settles

variable {config : Config} {race race' : HelperTasks.State}

theorem Settles.of_next {rest : List Racer} (stage : race'.stage = .tidying rest)
    (left : .work ∈ rest ∨ race'.work.isSome = true ∨ race'.graceOver = true) : Settles race' where
  losers losers same := by
    rw [stage] at same
    cases same
    exact left
  ended isOver := by
    rw [stage] at isOver
    cases isOver

theorem Settles.of_ended (stage : race'.stage = .ended)
    (through : race'.work.isSome = true ∨ race'.graceOver = true) : Settles race' where
  losers losers same := by
    rw [stage] at same
    cases same
  ended _ := through

theorem settles_settle {untask : Racer} {rest : List Racer} (settles : Settles race)
    (stage : race.stage = .awaiting untask rest) (done : race.done untask = true)
    (taken : race.settle rest (race.awaited untask) = some race') : Settles race' := by
  have through : .work ∈ rest ∨ race.work.isSome = true ∨ race.graceOver = true := by
    rcases settles.losers (untask :: rest) (by rw [stage]; rfl) with member | handled
    · rcases List.mem_cons.mp member with here | later
      · subst here
        exact .inr (.inl done)
      · exact .inl later
    · exact .inr handled
  unfold HelperTasks.State.settle at taken
  cases settled : settleLoser (race.awaited untask) with
  | stuck => simp [settled] at taken
  | finished acknowledged =>
      simp only [settled] at taken
      cases taken
      exact .of_next rfl through
  | escaped exc =>
      simp only [settled] at taken
      cases taken
      have escapes : race.escapes untask = true := by
        simp [HelperTasks.State.escapes, settled]
      exact .of_ended rfl (.inl (HelperTasks.escapes_work escapes).2)

theorem settles_step {label : HelperTasks.Label} (settles : Settles race)
    (running : label ≠ .interrupt ∧ label ≠ .resumes true)
    (taken : HelperTasks.step config race label = some race') : Settles race' := by
  cases label with
  | workEnds body =>
      obtain ⟨_, moved⟩ := Option.ite_none_right_eq_some.mp taken
      cases moved
      exact ⟨fun _ _ => .inr (.inl rfl), fun _ => .inl rfl⟩
  | waiterEnds waiter cancelled =>
      obtain ⟨_, moved⟩ := Option.ite_none_right_eq_some.mp taken
      cases moved
      exact ⟨settles.losers, settles.ended⟩
  | wakes unfinished =>
      obtain ⟨⟨_, _, order⟩, moved⟩ := Option.ite_none_right_eq_some.mp taken
      cases moved
      apply Settles.of_next rfl
      cases work : race.work with
      | some body => exact .inr (.inl rfl)
      | none =>
          left
          rw [order.mem_iff, List.mem_filter]
          exact ⟨work_mem_race config, by simp [HelperTasks.State.done, work]⟩
  | cancelNext =>
      simp only [HelperTasks.step] at taken
      split at taken
      · next untask rest stage =>
          cases taken
          refine ⟨fun losers same => ?_, fun isOver => by cases isOver⟩
          cases same
          exact settles.losers _ (by rw [stage]; rfl)
      · cases taken
  | resumes interrupted =>
      cases interrupted with
      | true => exact absurd rfl running.2
      | false =>
          simp only [HelperTasks.step] at taken
          split at taken
          · next untask rest stage =>
              split at taken
              · next done => exact settles_settle settles stage done taken
              · simp at taken
          · cases taken
  | graceOver =>
      simp only [HelperTasks.step] at taken
      split at taken
      · obtain ⟨_, moved⟩ := Option.ite_none_right_eq_some.mp taken
        cases moved
        exact .of_next rfl (.inr (.inr rfl))
      · cases taken
  | finish =>
      obtain ⟨stage, moved⟩ := Option.ite_none_right_eq_some.mp taken
      cases moved
      apply Settles.of_ended rfl
      rcases settles.losers [] (by rw [stage]; rfl) with member | handled
      · cases member
      · exact handled
  | interrupt => exact absurd rfl running.1

end settles

def State.graceOver (s : State) : Bool := s.race.any fun race => race.graceOver

/-- The step's task has ended before the close was submitted, unless a wait was over first. -/
structure Waited (s : State) : Prop where
  settles : ∀ race, s.race = some race → Settles race
  close : s.close ≠ .none → s.workDone = true ∨ s.waitOver = true ∨ s.graceOver = true

theorem waited_start : Waited start where
  settles race held := by cases held
  close gone := absurd rfl gone

theorem Waited.settled (waited : Waited s) (done : s.futureDone = true) :
    s.workDone = true ∨ s.graceOver = true := by
  unfold State.futureDone at done
  unfold State.workDone State.graceOver
  cases held : s.race with
  | none => exact .inl rfl
  | some race =>
      have ended : race.stage = .ended := by simpa [held] using done
      simpa using (waited.settles race held).ended ended

theorem Waited.race {label : HelperTasks.Label} {race race' : HelperTasks.State}
    (waited : Waited s) (held : s.race = some race)
    (running : label ≠ .interrupt ∧ label ≠ .resumes true)
    (taken : HelperTasks.step setup.race race label = some race')
    (moved : s'.race = some race') (close : s'.close = s.close)
    (unwaited : s'.waitOver = s.waitOver) : Waited s' where
  settles other same := by
    obtain rfl : race' = other := Option.some.inj (moved.symm.trans same)
    exact settles_step (waited.settles race held) running taken
  close gone := by
    rw [close] at gone
    rcases waited.close gone with done | waitOver | graceOver
    · left
      simp only [State.workDone, held, Option.all_some] at done
      simp only [State.workDone, moved, Option.all_some]
      rcases (race_onward taken).1 with ⟨body, rfl⟩ | kept
      · obtain ⟨_, ended⟩ := Option.ite_none_right_eq_some.mp taken
        cases ended
        rfl
      · rw [kept]
        exact done
    · exact .inr (.inl (unwaited.trans waitOver))
    · right
      right
      simp only [State.graceOver, held, Option.any_some] at graceOver
      simpa [State.graceOver, moved] using (race_onward taken).2 graceOver

theorem Waited.endWork {body : Except Exc Unit} (waited : Waited s)
    (taken : s.endWork setup body = some s') : Waited s' := by
  obtain ⟨race, held, moved⟩ := Option.bind_eq_some_iff.mp taken
  obtain ⟨race', stepped, rfl⟩ := Option.map_eq_some_iff.mp moved
  have running : HelperTasks.Label.workEnds body ≠ .interrupt ∧
      HelperTasks.Label.workEnds body ≠ .resumes true := ⟨nofun, nofun⟩
  exact waited.race held running stepped rfl rfl rfl

theorem waited_step {label : Label} (held : Inv s) (waited : Waited s)
    (taken : step setup s label = some s') : Waited s' := by
  cases label with
  | submit sending =>
      obtain ⟨ready, moved⟩ := Option.ite_none_right_eq_some.mp taken
      cases moved
      have early := early_idle (ready.imp (fun both => both.1) id)
      refine ⟨fun race same => ?_, fun gone => absurd (held.early early) gone⟩
      cases same
      exact ⟨nofun, nofun⟩
  | leave =>
      obtain ⟨here, moved⟩ := Option.ite_none_right_eq_some.mp taken
      cases moved
      exact ⟨waited.settles, fun _ => .inl (held.idle here)⟩
  | result =>
      obtain ⟨⟨_, done⟩, moved⟩ := Option.ite_none_right_eq_some.mp taken
      cases moved
      by_cases value : s.value = true
      · rw [if_pos value]
        exact ⟨waited.settles, waited.close⟩
      · rw [if_neg value]
        exact ⟨waited.settles, fun _ => (waited.settled done).imp_right .inr⟩
  | interrupt =>
      simp only [step] at taken
      split at taken
      · cases taken
        exact ⟨waited.settles, waited.close⟩
      · cases taken
        exact ⟨waited.settles, waited.close⟩
      · cases taken
        exact ⟨waited.settles, waited.close⟩
      · cases taken
  | settle =>
      obtain ⟨_, moved⟩ := Option.ite_none_right_eq_some.mp taken
      cases moved
      by_cases done : s.futureDone = true
      · rw [if_pos done]
        exact ⟨waited.settles, fun _ => (waited.settled done).imp_right .inr⟩
      · rw [if_neg done]
        exact ⟨waited.settles, waited.close⟩
  | waited =>
      obtain ⟨_, moved⟩ := Option.ite_none_right_eq_some.mp taken
      cases moved
      refine ⟨waited.settles, fun _ => ?_⟩
      cases done : s.futureDone with
      | false => exact .inr (.inl rfl)
      | true => exact (waited.settled done).imp_right .inr
  | closeReturns | resume =>
      obtain ⟨_, moved⟩ := Option.ite_none_right_eq_some.mp taken
      cases moved
      exact ⟨waited.settles, waited.close⟩
  | drop | yields | leaves =>
      obtain ⟨_, moved⟩ := Option.ite_none_right_eq_some.mp taken
      refine Waited.endWork ?_ moved
      exact ⟨waited.settles, waited.close⟩
  | race label =>
      obtain ⟨allowed, moved⟩ := Option.ite_none_right_eq_some.mp taken
      obtain ⟨race, kept, moved⟩ := Option.bind_eq_some_iff.mp moved
      obtain ⟨race', stepped, rfl⟩ := Option.map_eq_some_iff.mp moved
      refine waited.race kept ⟨?_, ?_⟩ stepped rfl rfl rfl
      · rintro rfl
        cases allowed
      · rintro rfl
        cases allowed
  | closeBegins =>
      obtain ⟨submitted, moved⟩ := Option.ite_none_right_eq_some.mp taken
      have before := waited.close (by simp [submitted])
      split at moved <;> cases moved <;> exact ⟨waited.settles, fun _ => before⟩
  | closeEnds | closeYields =>
      obtain ⟨⟨running, _⟩, moved⟩ := Option.ite_none_right_eq_some.mp taken
      have before := waited.close (by simp [running])
      cases moved
      exact ⟨waited.settles, fun _ => before⟩
  | collected =>
      obtain ⟨⟨_, _, done, _⟩, moved⟩ := Option.ite_none_right_eq_some.mp taken
      split at moved
      · cases moved
        exact ⟨waited.settles, fun _ => .inl done⟩
      · cases moved
        exact ⟨waited.settles, fun _ => .inl done⟩
      · split at moved <;> cases moved <;> exact ⟨waited.settles, fun _ => .inl done⟩
      · cases moved

/-- A close that finds the generator in a step comes after the grace of a timeout, or after
the wait in the `finally`, was over. -/
theorem refused_after_waits (setup : Setup) (history : List (State × Label)) (s : State)
    (run : Reaches (step setup) start history s) (submitted : s.close = .submitted)
    (stepping : s.gen = .stepping) : s.graceOver = true ∨ s.waitOver = true := by
  have preserved : ∀ s label s', Inv s ∧ Waited s → step setup s label = some s' →
      Inv s' ∧ Waited s' := fun _ _ _ held taken =>
    ⟨inv_step held.1 taken, waited_step held.1 held.2 taken⟩
  have both := run.invariant ⟨inv_start, waited_start⟩ preserved
  rcases both.2.close (by rw [submitted]; nofun) with done | waitOver | graceOver
  · rw [(both.1.stepping stepping).1] at done
    cases done
  · exact .inr waitOver
  · exact .inl graceOver

end Koil.GeneratorRuns
