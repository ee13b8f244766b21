import Koil.Koils

/-! `Koil.__exit__` in any context of the thread that entered the Koil, and what the next
Koil finds in that thread. -/

namespace Koil.ExitContexts

open Contexts Koils

/-- Where `__exit__` is called: in the context that the thread itself has, or in the one of
a `Context.run`. -/
inductive Place
  | own
  | inRun (ctx : Context)

/-- A Koil that started a loop of its own, and a thread which is not the loop's; no loop
is closed before it is made. -/
structure Started (s : Koils.State) (running : Option Nat) (koil loop : Nat) : Prop where
  owns : (s.koils koil).loop = some loop
  threaded : (s.koils koil).loopThread = true
  made : loop < s.made
  unmade : ∀ later, s.made ≤ later → s.closed later = false
  elsewhere : running ≠ some loop

def Place.view (place : Place) (s : Koils.State) : Koils.State :=
  match place with
  | .own => s
  | .inRun ctx => { s with ctx := ctx }

def Place.unwind (place : Place) (s : Koils.State) (inside : Koils.State) : Koils.State :=
  match place with
  | .own => inside
  | .inRun _ => { inside with ctx := s.ctx }

def Opens (s : Koils.State) (running : Option Nat) (next : Nat) : Prop :=
  ∃ after loop, (s.setKoil next (.fresh true)).enter running next = .ok after ∧
    after.ctx.getD .globalKoilLoop = .loop loop ∧ after.closed loop = false

/-- `__exit__` raises nothing and leaves the Koil without a loop and not running; the next
Koil has an open loop, entered in the context of `__exit__` or in the thread's own. -/
def ExitReusable (s : Koils.State) (running : Option Nat) (koil : Nat) (joined : Bool)
    (place : Place) : Prop :=
  let exited := (place.view s).exit running koil joined
  exited.raised = none ∧ (exited.state.koils koil).loop = none ∧
    (exited.state.koils koil).running = false ∧
      ∀ next, next ≠ koil → Opens exited.state running next ∧
        Opens (place.unwind s exited.state) running next

def staysOpen (s : Koils.State) (ctx : Context) (loop : Nat) (joined : Bool) : Bool :=
  match ctx.getD .globalKoilLoop with
  | .loop other => !s.closed other && !(joined && other == loop)
  | _ => false

/-- The loop has not died before, and `__exit__` runs in the thread's own context or that
one names no Koil, or a loop that stays open. -/
def exitsCleanly (s : Koils.State) (loop : Nat) (joined : Bool) (place : Place) : Bool :=
  !s.closed loop &&
    match place with
    | .own => true
    | .inRun _ => s.ctx.getD .globalKoil == .nothing || staysOpen s s.ctx loop joined

variable {s : Koils.State} {running : Option Nat} {koil loop next : Nat} {joined : Bool}

theorem opens_of_nothing (ambient : s.ctx.getD .globalKoil = .nothing)
    (unmade : s.closed s.made = false) : Opens s running next := by
  have entered : (s.setKoil next (.fresh true)).enter running next = .ok
      (({ s.setKoil next (.fresh true) with made := s.made + 1 }.setKoil next
        ⟨some s.made, true, true, true⟩).setAmbient (.koil next) (.loop s.made)) := by
    simp only [Koils.State.enter, setKoil_ctx, ambient, setKoil_self, setKoil_made]
    simp [KoilObject.fresh]
  exact ⟨_, s.made, entered, by simp, unmade⟩

theorem opens_of_ambient (ambient : s.ctx.getD .globalKoil ≠ .nothing) :
    Opens s running next ↔
      ∃ loop, s.ctx.getD .globalKoilLoop = .loop loop ∧ s.closed loop = false := by
  have entered : ∃ object, (s.setKoil next (.fresh true)).enter running next =
      .ok ((s.setKoil next (.fresh true)).setKoil next object) := by
    simp only [Koils.State.enter, setKoil_ctx, setKoil_self]
    split
    · next refused => simp [KoilObject.fresh] at refused
    · exact ⟨_, rfl⟩
  obtain ⟨object, entered⟩ := entered
  constructor
  · rintro ⟨after, loop, opened, names, isOpen⟩
    rw [entered] at opened
    cases opened
    exact ⟨loop, names, isOpen⟩
  · rintro ⟨loop, names, isOpen⟩
    exact ⟨_, loop, entered, names, isOpen⟩

/-- The loops that are closed once a loop has been stopped and its thread joined. -/
def closedAfter (s : Koils.State) (loop : Nat) (joined : Bool) : Nat → Bool :=
  if joined then Function.update s.closed loop true else s.closed

theorem closedAfter_eq (s : Koils.State) (loop other : Nat) (joined : Bool) :
    closedAfter s loop joined other = (s.closed other || (joined && other == loop)) := by
  cases joined with
  | false => simp [closedAfter]
  | true =>
      by_cases same : other = loop
      · simp [closedAfter, same]
      · simp [closedAfter, same]

def left (s : Koils.State) (koil loop : Nat) (joined : Bool) (place : Place) : Koils.State :=
  ({ place.view s with closed := closedAfter s loop joined }.setKoil koil
    (.fresh (s.koils koil).syncInAsync)).setAmbient .nothing .nothing

theorem exit_alive (started : Started s running koil loop) (isOpen : s.closed loop = false)
    (joined : Bool) (place : Place) :
    (place.view s).exit running koil joined =
      ⟨left s koil loop joined place, some loop, none⟩ := by
  have outside : (running == some loop) = false := by simpa using started.elsewhere
  cases place <;>
    simp [Koils.State.exit, Place.view, started.owns, isOpen, started.threaded, outside, left,
      closedAfter]

theorem exit_dead (started : Started s running koil loop) (dead : s.closed loop = true)
    (joined : Bool) (place : Place) :
    ((place.view s).exit running koil joined).raised =
      some (.of .runtimeError "Event loop is closed") := by
  cases place <;> simp [Koils.State.exit, Place.view, started.owns, dead]

theorem unmade_closedAfter (started : Started s running koil loop) :
    closedAfter s loop joined s.made = false := by
  have differ : s.made ≠ loop := Nat.ne_of_gt started.made
  rw [closedAfter_eq, started.unmade s.made (Nat.le_refl _)]
  simp [differ]

theorem opens_left (started : Started s running koil loop) (place : Place) :
    Opens (left s koil loop joined place) running next := by
  apply opens_of_nothing
  · exact setAmbient_koil _ _ _
  · cases place <;> exact unmade_closedAfter started

theorem opens_unwound (started : Started s running koil loop) (ctx : Context) :
    Opens ((Place.inRun ctx).unwind s (left s koil loop joined (.inRun ctx))) running next ↔
      (s.ctx.getD .globalKoil == .nothing || staysOpen s s.ctx loop joined) = true := by
  by_cases ambient : s.ctx.getD .globalKoil = .nothing
  · have opens : Opens ((Place.inRun ctx).unwind s (left s koil loop joined (.inRun ctx)))
        running next := opens_of_nothing ambient (unmade_closedAfter started)
    simp [opens, ambient]
  · have found := @opens_of_ambient
      ((Place.inRun ctx).unwind s (left s koil loop joined (.inRun ctx))) running next ambient
    rw [found]
    have context : ((Place.inRun ctx).unwind s (left s koil loop joined (.inRun ctx))).ctx =
      s.ctx := rfl
    have closed : ((Place.inRun ctx).unwind s (left s koil loop joined (.inRun ctx))).closed =
      closedAfter s loop joined := rfl
    rw [context, closed]
    simp only [ambient, beq_iff_eq, Bool.or_eq_true, false_or, staysOpen]
    constructor
    · rintro ⟨other, names, isOpen⟩
      rw [closedAfter_eq, Bool.or_eq_false_iff] at isOpen
      simp [names, isOpen.1, isOpen.2]
    · intro stays
      cases names : s.ctx.getD .globalKoilLoop with
      | loop other =>
          simp only [names, Bool.and_eq_true, Bool.not_eq_true'] at stays
          exact ⟨other, rfl, by rw [closedAfter_eq, stays.1, stays.2]; rfl⟩
      | nothing | koil | event | user => simp [names] at stays

/-- Exiting a started Koil from its thread succeeds and leaves the thread reusable exactly
when the loop has not died and no `Context.run` keeps the thread's own context naming a
loop that is closed then. -/
theorem exit_reusable_iff (s : Koils.State) (running : Option Nat) (koil loop : Nat)
    (joined : Bool) (place : Place) (started : Started s running koil loop) :
    ExitReusable s running koil joined place ↔ exitsCleanly s loop joined place = true := by
  cases dead : s.closed loop with
  | true =>
      have raises := exit_dead started dead joined place
      simp [ExitReusable, raises, exitsCleanly, dead]
  | false =>
      have exited := exit_alive started dead joined place
      simp only [ExitReusable, exited, exitsCleanly, dead, Bool.not_false, Bool.true_and]
      have object : (left s koil loop joined place).koils koil =
          .fresh (s.koils koil).syncInAsync := by simp [left]
      rw [object]
      simp only [KoilObject.fresh, true_and, opens_left started place]
      cases place with
      | own => exact ⟨fun _ => rfl, fun _ next _ => opens_left started .own⟩
      | inRun ctx =>
          constructor
          · intro opens
            exact (opens_unwound started ctx).mp (opens (koil + 1) (Nat.succ_ne_self koil))
          · intro condition next _
            exact (opens_unwound started ctx).mpr condition

theorem started_of_enter {after : Koils.State} (ambient : s.ctx.getD .globalKoil = .nothing)
    (unmade : ∀ later, s.made ≤ later → s.closed later = false)
    (elsewhere : running ≠ some s.made) (entered : s.enter running koil = .ok after) :
    Started after running koil s.made := by
  rcases enter_cases entered with ⟨_, rfl⟩ | ⟨other, _⟩
  · refine ⟨by simp, by simp, by simp, ?_, elsewhere⟩
    intro later beyond
    exact unmade later (Nat.le_of_succ_le beyond)
  · exact absurd ambient other

def entered : Koils.State where
  koils := Function.update (fun _ => .fresh true) 0 ⟨some 0, true, true, true⟩
  closed _ := false
  made := 1
  ctx := (Context.empty.set .globalKoil (.koil 0)).set .globalKoilLoop (.loop 0)

theorem entered_started : Started entered none 0 0 where
  owns := rfl
  threaded := rfl
  made := Nat.zero_lt_one
  unmade _ _ := rfl
  elsewhere := by simp

theorem exit_reusable_entered :
    ExitReusable entered none 0 true .own ↔ exitsCleanly entered 0 true .own = true :=
  exit_reusable_iff entered none 0 0 true .own entered_started

/-- In a slot that handles `returned`, in the context of the coroutine: the thread keeps
naming the loop that has been closed. -/
theorem next_koil_finds_closed_loop :
    Started entered none 0 0 ∧ ¬ ExitReusable entered none 0 true (.inRun entered.ctx) := by
  refine ⟨entered_started, ?_⟩
  rintro ⟨_, _, _, opens⟩
  obtain ⟨loop, names, isOpen⟩ := (opens_of_ambient (by decide)).mp (opens 1 (by decide)).2
  cases names
  cases isOpen

end Koil.ExitContexts
