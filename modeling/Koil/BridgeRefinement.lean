import Koil.BridgePrograms

/-! Koil's semantics of a program refines the direct one, as long as no worker waits
for a thread in vain and every exception crosses the bridge unchanged. -/

namespace Koil.Bridging

open Contexts Race
open ThreadedRun (wrapper)

variable {side : Side}

def leavesTask (exc : Exc) : Bool :=
  !exc.isA .stopIteration && !exc.isA .asyncioCancelledError && !exc.stopsLoop

def leavesWorker (exc : Exc) : Bool :=
  !exc.isA .stopIteration && !exc.isA .asyncioCancelledError

def onError (leaves : Exc → Bool) : Except Exc Val → Bool
  | .ok _ => true
  | .error exc => leaves exc

/-- In the direct evaluation every exception that leaves a subprogram leaves it
unchanged, and no more workers are nested than there are free threads. -/
def Prog.bridgeable : {side : Side} → Prog side → Nat → Vars → Bool
  | _, .bind first next, free, vars =>
      first.bridgeable free vars &&
        match first.direct vars with
        | (.ok value, after) => (next value).bridgeable free after
        | (.error _, _) => true
  | _, .tryExcept body caught handler, free, vars =>
      body.bridgeable free vars &&
        match body.direct vars with
        | (.ok _, _) => true
        | (.error exc, after) =>
            if exc.isInstance caught then (handler exc).bridgeable free after else true
  | _, .unkoil sub, free, vars =>
      sub.bridgeable free vars && onError leavesTask (sub.direct vars).1
  | _, .runThreaded _ sub, free, vars =>
      match free with
      | 0 => false
      | free + 1 => sub.bridgeable free vars && onError leavesWorker (sub.direct vars).1
  | _, _, _, _ => true

/-- Sync code can call `unkoil`: it gets the loop, and its cancel event, if it has
one, is unset and bound to that loop. A coroutine runs on the loop. -/
def Ready (setup : Setup) (loop : Nat) : Side → Option Nat → State → Context → Prop
  | .sync, running, s, ctx =>
      ctx.getKoiledLoopOrRaise running setup.syncInAsync setup.closed setup.advice = .ok loop ∧
        ∀ event, ctx.getD .currentCancelEvent = .event event → s.events[event]? = some ⟨loop, false⟩
  | .async, running, _, _ => running = some loop ∧ setup.closed loop = false

def Call.keepsInternals (call : Call) : Prop :=
  ∀ var, var.internal = true → call.after var = call.before var

/-- The end of a program that began in state `s` and context `ctx` is the direct one,
for koil's own variables nothing has happened, and for the pool threads neither. -/
structure Agrees (s : State) (ctx : Context) (ended : Ended)
    (direct : Except Exc Val × Vars) : Prop where
  result : ended.result = direct.1
  vars : ended.ctx.vars = direct.2
  internals : ∀ var, var.internal = true → ended.ctx var = ctx var
  pool : ended.state.pool = s.pool
  calls : ∀ call ∈ ended.state.calls, call ∈ s.calls ∨ call.keepsInternals
  stays : ∀ var, (ctx var).isSome = true → (ended.ctx var).isSome = true
  events : s.events <+: ended.state.events

theorem Agrees.refl (s : State) (ctx : Context) (result : Except Exc Val) :
    Agrees s ctx ⟨result, s, ctx⟩ (result, ctx.vars) :=
  ⟨rfl, rfl, fun _ _ => rfl, rfl, fun _ before => .inl before, fun _ set => set,
    List.prefix_refl _⟩

theorem Agrees.trans {s : State} {ctx : Context} {first second : Ended}
    {middle last : Except Exc Val × Vars} (before : Agrees s ctx first middle)
    (after : Agrees first.state first.ctx second last) : Agrees s ctx second last where
  result := after.result
  vars := after.vars
  internals var internal := (after.internals var internal).trans (before.internals var internal)
  pool := after.pool.trans before.pool
  calls call member := by
    rcases after.calls call member with earlier | kept
    · exact before.calls call earlier
    · exact .inr kept
  stays var set := after.stays var (before.stays var set)
  events := before.events.trans after.events

theorem ready_later {setup : Setup} {loop : Nat} {running : Option Nat} {s t : State}
    {ctx ctx' : Context} (ready : Ready setup loop side running s ctx)
    (same : ∀ var, var.internal = true → ctx' var = ctx var) (events : s.events <+: t.events) :
    Ready setup loop side running t ctx' := by
  cases side with
  | sync =>
      obtain ⟨got, unset⟩ := ready
      refine ⟨(getKoiledLoopOrRaise_congr same ..).trans got, fun event isAmbient => ?_⟩
      have before : ctx.getD .currentCancelEvent = .event event := by
        rw [Context.getD, ← same .currentCancelEvent rfl]
        exact isAmbient
      have known : event < s.events.length := (List.getElem?_eq_some_iff.mp (unset event before)).1
      obtain ⟨made, isMade⟩ := events
      rw [← isMade, List.getElem?_append_left known]
      exact unset event before
  | async => exact ready

theorem ready_worker {setup : Setup} {loop : Nat} {s : State} (ctx : Context)
    (isOpen : setup.closed loop = false) :
    Ready setup loop .sync none (s.newEvent loop) (ctx.forWorker loop s.events.length) := by
  have isLoop : (ctx.forWorker loop s.events.length).getD .globalKoilLoop = .loop loop := by
    simp [Context.forWorker, Context.getD]
  refine ⟨by simp [Context.getKoiledLoopOrRaise, isLoop, isOpen], fun event isAmbient => ?_⟩
  have same : s.events.length = event := by
    simpa [Context.forWorker, Context.getD] using isAmbient
  subst same
  simp [State.newEvent]

theorem ambient_ready {setup : Setup} {loop : Nat} {running : Option Nat} {s : State}
    {ctx : Context} (ready : Ready setup loop .sync running s ctx) :
    s.ambient ctx = none ∨ s.ambient ctx = some ⟨loop, false⟩ := by
  unfold State.ambient
  split
  · next event isAmbient => exact .inr (ready.2 event isAmbient)
  · exact .inl rfl

theorem direct_raises_user (p : Prog side) {vars : Vars} {exc : Exc}
    (raised : (p.direct vars).1 = .error exc) : ∃ cls, exc.cls = .user cls := by
  induction p generalizing vars with
  | pure value => cases raised
  | read name => cases raised
  | assign name value => cases raised
  | raise cls args =>
      cases raised
      exact ⟨cls, rfl⟩
  | bind first next firstHeld nextHeld =>
      simp only [Prog.direct] at raised
      split at raised
      · exact nextHeld _ raised
      · next ended =>
          cases raised
          exact firstHeld (by rw [ended])
  | tryExcept body caught handler bodyHeld handlerHeld =>
      simp only [Prog.direct] at raised
      split at raised
      · cases raised
      · next ended =>
          split at raised
          · exact handlerHeld _ raised
          · cases raised
            exact bodyHeld (by rw [ended])
  | unkoil sub held =>
      simp only [Prog.direct, crossing] at raised
      split at raised
      · cases raised
      · next ended =>
          cases raised
          exact held (by rw [ended])
  | runThreaded bridge sub held =>
      simp only [Prog.direct, crossing] at raised
      split at raised
      · cases raised
      · next ended =>
          cases raised
          exact held (by rw [ended])

theorem crossed_user {exc : Exc} {cls : UserClass} (user : exc.cls = .user cls)
    (leaves : leavesTask exc = true) : crossed exc = exc := by
  have kept : exc.isConverted = false := by simp [Exc.isConverted, user]
  rw [crossed_eq_iff]
  simpa [crossesWhole, kept, leavesTask] using leaves

theorem awaited_user {exc : Exc} {cls : UserClass} (user : exc.cls = .user cls)
    (leaves : leavesWorker exc = true) :
    (copyFutureState (wrapper (.error exc : Except Exc Val))).get = .error exc := by
  have kept : exc.isConverted = false := by simp [Exc.isConverted, user]
  simp only [leavesWorker, Bool.and_eq_true, Bool.not_eq_true'] at leaves
  simp [wrapper, leaves.1, copyFutureState, TaskEnd.get, convertFutureExc_of_not_converted exc kept]

theorem called_agrees {s t : State} {ctx after : Context} (pool : t.pool = s.pool)
    (calls : ∀ call ∈ t.calls, call ∈ s.calls ∨ call.keepsInternals)
    (events : s.events <+: t.events)
    (internals : ∀ var, var.internal = true → after var = ctx var)
    (stays : ∀ var, (ctx var).isSome = true → (after var).isSome = true)
    (result : Except Exc Val) : Agrees s ctx (t.called ctx after result) (result, after.vars) where
  result := rfl
  vars := rfl
  internals := internals
  pool := pool
  calls call member := by
    rcases List.mem_cons.mp member with rfl | earlier
    · exact .inr internals
    · exact calls call earlier
  stays := stays
  events := events

theorem result_agrees (setup : Setup) (config : Config) {s : State} {ctx : Context}
    {ended : Ended} {sub : Prog .async} (agrees : Agrees s ctx ended (sub.direct ctx.vars))
    (leaves : onError leavesTask (sub.direct ctx.vars).1 = true) :
    ∃ last, setup.result config ctx ended = some last ∧
      Agrees s ctx last ((Prog.unkoil sub).direct ctx.vars) := by
  have direct : (Prog.unkoil sub).direct ctx.vars = crossing true ctx.vars (sub.direct ctx.vars) :=
    rfl
  rw [direct]
  have result := agrees.result
  have vars := agrees.vars
  cases evaluated : sub.direct ctx.vars with
  | mk outcome after =>
      rw [evaluated] at leaves result vars
      simp only at result vars leaves
      cases outcome with
      | ok value =>
          refine ⟨ended.state.called ctx (ctx.setItems ended.ctx) (.ok value), ?_, ?_⟩
          · simp [Setup.result, result, stopsLoop, Except.map, submittedResult_eq, Except.mapError]
          · have last := called_agrees agrees.pool agrees.calls agrees.events agrees.internals
              agrees.stays (.ok value)
            rw [setItems_of_stays agrees.stays]
            rw [vars] at last
            exact last
      | error exc =>
          obtain ⟨cls, user⟩ := direct_raises_user sub (by rw [evaluated])
          have survives : exc.stopsLoop = false := by
            simp only [onError, leavesTask, Bool.and_eq_true, Bool.not_eq_true'] at leaves
            exact leaves.2
          refine ⟨ended.state.called ctx ctx (.error exc), ?_, ?_⟩
          · simp [Setup.result, result, stopsLoop, survives, Except.map, submittedResult_eq,
              Except.mapError, crossed_user user leaves]
          · exact called_agrees agrees.pool agrees.calls agrees.events (fun _ _ => rfl)
              (fun _ set => set) (.error exc)

theorem workerOver_agrees (setup : Setup) (bridge : Bool) {s : State} {ctx : Context}
    {loop : Nat} {ended : Ended} {sub : Prog .sync}
    (agrees : Agrees (s.newEvent loop) (ctx.forWorker loop s.events.length) ended
      (sub.direct ctx.vars))
    (leaves : onError leavesWorker (sub.direct ctx.vars).1 = true) :
    Agrees s ctx
      (setup.workerOver bridge ctx s.events.length (s.pool (setup.serves s.events.length)) ended)
      ((Prog.runThreaded bridge sub).direct ctx.vars) := by
  have direct : (Prog.runThreaded bridge sub).direct ctx.vars =
      crossing bridge ctx.vars (sub.direct ctx.vars) := rfl
  rw [direct]
  have result := agrees.result
  have vars := agrees.vars
  have pool : (ended.state.leave (setup.serves s.events.length)
      (s.pool (setup.serves s.events.length))).pool = s.pool := by
    rw [State.leave, agrees.pool]
    exact Function.update_eq_self ..
  have events : s.events <+: ended.state.events := (List.prefix_append _ _).trans agrees.events
  have calls : ∀ call ∈ ended.state.calls, call ∈ s.calls ∨ call.keepsInternals := agrees.calls
  have stays : ∀ var, (ctx var).isSome = true → (ended.ctx var).isSome = true :=
    fun var set => agrees.stays var (forWorker_stays ctx _ _ var set)
  cases evaluated : sub.direct ctx.vars with
  | mk outcome after =>
      rw [evaluated] at leaves result vars
      simp only at result vars leaves
      cases outcome with
      | ok value =>
          simp only [Setup.workerOver, result]
          cases bridge with
          | false =>
              exact called_agrees pool calls events (fun _ _ => rfl) (fun _ set => set) (.ok value)
          | true =>
              have last := @called_agrees s _ ctx _ pool calls events
                (fun _ internal => propagateContextOut_internal ctx ended.ctx internal)
                (propagateContextOut_stays ctx ended.ctx) (.ok value)
              rw [propagateContextOut_vars stays, vars] at last
              exact last
      | error exc =>
          obtain ⟨cls, user⟩ := direct_raises_user sub (by rw [evaluated])
          have notCancel : exc.isA .asyncioCancelledError = false := by
            simp only [onError, leavesWorker, Bool.and_eq_true, Bool.not_eq_true'] at leaves
            exact leaves.2
          simp only [Setup.workerOver, result, awaited_user user leaves, notCancel,
            Bool.false_eq_true, if_false]
          exact called_agrees pool calls events (fun _ _ => rfl) (fun _ set => set) _

/-- A bridgeable program that is ready to run ends as it does directly. -/
theorem bridging_compositional (setup : Setup) (loop : Nat) (p : Prog side)
    {running : Option Nat} {free : Nat} {s : State} {ctx : Context}
    (ready : Ready setup loop side running s ctx) (bridgeable : p.bridgeable free ctx.vars = true) :
    ∃ ended, p.run setup running free s ctx = some ended ∧
      Agrees s ctx ended (p.direct ctx.vars) := by
  induction p generalizing running free s ctx with
  | pure value => exact ⟨_, rfl, .refl s ctx _⟩
  | read name => exact ⟨_, rfl, .refl s ctx _⟩
  | raise cls args => exact ⟨_, rfl, .refl s ctx _⟩
  | assign name value =>
      refine ⟨_, rfl, rfl, vars_set_user ctx name value, fun var internal => ?_, rfl,
        fun _ before => .inl before, set_stays ctx _ value, List.prefix_refl _⟩
      refine set_other ctx value ?_
      rintro rfl
      cases internal
  | bind first next firstHeld nextHeld =>
      simp only [Prog.bridgeable, Bool.and_eq_true] at bridgeable
      obtain ⟨middle, isMiddle, before⟩ := firstHeld ready bridgeable.1
      simp only [Prog.run, isMiddle, Option.bind_some, Prog.direct]
      cases evaluated : first.direct ctx.vars with
      | mk outcome after =>
          rw [evaluated] at bridgeable before
          have result := before.result
          have vars := before.vars
          cases outcome with
          | ok value =>
              have readyAfter := ready_later ready before.internals before.events
              obtain ⟨ended, isEnd, later⟩ := nextHeld value readyAfter
                (by rw [vars]; exact bridgeable.2)
              rw [vars] at later
              exact ⟨ended, by rw [result]; exact isEnd, before.trans later⟩
          | error exc => exact ⟨middle, by rw [result], before⟩
  | tryExcept body caught handler bodyHeld handlerHeld =>
      simp only [Prog.bridgeable, Bool.and_eq_true] at bridgeable
      obtain ⟨middle, isMiddle, before⟩ := bodyHeld ready bridgeable.1
      simp only [Prog.run, isMiddle, Option.bind_some, Prog.direct]
      cases evaluated : body.direct ctx.vars with
      | mk outcome after =>
          rw [evaluated] at bridgeable before
          have result := before.result
          have vars := before.vars
          cases outcome with
          | ok value => exact ⟨middle, by rw [result], before⟩
          | error exc =>
              simp only [result]
              by_cases isCaught : exc.isInstance caught = true
              · have readyAfter := ready_later ready before.internals before.events
                obtain ⟨ended, isEnd, later⟩ := handlerHeld exc readyAfter
                  (by rw [vars]; simpa [isCaught] using bridgeable.2)
                rw [vars] at later
                refine ⟨ended, by simpa [isCaught] using isEnd, ?_⟩
                simpa [isCaught] using before.trans later
              · refine ⟨middle, by simp [isCaught], ?_⟩
                simpa [isCaught] using before
  | unkoil sub held =>
      simp only [Prog.bridgeable, Bool.and_eq_true] at bridgeable
      have coroutine : Ready setup loop .async (some loop) s ctx :=
        ⟨rfl, getKoiledLoopOrRaise_open ready.1⟩
      obtain ⟨ended, isEnd, agrees⟩ := held coroutine bridgeable.1
      simp only [Prog.run, Setup.unkoil, ready.1, setItems_same]
      rcases ambient_ready ready with none_ | ambient
      · simp only [none_, isEnd, Option.bind_some]
        exact result_agrees setup _ agrees bridgeable.2
      · simp only [ambient, isEnd, Option.bind_some, Bool.false_eq_true, if_false, ne_eq,
          not_true_eq_false]
        exact result_agrees setup _ agrees bridgeable.2
  | runThreaded bridge sub held =>
      obtain ⟨rfl, isOpen⟩ := ready
      cases free with
      | zero => cases bridgeable
      | succ free =>
          simp only [Prog.bridgeable, Bool.and_eq_true] at bridgeable
          obtain ⟨ended, isEnd, agrees⟩ := held (ready_worker ctx isOpen)
            (by rw [vars_forWorker]; exact bridgeable.1)
          rw [vars_forWorker] at agrees
          refine ⟨_, ?_, workerOver_agrees setup bridge agrees bridgeable.2⟩
          simp only [Prog.run, isEnd, Option.map_some]

def plainSetup : Setup := ⟨fun _ => true, fun _ => false, fun _ => 0, Waiters.idle, "", fun _ => ""⟩

def idle : State := ⟨[], fun _ => .empty, []⟩

def koiled : Context := (Context.empty.set .globalKoil (.koil 0)).set .globalKoilLoop (.loop 0)

def userError : UserClass := ⟨0, [], [.exception], true⟩

/-- Assignments at every level: one is overwritten, one is lost with a raised exception,
and one in a worker which does not bridge. -/
def threeLevels : Prog .sync :=
  .bind (.assign 0 (.user 1)) fun _ =>
    .unkoil
      (.bind
        (.runThreaded true
          (.bind (.assign 0 (.user 2)) fun _ =>
            .tryExcept (.unkoil (.bind (.assign 1 (.user 3)) fun _ => .raise userError "lost"))
              (.user userError) fun _ => .assign 2 (.user 4)))
        fun _ => .runThreaded false (.bind (.assign 2 (.user 5)) fun _ => .read 0))

theorem bridging_compositional_threeLevels :
    (threeLevels.direct koiled.vars).1 = .ok (.user 2) ∧
      ∃ ended, threeLevels.run plainSetup none 1 idle koiled = some ended ∧
        Agrees idle koiled ended (threeLevels.direct koiled.vars) := by
  have ready : Ready plainSetup 0 .sync none idle koiled :=
    ⟨rfl, fun _ ambient => by cases ambient⟩
  exact ⟨rfl, bridging_compositional plainSetup 0 threeLevels ready (by decide)⟩

def userStop : UserClass := ⟨1, [], [.stopIteration], true⟩

def stopping : Prog .async := .runThreaded true (.raise userStop "")

def nestedWorkers : Nat → Prog .async
  | 0 => .pure .nothing
  | depth + 1 => .runThreaded true (.unkoil (nestedWorkers depth))

/-- A StopIteration is replaced, and the innermost of 33 nested workers waits for one
of 32 threads, all of which wait for it. -/
theorem bridging_not_compositional :
    (Ready plainSetup 0 .async (some 0) idle koiled ∧
      ∃ ended, stopping.run plainSetup (some 0) 32 idle koiled = some ended ∧
        ended.result = .error (.of .runtimeError "Threaded function raised StopIteration") ∧
        (stopping.direct koiled.vars).1 = .error ⟨.user userStop, ""⟩) ∧
    ((nestedWorkers 33).run plainSetup (some 0) 32 idle koiled = none ∧
      ((nestedWorkers 33).direct koiled.vars).1 = .ok .nothing) := by
  refine ⟨⟨⟨rfl, rfl⟩, _, rfl, rfl, rfl⟩, ?_, rfl⟩
  rfl

end Koil.Bridging
