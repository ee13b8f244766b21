import Koil.ClosingErrors
import Koil.IterateEquivalence

/-! A sync generator that is taken to the loop by `iterate_threaded` and back to a sync one by
`unkoil_gen`, over and over, beside the generator itself. -/

namespace Koil.Towers

open Contexts Generators Iterating Race

variable {σ β S V : Type}

/-- One `unkoil_gen(iterate_threaded, gen)`, or one over `iterate_threaded_bridged`: the loop
and the pool below, how each step is submitted, and what else fires while it runs. Every job
finds a free thread, and every step wins its race: no ambient cancel event is set meanwhile, or
belongs to another loop. -/
structure Level where
  setup : Setup
  bridge : Bool
  config : Config
  waiters : Nat → Waiters config

variable (level : Level) (gen : SyncGen σ S V)

/-- The async generator of `iterate_threaded` for a task with the context `ctx`. -/
def Level.asyncGen (ctx : Context) : AsyncGen (Iteration σ) S V where
  resume it sent :=
    match level.setup.round level.bridge false gen { it with ctx := ctx } sent with
    | (.ok value, after) => .yielded value after
    | (.error exc, _) => if exc.isA .stopAsyncIteration then .returned else .raised exc
  close it :=
    match (level.setup.aclose level.bridge false gen { it with ctx := ctx }).1 with
    | none => .closed
    | some exc => .raised exc

def stepsBefore : Frame (Iteration σ) → Nat
  | .unstarted it | .suspended it => it.jobs
  | .finished => 0

def bodyStep (reply : Reply V) (frame : Frame σ) : GenStep (Frame σ) V :=
  match reply with
  | .yielded value => .yielded value frame
  | .stopped => .returned
  | .raised exc => .raised exc

def contextAfter (ctx : Context) : Frame (Iteration σ) → Context
  | .suspended it => ctx.setItems it.ctx
  | _ => ctx

theorem send_isSome {config : Config} (gen : AsyncGen σ S V) (waiters : Waiters config)
    (frame : Frame σ) (sent : Option S) : (send gen waiters frame sent).isSome = true := by
  cases frame with
  | unstarted state =>
      cases sent with
      | none => simp [send, firstStep_eq]
      | some value => rfl
  | suspended state =>
      cases sent with
      | none => simp [send, nextStep_eq]
      | some value =>
          obtain ⟨reply, sends⟩ := sendStep_unreceived gen waiters state
          simp [send, sends]
  | finished => rfl

def roundTrip : SyncGen (Frame (Iteration σ)) S V where
  initial := .unstarted (.start .empty)
  resume _ ctx frame sent :=
    let sends := (send (level.asyncGen gen (ctx.setItems ctx)) (level.waiters (stepsBefore frame))
      frame sent).get (send_isSome ..)
    (bodyStep sends.reply sends.frame, contextAfter ctx sends.frame)
  close _ ctx frame :=
    (bodyStep (leave (level.asyncGen gen ctx) (suspension frame) (.raised (.of .generatorExit "")))
      .finished, ctx)

structure AnyGen (S V : Type) where
  State : Type
  body : SyncGen State S V

def tower (base : AnyGen S V) : List Level → AnyGen S V
  | [] => base
  | level :: levels => tower ⟨_, roundTrip level base.body⟩ levels

def replyTo : GenStep σ V → Reply V
  | .yielded value _ => .yielded value
  | .returned => .stopped
  | .raised exc => .raised (genException exc)

/-- The exception of a job as `await _run_threaded(...)` raises it. -/
def arrives (shown : String) (exc : Exc) : Exc :=
  match awaited shown false (.error exc : Except Exc Unit) with
  | .ok _ => exc
  | .error seen => seen

def ended (steps : Nat) : Reply V :=
  if steps = 0 then .raised (.of .stopAsyncIteration "") else .stopped

def Level.through (steps : Nat) : Reply V → Reply V
  | .yielded value => .yielded value
  | .stopped => ended steps
  | .raised exc =>
      let seen := arrives (level.setup.shown steps) exc
      if seen.isA .koilStopIteration then ended steps else .raised (crossed (agenException seen))

/-- What a level makes of what `close()` raises below it, if anything. -/
def Level.closing (steps : Nat) : Option Exc → Option Exc
  | none => none
  | some exc =>
      let raised := agenException (arrives (level.setup.shown steps) exc)
      if raised.isA .generatorExit || raised.isA .stopAsyncIteration then none
      else
        match acloseAsyncGenThreadsafe (.raised raised) with
        | none => none
        | some seen => if seen.isA .generatorExit then none else some seen

def throughAll (steps : Nat) (levels : List Level) (reply : Reply V) : Reply V :=
  levels.foldl (fun reply level => level.through steps reply) reply

def closingAll (steps : Nat) (levels : List Level) (raised : Option Exc) : Option Exc :=
  levels.foldl (fun raised level => level.closing steps raised) raised

/-- An exception that every level hands on: as it is, or because the cancellation that asyncio
makes of it turns into the same one again. -/
def passes (exc : Exc) : Bool :=
  crossesWhole exc && !exc.isA .stopAsyncIteration && !exc.isA .koilStopIteration ||
    exc == .of .futuresCancelledError ""

def hands (steps : Nat) : Reply V → Bool
  | .yielded _ => true
  | .stopped => steps != 0
  | .raised exc => passes exc

def surfaces (exc : Exc) : Bool :=
  !swallowed exc && !exc.isA .stopAsyncIteration && !exc.isA .generatorExit &&
    !exc.isA .stopIteration

section steps

/-- How a step of a generator goes, beside a step of the one under it: the values are the same,
`T` turns the end below into the end above, and `R` holds at the `yield`. -/
inductive StepFollows (T : Reply V → Reply V) (R : σ → β → Prop) :
    GenStep σ V → GenStep β V → Prop
  | yields (value : V) {next : σ} {below : β} (related : R next below) :
      StepFollows T R (.yielded value next) (.yielded value below)
  | ends {step : GenStep σ V} {under : GenStep β V} (done : step.after = none)
      (done' : under.after = none) (reply : replyTo step = T (replyTo under)) :
      StepFollows T R step under

def jobError (exc : Exc) : Exc :=
  convertFutureExc
    (if exc.isA .stopIteration then
      .of .runtimeError "Threaded function raised StopIteration"
    else exc)

theorem job_raises {α : Type} (exc : Exc) :
    (copyFutureState (ThreadedRun.wrapper (.error exc : Except Exc α))).get =
      .error (jobError exc) := by
  unfold ThreadedRun.wrapper jobError
  dsimp only
  split <;> rfl

theorem awaited_raises_eq {α : Type} (shown : String) (exc : Exc) :
    awaited shown false (.error exc : Except Exc α) =
      .error
        (if (jobError exc).isA .asyncioCancelledError then
          handled shown (jobError exc) (.error (jobError exc) : Except Exc Unit)
        else jobError exc) := by
  simp only [awaited, job_raises, Bool.false_eq_true, if_false]
  split <;> rfl

theorem awaited_arrives {α : Type} (shown : String) (exc : Exc) :
    awaited shown false (.error exc : Except Exc α) = .error (arrives shown exc) := by
  simp only [arrives, awaited_raises_eq]

variable {level gen} {it : Iteration σ} {state : σ} {ctx : Context}

theorem asend_yields (sent : Option S) {value : V} {next : σ} {after : Context}
    (resumes : it.Resumes gen state sent)
    (reacts : level.setup.reaction gen { it with ctx := ctx } state sent =
      (.yielded value next, after)) :
    ∃ left, (level.asyncGen gen ctx).asend it sent =
      .yielded value ⟨.atYield, some (.suspended next), it.jobs + 1, left⟩ := by
  have same : ({ it with ctx := ctx } : Iteration σ).Resumes gen state sent := resumes
  refine ⟨if level.bridge then ctx.propagateContextOut after else ctx, ?_⟩
  simp only [AsyncGen.asend, Level.asyncGen, round_yielded same reacts]

theorem asend_returned (sent : Option S) {after : Context} (resumes : it.Resumes gen state sent)
    (reacts : level.setup.reaction gen { it with ctx := ctx } state sent = (.returned, after)) :
    (level.asyncGen gen ctx).asend it sent = .returned := by
  have same : ({ it with ctx := ctx } : Iteration σ).Resumes gen state sent := resumes
  simp only [AsyncGen.asend, Level.asyncGen, round_returned same reacts]
  rfl

theorem agenException_kept {exc : Exc} (notStop : exc.isA .stopIteration = false)
    (notEnd : exc.isA .stopAsyncIteration = false) : agenException exc = exc := by
  simp [agenException, notStop, notEnd]

theorem agenException_idem (exc : Exc) : agenException (agenException exc) = agenException exc :=
  agenException_kept (agenException_not_stopIteration exc) (agenException_not_stop exc)

theorem asend_raised (sent : Option S) {exc : Exc} {after : Context}
    (resumes : it.Resumes gen state sent)
    (reacts : level.setup.reaction gen { it with ctx := ctx } state sent =
      (.raised exc, after)) :
    (level.asyncGen gen ctx).asend it sent =
      let seen := arrives (level.setup.shown it.jobs) (genException exc)
      if seen.isA .koilStopIteration then .returned else .raised (agenException seen) := by
  have same : ({ it with ctx := ctx } : Iteration σ).Resumes gen state sent := resumes
  have stepped := step_raised same reacts
  simp only [AsyncGen.asend, Level.asyncGen, Setup.round, Setup.runThreaded, stepped,
    awaited_arrives]
  cases stop : (arrives (level.setup.shown it.jobs) (genException exc)).isA .koilStopIteration with
  | true =>
      simp only [if_true]
      rfl
  | false =>
      simp only [Bool.false_eq_true, if_false, agenException_not_stop, agenException_idem]

/-- Where the frame of `unkoil_gen` holds its async generator before a step. -/
inductive Located (it : Iteration σ) : Frame (Iteration σ) → Prop
  | first (jobs : it.jobs = 0) : Located it (.unstarted it)
  | later (jobs : 0 < it.jobs) : Located it (.suspended it)

theorem roundTrip_resume {frame : Frame (Iteration σ)} (located : Located it frame)
    (thread : Nat) (ctx : Context) :
    ((roundTrip level gen).resume thread ctx frame none).1 =
      match (level.asyncGen gen ctx).asend it none with
      | .yielded value next => .yielded value (.suspended next)
      | .returned => bodyStep (ended it.jobs) .finished
      | .raised exc => .raised (crossed exc) := by
  cases located with
  | first jobs =>
      simp only [roundTrip, setItems_same, send, firstStep_eq, Option.get_some, jobs, ended]
      cases (level.asyncGen gen ctx).asend it none <;> rfl
  | later jobs =>
      simp only [roundTrip, setItems_same, send, nextStep_eq, Option.get_some, ended,
        Nat.ne_of_gt jobs, if_false]
      cases (level.asyncGen gen ctx).asend it none <;> rfl

theorem convertFutureExc_not_stopIteration {exc : Exc} (notStop : exc.isA .stopIteration = false) :
    (convertFutureExc exc).isA .stopIteration = false := by
  unfold convertFutureExc
  split <;> first | rfl | exact notStop

theorem crossed_not_stopIteration (exc : Exc) : (crossed exc).isA .stopIteration = false := by
  by_cases stops : exc.stopsLoop = true
  · rw [crossed_stops exc stops]
    rfl
  · have survives : exc.stopsLoop = false := by simpa using stops
    by_cases stop : exc.isA .stopIteration = true
    · rw [crossed_stopIteration exc survives stop]
      rfl
    · have notStop : exc.isA .stopIteration = false := by simpa using stop
      by_cases cancel : exc.isA .asyncioCancelledError = true
      · rw [crossed_cancelled exc survives notStop cancel]
        rfl
      · rw [crossed_raised exc survives notStop (by simpa using cancel)]
        exact convertFutureExc_not_stopIteration notStop

theorem genException_kept {exc : Exc} (notStop : exc.isA .stopIteration = false) :
    genException exc = exc := by
  simp [genException, notStop]

theorem replyTo_ended (steps : Nat) (frame : Frame σ) :
    replyTo (bodyStep (ended steps : Reply V) frame) = ended steps := by
  unfold ended
  split <;> rfl

theorem after_ended (steps : Nat) (frame : Frame σ) :
    (bodyStep (ended steps : Reply V) frame).after = none := by
  unfold ended
  split <;> rfl

def Holds (steps : Nat) (frame : Frame (Iteration σ)) (state : σ) : Prop :=
  ∃ it : Iteration σ, frame = .suspended it ∧ it.point = .atYield ∧
    it.generator = some (.suspended state) ∧ it.jobs = steps

theorem roundTrip_step {frame : Frame (Iteration σ)} (located : Located it frame)
    (resumes : it.Resumes gen state none) (thread : Nat) (ctx : Context) :
    StepFollows (level.through it.jobs) (Holds (it.jobs + 1))
      ((roundTrip level gen).resume thread ctx frame none).1
      (level.setup.reaction gen { it with ctx := ctx } state none).1 := by
  rw [roundTrip_resume located]
  cases reacts : level.setup.reaction gen { it with ctx := ctx } state none with
  | mk step after =>
    cases step with
    | yielded value next =>
        obtain ⟨left, yields⟩ := asend_yields none resumes reacts
        rw [yields]
        exact .yields value ⟨_, rfl, rfl, rfl, rfl⟩
    | returned =>
        rw [asend_returned none resumes reacts]
        exact .ends (after_ended ..) rfl (replyTo_ended ..)
    | raised exc =>
        rw [asend_raised none resumes reacts]
        have through : level.through it.jobs (replyTo (.raised exc : GenStep σ V)) =
            if (arrives (level.setup.shown it.jobs) (genException exc)).isA .koilStopIteration
            then ended it.jobs
            else .raised (crossed
              (agenException (arrives (level.setup.shown it.jobs) (genException exc)))) := rfl
        cases stop : (arrives (level.setup.shown it.jobs) (genException exc)).isA
            .koilStopIteration with
        | true =>
            rw [stop, if_pos rfl] at through
            simp only [stop, if_true]
            exact .ends (after_ended ..) rfl ((replyTo_ended ..).trans through.symm)
        | false =>
            rw [stop, if_neg Bool.false_ne_true] at through
            simp only [stop, Bool.false_eq_true, if_false]
            refine .ends rfl rfl (Eq.trans ?_ through.symm)
            rw [replyTo, genException_kept (crossed_not_stopIteration _)]

theorem roundTrip_close (level : Level) (gen : SyncGen σ S V) {frame : Frame (Iteration σ)}
    {steps : Nat} (holds : Holds steps frame state) (thread : Nat) (ctx : Context) :
    ∃ ctx', raisedBy (closeResult ((roundTrip level gen).close thread ctx frame)).result =
      level.closing steps
        (raisedBy (closeResult (gen.close (level.setup.serves steps) ctx' state)).result) := by
  obtain ⟨it, rfl, point, generator, rfl⟩ := holds
  have located : ({ it with ctx := ctx } : Iteration σ).point = .atYield := point
  have closes := athrow_closes level.setup level.bridge false gen located generator
    (.of .generatorExit "") rfl
  refine ⟨ctx.forWorker level.setup.loop it.jobs, ?_⟩
  simp only [roundTrip, suspension, leave, Level.asyncGen, Setup.aclose, closes,
    Setup.closeReaction]
  cases ended : (closeResult (gen.close (level.setup.serves it.jobs)
      (ctx.forWorker level.setup.loop it.jobs) state)).result with
  | ok value => rfl
  | error exc =>
      simp only [awaited_arrives, raisedBy, Level.closing]
      cases quiet : (agenException (arrives (level.setup.shown it.jobs) exc)).isA
          .generatorExit || (agenException (arrives (level.setup.shown it.jobs) exc)).isA
            .stopAsyncIteration with
      | true =>
          simp only [if_true]
          rfl
      | false =>
          simp only [Bool.false_eq_true, if_false]
          cases closed : acloseAsyncGenThreadsafe
              (.raised (agenException (arrives (level.setup.shown it.jobs) exc))) with
          | none => rfl
          | some seen =>
              have kept : genException seen = seen :=
                genException_kept (aclose_not_stopIteration closed)
              simp only [bodyStep, closeResult, kept]
              cases seen.isA .generatorExit <;> rfl

end steps

/-- A generator beside another one whose values it yields, in whatever threads and contexts
each of the two is resumed. -/
structure Follows (T : Nat → Reply V → Reply V) (C : Nat → Option Exc → Option Exc)
    (R : Nat → σ → β → Prop) (gen : SyncGen σ S V) (base : SyncGen β S V) : Prop where
  first : ∀ thread thread' ctx ctx', StepFollows (T 0) (R 1)
    (gen.resume thread ctx gen.initial none).1 (base.resume thread' ctx' base.initial none).1
  later : ∀ steps state below, 0 < steps → R steps state below → ∀ thread thread' ctx ctx',
    StepFollows (T steps) (R (steps + 1))
      (gen.resume thread ctx state none).1 (base.resume thread' ctx' below none).1
  close : ∀ steps state below, R steps state below → ∀ thread thread' ctx ctx',
    raisedBy (closeResult (gen.close thread ctx state)).result =
      C steps (raisedBy (closeResult (base.close thread' ctx' below)).result)
  leaves : ∀ steps state below, R steps state below → ∀ thread thread' ctx ctx',
    (base.close thread' ctx' below).1.after = none → (gen.close thread ctx state).1.after = none

section composition

variable {γ : Type} {T T' : Reply V → Reply V} {gen : SyncGen σ S V}

theorem StepFollows.self (step : GenStep σ V) : StepFollows (fun reply => reply) Eq step step := by
  cases step with
  | yielded value next => exact .yields value rfl
  | returned => exact .ends rfl rfl rfl
  | raised exc => exact .ends rfl rfl rfl

theorem StepFollows.trans {R : σ → β → Prop} {R' : β → γ → Prop} {above : GenStep σ V}
    {step : GenStep β V} {below : GenStep γ V} (upper : StepFollows T R above step)
    (lower : StepFollows T' R' step below) :
    StepFollows (fun reply => T (T' reply))
      (fun state under => ∃ next, R state next ∧ R' next under) above below := by
  cases upper with
  | yields value related =>
      cases lower with
      | yields _ related' => exact .yields value ⟨_, related, related'⟩
      | ends finished under reply => cases finished
  | ends finished under reply =>
      cases lower with
      | yields value related' => cases under
      | ends done' under' reply' => exact .ends finished under' (reply.trans (congrArg T reply'))

theorem follows_self {base : SyncGen β S V} (independent : base.Independent) :
    Follows (fun _ reply => reply) (fun _ raised => raised) (fun _ => Eq) base base where
  first thread thread' ctx ctx' := by
    rw [independent.resume thread thread' ctx ctx']
    exact .self _
  later steps state below positive same thread thread' ctx ctx' := by
    rw [same, independent.resume thread thread' ctx ctx']
    exact .self _
  close steps state below same thread thread' ctx ctx' := by
    rw [same, (close_same independent below thread thread' ctx ctx').1]
  leaves steps state below same thread thread' ctx ctx' finished := by
    rw [same, independent.close thread thread' ctx ctx', finished]

theorem roundTrip_leaves (level : Level) (gen : SyncGen σ S V) (thread : Nat) (ctx : Context)
    (frame : Frame (Iteration σ)) :
    ((roundTrip level gen).close thread ctx frame).1.after = none := by
  simp only [roundTrip, leave]
  split
  · rfl
  · split <;> rfl

theorem Follows.roundTrip {T : Nat → Reply V → Reply V} {C : Nat → Option Exc → Option Exc}
    {R : Nat → σ → β → Prop} {base : SyncGen β S V} (follows : Follows T C R gen base)
    (level : Level) :
    Follows (fun steps reply => level.through steps (T steps reply))
      (fun steps raised => level.closing steps (C steps raised))
      (fun steps frame below => ∃ state, Holds steps frame state ∧ R steps state below)
      (roundTrip level gen) base where
  first thread thread' ctx ctx' := by
    have located : Located (.start .empty : Iteration σ) (.unstarted (.start .empty)) :=
      .first rfl
    have resumes : (.start .empty : Iteration σ).Resumes gen gen.initial none :=
      .inl ⟨rfl, rfl, rfl⟩
    exact (roundTrip_step located resumes thread ctx).trans (follows.first _ thread' _ ctx')
  later steps frame below positive related thread thread' ctx ctx' := by
    obtain ⟨state, ⟨it, rfl, point, generator, rfl⟩, below⟩ := related
    have resumes : it.Resumes gen state none := .inr generator
    exact (roundTrip_step (.later positive) resumes thread ctx).trans
      (follows.later _ state _ positive below _ thread' _ ctx')
  close steps frame below related thread thread' ctx ctx' := by
    obtain ⟨state, holds, below⟩ := related
    obtain ⟨own, closed⟩ := roundTrip_close level gen holds thread ctx
    rw [closed, follows.close steps state _ below _ thread' own ctx']
  leaves steps frame below related thread thread' ctx ctx' finished :=
    roundTrip_leaves level gen thread ctx frame

theorem tower_follows {base : SyncGen β S V} (levels : List Level) {σ : Type}
    {T : Nat → Reply V → Reply V} {C : Nat → Option Exc → Option Exc} {R : Nat → σ → β → Prop}
    {gen : SyncGen σ S V} (follows : Follows T C R gen base) :
    ∃ R', Follows (fun steps reply => throughAll steps levels (T steps reply))
      (fun steps raised => closingAll steps levels (C steps raised)) R'
      (tower ⟨σ, gen⟩ levels).body base := by
  induction levels generalizing σ T C R gen with
  | nil => exact ⟨R, follows⟩
  | cons level levels ih => exact ih (follows.roundTrip level)

end composition

section driving

variable {levels : List Level}

theorem throughAll_yielded (steps : Nat) (levels : List Level) (value : V) :
    throughAll steps levels (.yielded value) = .yielded value := by
  induction levels with
  | nil => rfl
  | cons level levels ih => exact ih

theorem throughAll_stopped {steps : Nat} (positive : 0 < steps) (levels : List Level) :
    throughAll steps levels (.stopped : Reply V) = .stopped := by
  induction levels with
  | nil => rfl
  | cons level levels ih =>
      have through : level.through steps (.stopped : Reply V) = .stopped := by
        simp [Level.through, ended, Nat.ne_of_gt positive]
      rw [throughAll, List.foldl_cons, through]
      exact ih

theorem closingAll_none (steps : Nat) (levels : List Level) :
    closingAll steps levels none = none := by
  induction levels with
  | nil => rfl
  | cons level levels ih => exact ih

def ignored : Exc := .of .runtimeError "generator ignored GeneratorExit"

/-- The driver of the tower gets what the driver of the generator itself gets, each reply
and the end of the close carried through all the levels. -/
structure Carried (before steps : Nat) (levels : List Level) (above : Driven σ V)
    (below : Driven β V) : Prop where
  replies : above.replies =
    below.replies.mapIdx fun index reply => throughAll (before + index) levels reply
  closing : above.closing = below.closing.map (closingAll (before + steps) levels)
  suspended : below.closing ≠ some (some ignored) →
    above.suspended.isSome = below.suspended.isSome

theorem Carried.cons {before steps : Nat} {above : Driven σ V} {below : Driven β V}
    {reply under : Reply V} (later : Carried (before + 1) steps levels above below)
    (first : reply = throughAll before levels under) :
    Carried before (steps + 1) levels { above with replies := reply :: above.replies }
      { below with replies := under :: below.replies } where
  replies := by
    rw [List.mapIdx_cons, later.replies, first]
    simp only [Nat.add_zero, Nat.add_assoc, Nat.add_comm 1]
  closing := by
    rw [later.closing, Nat.add_assoc, Nat.add_comm 1]
  suspended := later.suspended

variable {R : Nat → σ → β → Prop} {gen : SyncGen σ S V} {base : SyncGen β S V}

theorem driven_finished {before : Nat} (positive : 0 < before) (steps : Nat) (closes : Bool)
    (thread thread' : Nat) (ctx ctx' : Context) :
    Carried before steps levels
      (gen.driven "generator" thread closes ctx .finished (List.replicate steps none))
      (base.driven "generator" thread' closes ctx' .finished (List.replicate steps none)) := by
  induction steps generalizing before with
  | zero =>
      cases closes with
      | true => exact ⟨rfl, congrArg some (closingAll_none ..).symm, fun _ => rfl⟩
      | false => exact ⟨rfl, rfl, fun _ => rfl⟩
  | succ steps ih =>
      exact (ih (Nat.lt_succ_of_lt positive)).cons (throughAll_stopped positive levels).symm

theorem replyOf_sent (step : GenStep σ V) (ctx : Context) :
    replyOf .stopIteration (sentResult (step, ctx)).result = replyTo step := by
  cases step with
  | yielded value next => rfl
  | returned => rfl
  | raised exc => simp [replyOf, sentResult, replyTo, genException_not_stop]

theorem frame_sent {step : GenStep σ V} (ends : step.after = none) (ctx : Context) :
    (sentResult (step, ctx)).frame = .finished := by
  cases step with
  | yielded value next => cases ends
  | returned => rfl
  | raised exc => rfl

theorem closed_frame {reaction : GenStep σ V × Context} (ends : reaction.1.after = none) :
    (closeResult reaction).frame = .finished := by
  obtain ⟨step, ctx⟩ := reaction
  cases step with
  | yielded value next => cases ends
  | returned => rfl
  | raised exc =>
      unfold closeResult
      dsimp only
      split <;> rfl

theorem driven_step {before steps : Nat} {closes : Bool} {thread thread' : Nat}
    {above : GenStep σ V × Context} {below : GenStep β V × Context}
    (stepped : StepFollows (throughAll before levels) (R (before + 1)) above.1 below.1)
    (later : ∀ state under, R (before + 1) state under → ∀ ctx ctx',
      Carried (before + 1) steps levels
        (gen.driven "generator" thread closes ctx (.suspended state) (List.replicate steps none))
        (base.driven "generator" thread' closes ctx' (.suspended under)
          (List.replicate steps none))) :
    Carried before (steps + 1) levels
      { gen.driven "generator" thread closes (sentResult above).ctx (sentResult above).frame
          (List.replicate steps none) with
        replies := replyOf .stopIteration (sentResult above).result ::
          (gen.driven "generator" thread closes (sentResult above).ctx (sentResult above).frame
            (List.replicate steps none)).replies }
      { base.driven "generator" thread' closes (sentResult below).ctx (sentResult below).frame
          (List.replicate steps none) with
        replies := replyOf .stopIteration (sentResult below).result ::
          (base.driven "generator" thread' closes (sentResult below).ctx (sentResult below).frame
            (List.replicate steps none)).replies } := by
  obtain ⟨step, ctx⟩ := above
  obtain ⟨under, ctx'⟩ := below
  simp only at stepped
  rw [replyOf_sent, replyOf_sent]
  cases stepped with
  | yields value related =>
      exact (later _ _ related _ _).cons (throughAll_yielded ..).symm
  | ends finished done' reply =>
      rw [frame_sent finished, frame_sent done']
      exact (driven_finished (Nat.succ_pos before) steps closes thread thread' _ _).cons reply

theorem driven_suspended
    (follows : Follows (throughAll · levels) (closingAll · levels) R gen base) {before : Nat}
    (positive : 0 < before) {state : σ} {below : β} (related : R before state below)
    (steps : Nat) (closes : Bool) (thread thread' : Nat) (ctx ctx' : Context) :
    Carried before steps levels
      (gen.driven "generator" thread closes ctx (.suspended state) (List.replicate steps none))
      (base.driven "generator" thread' closes ctx' (.suspended below)
        (List.replicate steps none)) := by
  induction steps generalizing before state below ctx ctx' with
  | zero =>
      cases closes with
      | true =>
          have closed := follows.close before state below related thread thread' ctx ctx'
          refine ⟨rfl, congrArg some closed, fun heeded => ?_⟩
          have finished : (base.close thread' ctx' below).1.after = none := by
            cases reacts : base.close thread' ctx' below with
            | mk step after =>
              cases step with
              | yielded value next =>
                  refine absurd ?_ heeded
                  simp [SyncGen.driven, SyncGen.closeObject, reacts, closeResult, raisedBy, ignored]
              | returned => rfl
              | raised exc => rfl
          have left := follows.leaves before state below related thread thread' ctx ctx' finished
          have above := closed_frame left
          have under := closed_frame finished
          simp only [List.replicate_zero, SyncGen.driven, SyncGen.closeObject, if_true, above,
            under]
          rfl
      | false => exact ⟨rfl, rfl, fun _ => rfl⟩
  | succ steps ih =>
      have stepped := follows.later before state below positive related thread thread' ctx ctx'
      exact driven_step stepped fun _ _ next ctx ctx' => ih (Nat.succ_pos before) next ctx ctx'

theorem driven_unstarted
    (follows : Follows (throughAll · levels) (closingAll · levels) R gen base)
    (steps : Nat) (closes : Bool) (thread thread' : Nat) (ctx ctx' : Context) :
    Carried 0 steps levels
      (gen.driven "generator" thread closes ctx (.unstarted gen.initial)
        (List.replicate steps none))
      (base.driven "generator" thread' closes ctx' (.unstarted base.initial)
        (List.replicate steps none)) := by
  cases steps with
  | zero =>
      cases closes with
      | true => exact ⟨rfl, congrArg some (closingAll_none ..).symm, fun _ => rfl⟩
      | false => exact ⟨rfl, rfl, fun _ => rfl⟩
  | succ steps =>
      have stepped := follows.first thread thread' ctx ctx'
      exact driven_step stepped fun _ _ next ctx ctx' =>
        driven_suspended follows (Nat.succ_pos 0) next steps closes thread thread' ctx ctx'

end driving

section exactness

variable {level : Level} {levels : List Level} {steps : Nat}

theorem convertFutureExc_converted (exc : Exc) : (convertFutureExc exc).isConverted = false := by
  by_cases kept : exc.isConverted = false
  · rw [convertFutureExc_of_not_converted exc kept, kept]
  · unfold convertFutureExc
    split
    · rfl
    · rfl
    · rfl
    · next cancelled timeout invalid =>
        simp [Exc.isConverted] at kept
        tauto

theorem arrives_converted (shown : String) (exc : Exc) :
    (arrives shown exc).isConverted = false := by
  have job : (jobError exc).isConverted = false := convertFutureExc_converted _
  simp only [arrives, awaited_raises_eq, handled]
  split
  · split
    · exact job
    · split
      · rfl
      · exact job
  · exact job

theorem agenException_converted {exc : Exc} (kept : exc.isConverted = false) :
    (agenException exc).isConverted = false := by
  unfold agenException
  split
  · rfl
  · split
    · rfl
    · exact kept

theorem agenException_koilStop {exc : Exc} (live : exc.isA .koilStopIteration = false) :
    (agenException exc).isA .koilStopIteration = false := by
  unfold agenException
  split
  · rfl
  · split
    · rfl
    · exact live

theorem crossed_passes {exc : Exc} (kept : exc.isConverted = false)
    (live : exc.isA .koilStopIteration = false) : passes (crossed (agenException exc)) = true := by
  have notStop := agenException_not_stopIteration exc
  have notEnd := agenException_not_stop exc
  have converted := agenException_converted kept
  have notKoil := agenException_koilStop live
  by_cases stops : (agenException exc).stopsLoop = true
  · rw [crossed_stops _ stops]
    rfl
  · have survives : (agenException exc).stopsLoop = false := by simpa using stops
    by_cases cancel : (agenException exc).isA .asyncioCancelledError = true
    · rw [crossed_cancelled _ survives notStop cancel]
      rfl
    · have notCancel : (agenException exc).isA .asyncioCancelledError = false := by
        simpa using cancel
      rw [crossed_raised _ survives notStop notCancel,
        convertFutureExc_of_not_converted _ converted]
      simp [passes, crossesWhole, notStop, notEnd, converted, notKoil, survives, notCancel]

theorem closed_swallowed {exc : Exc} (kept : exc.isConverted = false)
    (notStop : exc.isA .stopIteration = false) (lost : swallowed exc = true) :
    acloseAsyncGenThreadsafe (.raised exc) = none := by
  by_cases cancel : exc.isA .asyncioCancelledError = true
  · simp [acloseAsyncGenThreadsafe, TaskEnd.ofCoroutine, notStop, cancel,
      setConcurrentFutureState, FutureEnd.get, Builtin.isA, Builtin.mro]
  · have notCancel : exc.isA .asyncioCancelledError = false := by simpa using cancel
    have seen : (setConcurrentFutureState
        (.ofCoroutine (.error exc : Except Exc Unit))).get = .error exc := by
      rw [ofCoroutine_raise exc notStop notCancel]
      simp [setConcurrentFutureState, FutureEnd.get, convertFutureExc_of_not_converted exc kept]
    simp only [swallowed, notCancel, kept, Bool.or_false, Bool.or_eq_true] at lost
    simp only [acloseAsyncGenThreadsafe, seen, Bool.or_eq_true]
    rw [if_pos]
    tauto

theorem through_settles (level : Level) (steps : Nat) (reply : Reply V) :
    hands steps (level.through steps reply) = true ∨
      steps = 0 ∧ level.through steps reply = .raised (.of .stopAsyncIteration "") := by
  have finished : hands steps (ended steps : Reply V) = true ∨
      steps = 0 ∧ (ended steps : Reply V) = .raised (.of .stopAsyncIteration "") := by
    unfold ended
    split
    · next start => exact .inr ⟨start, rfl⟩
    · next later => exact .inl (by simpa [hands] using later)
  cases reply with
  | yielded value => exact .inl rfl
  | stopped => exact finished
  | raised exc =>
      simp only [Level.through]
      split
      · exact finished
      · next live =>
          exact .inl (crossed_passes (arrives_converted ..) (by simpa using live))

theorem arrives_whole (shown : String) {exc : Exc} (whole : crossesWhole exc = true) :
    arrives shown exc = exc := by
  simp only [crossesWhole, Bool.and_eq_true, Bool.not_eq_true'] at whole
  obtain ⟨⟨⟨notStop, notCancel⟩, kept⟩, survives⟩ := whole
  have job : jobError exc = exc := by
    simp [jobError, notStop, convertFutureExc_of_not_converted _ kept]
  simp [arrives, awaited_raises_eq, job, notCancel]

theorem through_handed {reply : Reply V} (handed : hands steps reply = true) :
    level.through steps reply = reply := by
  cases reply with
  | yielded value => rfl
  | stopped => simpa [Level.through, ended, hands] using handed
  | raised exc =>
      simp only [hands, passes, Bool.or_eq_true, Bool.and_eq_true, Bool.not_eq_true',
        beq_iff_eq] at handed
      rcases handed with ⟨⟨whole, notEnd⟩, notKoil⟩ | same
      · have notStop : exc.isA .stopIteration = false := by
          simp only [crossesWhole, Bool.and_eq_true, Bool.not_eq_true'] at whole
          exact whole.1.1.1
        simp [Level.through, arrives_whole _ whole, notKoil, agenException_kept notStop notEnd,
          (crossed_eq_iff exc).mpr whole]
      · subst same
        rfl

theorem throughAll_handed {reply : Reply V} (handed : hands steps reply = true)
    (levels : List Level) : throughAll steps levels reply = reply := by
  induction levels with
  | nil => rfl
  | cons level levels ih =>
      rw [throughAll, List.foldl_cons, through_handed handed]
      exact ih

theorem throughAll_stopAsync (steps : Nat) (level : Level) (levels : List Level) :
    throughAll steps (level :: levels) (.raised (.of .stopAsyncIteration "") : Reply V) =
      .raised (.of .runtimeError "async generator raised StopAsyncIteration") := by
  have first : level.through steps (.raised (.of .stopAsyncIteration "") : Reply V) =
      .raised (.of .runtimeError "async generator raised StopAsyncIteration") := rfl
  rw [throughAll, List.foldl_cons, first]
  exact throughAll_handed rfl levels

theorem throughAll_eq_iff (nonempty : levels ≠ []) (reply : Reply V) :
    throughAll steps levels reply = reply ↔ hands steps reply = true := by
  refine ⟨fun same => ?_, fun handed => throughAll_handed handed levels⟩
  obtain _ | ⟨level, levels⟩ := levels
  · exact absurd rfl nonempty
  have unfolded : throughAll steps (level :: levels) reply =
      throughAll steps levels (level.through steps reply) := rfl
  rcases through_settles level steps reply with handed | ⟨start, stopAsync⟩
  · rw [unfolded, throughAll_handed handed] at same
    rw [← same]
    exact handed
  · rw [unfolded, stopAsync] at same
    obtain _ | ⟨next, levels⟩ := levels
    · -- the only level would turn the StopAsyncIteration into a RuntimeError
      have value : reply = .raised (.of .stopAsyncIteration "") := same.symm
      rw [value] at stopAsync
      cases stopAsync
    · rw [throughAll_stopAsync] at same
      rw [← same]
      rfl

theorem closing_settles (level : Level) (steps : Nat) (raised : Option Exc) :
    level.closing steps raised = none ∨
      ∃ seen, level.closing steps raised = some seen ∧ surfaces seen = true := by
  cases raised with
  | none => exact .inl rfl
  | some exc =>
      have converted := agenException_converted
        (arrives_converted (level.setup.shown steps) exc)
      have notStop := agenException_not_stopIteration (arrives (level.setup.shown steps) exc)
      have notEnd := agenException_not_stop (arrives (level.setup.shown steps) exc)
      simp only [Level.closing]
      generalize agenException (arrives (level.setup.shown steps) exc) = raised at *
      cases exits : raised.isA .generatorExit with
      | true => exact .inl rfl
      | false =>
          simp only [notEnd, Bool.or_self, Bool.false_eq_true, if_false]
          cases lost : swallowed raised with
          | true =>
              have quiet := closed_swallowed converted notStop lost
              rw [quiet]
              exact .inl rfl
          | false =>
              rw [(aclose_raised_iff raised notStop).mpr lost]
              simp only [exits, Bool.false_eq_true, if_false]
              exact .inr ⟨raised, rfl, by simp [surfaces, lost, notEnd, exits, notStop]⟩

theorem closing_surfaces {exc : Exc} (surfacing : surfaces exc = true) :
    level.closing steps (some exc) = some exc := by
  simp only [surfaces, Bool.and_eq_true, Bool.not_eq_true'] at surfacing
  obtain ⟨⟨⟨loud, notEnd⟩, notExit⟩, notStop⟩ := surfacing
  have whole : arrives (level.setup.shown steps) exc = exc := by
    simp only [swallowed, Bool.or_eq_false_iff] at loud
    have job : jobError exc = exc := by
      simp [jobError, notStop, convertFutureExc_of_not_converted _ loud.2]
    simp [arrives, awaited_raises_eq, job, loud.1.2]
  simp only [Level.closing, whole, agenException_kept notStop notEnd, notExit, notEnd,
    (aclose_raised_iff exc notStop).mpr loud]
  rfl

theorem closingAll_surfaces {exc : Exc} (surfacing : surfaces exc = true)
    (levels : List Level) : closingAll steps levels (some exc) = some exc := by
  induction levels with
  | nil => rfl
  | cons level levels ih =>
      rw [closingAll, List.foldl_cons, closing_surfaces surfacing]
      exact ih

theorem closingAll_eq_iff (nonempty : levels ≠ []) (exc : Exc) :
    closingAll steps levels (some exc) = some exc ↔ surfaces exc = true := by
  refine ⟨fun same => ?_, fun surfacing => closingAll_surfaces surfacing levels⟩
  obtain _ | ⟨level, levels⟩ := levels
  · exact absurd rfl nonempty
  have unfolded : closingAll steps (level :: levels) (some exc) =
      closingAll steps levels (level.closing steps (some exc)) := rfl
  rcases closing_settles level steps (some exc) with lost | ⟨seen, left, surfacing⟩
  · rw [unfolded, lost, closingAll_none] at same
    cases same
  · rw [unfolded, left, closingAll_surfaces surfacing] at same
    cases same
    exact surfacing

end exactness

structure Agrees (above : Driven σ V) (below : Driven β V) : Prop where
  replies : above.replies = below.replies
  closing : above.closing = below.closing
  suspended : above.suspended.isSome = below.suspended.isSome

theorem handed_iff (replies : List (Reply V)) :
    (∀ index reply, replies[index]? = some reply → hands index reply = true) ↔
      replies.head? ≠ some .stopped ∧ ∀ exc, .raised exc ∈ replies → passes exc = true := by
  constructor
  · intro handed
    constructor
    · intro stops
      rw [List.head?_eq_getElem?] at stops
      have wrong := handed 0 _ stops
      cases wrong
    · intro exc member
      obtain ⟨index, found⟩ := List.mem_iff_getElem?.mp member
      exact handed index _ found
  · rintro ⟨starts, passing⟩ index reply found
    cases reply with
    | yielded value => rfl
    | raised exc => exact passing exc (List.mem_of_getElem? found)
    | stopped =>
        cases index with
        | zero => exact absurd (List.head?_eq_getElem? ▸ found) starts
        | succ index => rfl

theorem replies_eq_iff {levels : List Level} (nonempty : levels ≠ []) (replies : List (Reply V)) :
    (replies.mapIdx fun index reply => throughAll (0 + index) levels reply) = replies ↔
      ∀ index reply, replies[index]? = some reply → hands index reply = true := by
  constructor
  · intro same index reply found
    have there := congrArg (·[index]?) same
    simp only [List.getElem?_mapIdx, found, Option.map_some, Nat.zero_add,
      Option.some.injEq] at there
    exact (throughAll_eq_iff nonempty reply).mp there
  · intro handed
    apply List.ext_getElem?
    intro index
    rw [List.getElem?_mapIdx]
    cases found : replies[index]? with
    | none => rfl
    | some reply => rw [Option.map_some, Nat.zero_add, throughAll_handed (handed index reply found)]

theorem closing_eq_iff {levels : List Level} (nonempty : levels ≠ []) (steps : Nat)
    (closing : Option (Option Exc)) :
    closing.map (closingAll steps levels) = closing ↔
      ∀ exc, closing = some (some exc) → surfaces exc = true := by
  obtain _ | _ | exc := closing
  · exact iff_of_true rfl nofun
  · exact iff_of_true (congrArg some (closingAll_none ..)) nofun
  · simp only [Option.map_some, Option.some.injEq, closingAll_eq_iff nonempty]
    exact ⟨fun surfacing _ same => same ▸ surfacing, fun surfacing => surfacing exc rfl⟩

theorem Carried.agrees_iff {levels : List Level} (nonempty : levels ≠ []) {steps : Nat}
    {above : Driven σ V} {below : Driven β V} (carried : Carried 0 steps levels above below) :
    Agrees above below ↔
      below.replies.head? ≠ some .stopped ∧
      (∀ exc, .raised exc ∈ below.replies → passes exc = true) ∧
      ∀ exc, below.closing = some (some exc) → surfaces exc = true := by
  have replies := replies_eq_iff nonempty below.replies
  rw [← carried.replies, handed_iff] at replies
  have closing := closing_eq_iff nonempty (0 + steps) below.closing
  rw [← carried.closing] at closing
  constructor
  · intro agrees
    obtain ⟨starts, passing⟩ := replies.mp agrees.replies
    exact ⟨starts, passing, closing.mp agrees.closing⟩
  · rintro ⟨starts, passing, surfacing⟩
    have heeded : below.closing ≠ some (some ignored) := by
      intro closes
      cases surfacing _ closes
    exact ⟨replies.mpr ⟨starts, passing⟩, closing.mpr surfacing, carried.suspended heeded⟩

/-- However often a generator is taken to the loop and back, whoever drives it there sees what
it would see of the generator itself exactly when that does not end at its first step, raises
only what every level hands on, and fails to close with nothing that a level takes for a benign
error. -/
theorem round_trips_agree_iff (base : AnyGen S V) (independent : base.body.Independent)
    (levels : List Level) (nonempty : levels ≠ []) (steps : Nat) (closes : Bool)
    (thread thread' : Nat) (ctx ctx' : Context) :
    let native := base.body.driven "generator" thread' closes ctx' (.unstarted base.body.initial)
      (List.replicate steps none)
    Agrees
        ((tower base levels).body.driven "generator" thread closes ctx
          (.unstarted (tower base levels).body.initial) (List.replicate steps none))
        native ↔
      native.replies.head? ≠ some .stopped ∧
      (∀ exc, .raised exc ∈ native.replies → passes exc = true) ∧
      ∀ exc, native.closing = some (some exc) → surfaces exc = true := by
  obtain ⟨R, follows⟩ := tower_follows levels (follows_self independent)
  exact (driven_unstarted follows steps closes thread thread' ctx ctx').agrees_iff nonempty

def bridged : Level := ⟨rotating, true, unkoilGen false, fun _ => .idle _⟩

theorem round_trips_agree_iff_echo :
    Agrees
      ((tower ⟨Nat, (echo : SyncGen Nat Nat (Option Nat))⟩ [bridged, bridged]).body.driven
        "generator" 0 true .empty (.unstarted (.unstarted (.start .empty))) [none, none])
      (echo.driven "generator" 0 true .empty (.unstarted 0) [none, none]) := by
  refine (round_trips_agree_iff ⟨Nat, echo⟩ echo_independent [bridged, bridged] nofun 2 true 0 0
    .empty .empty).mpr ⟨nofun, ?_, nofun⟩
  intro exc member
  rcases List.mem_cons.mp member with same | member
  · cases same
  · cases List.mem_singleton.mp member

def endsAtOnce : SyncGen Unit Nat Nat := ⟨(), fun _ ctx _ _ => (.returned, ctx), fun _ ctx _ =>
  (.returned, ctx)⟩

example :
    ((tower ⟨Unit, endsAtOnce⟩ [bridged]).body.driven "generator" 0 false .empty
        (.unstarted (.unstarted (.start .empty))) [none]).replies =
      [.raised (.of .stopAsyncIteration "")] ∧
    ((tower ⟨Unit, endsAtOnce⟩ [bridged, bridged]).body.driven "generator" 0 false .empty
        (.unstarted (.unstarted (.start .empty))) [none]).replies =
      [.raised (.of .runtimeError "async generator raised StopAsyncIteration")] :=
  ⟨rfl, rfl⟩

end Koil.Towers
