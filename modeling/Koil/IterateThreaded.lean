import Koil.BridgePrograms
import Koil.Generators

/-! `iterate_threaded` and `iterate_threaded_bridged`: a sync generator behind an async one.

Every resumption is a job of its own in the thread pool. The sync generator is any
transition function on any states, which may look at the thread and the context of each
of its steps. -/

namespace Koil.Iterating

open Contexts Generators
open ThreadedRun (wrapper)
open Bridging (couldNotCancel)

variable {σ S V α : Type}

/-- The body of a sync generator function: its reaction, in a thread and a context, to a
value sent to the `yield` at which it is suspended (`none` is `None`, which also starts
it) and to a GeneratorExit raised there, and the context that it leaves. -/
structure SyncGen (σ S V : Type) where
  initial : σ
  resume : Nat → Context → σ → Option S → GenStep σ V × Context
  close : Nat → Context → σ → GenStep σ V × Context

structure Resumed (σ α : Type) where
  result : Except Exc α
  frame : Frame σ
  ctx : Context

def genException (exc : Exc) : Exc :=
  if exc.isA .stopIteration then .of .runtimeError "generator raised StopIteration" else exc

theorem genException_not_stop (exc : Exc) : (genException exc).isA .stopIteration = false := by
  unfold genException
  split
  · rfl
  · next notStop => simpa using notStop

def sentResult : GenStep σ V × Context → Resumed σ V
  | (.yielded value state, ctx) => ⟨.ok value, .suspended state, ctx⟩
  | (.returned, ctx) => ⟨.error (.of .stopIteration ""), .finished, ctx⟩
  | (.raised exc, ctx) => ⟨.error (genException exc), .finished, ctx⟩

def justStarted (kind : String) : Exc :=
  .of .typeError ("can't send non-None value to a just-started " ++ kind)

def SyncGen.send (gen : SyncGen σ S V) (kind : String) (thread : Nat) (ctx : Context) :
    Frame σ → Option S → Resumed σ V
  | .unstarted state, none => sentResult (gen.resume thread ctx state none)
  | .unstarted state, some _ => ⟨.error (justStarted kind), .unstarted state, ctx⟩
  | .suspended state, sent => sentResult (gen.resume thread ctx state sent)
  | .finished, _ => ⟨.error (.of .stopIteration ""), .finished, ctx⟩

def closeResult : GenStep σ V × Context → Resumed σ Unit
  | (.yielded _ state, ctx) =>
      ⟨.error (.of .runtimeError "generator ignored GeneratorExit"), .suspended state, ctx⟩
  | (.returned, ctx) => ⟨.ok (), .finished, ctx⟩
  | (.raised exc, ctx) =>
      if (genException exc).isA .generatorExit then ⟨.ok (), .finished, ctx⟩
      else ⟨.error (genException exc), .finished, ctx⟩

def SyncGen.closeObject (gen : SyncGen σ S V) (thread : Nat) (ctx : Context) :
    Frame σ → Resumed σ Unit
  | .suspended state => closeResult (gen.close thread ctx state)
  | .unstarted _ | .finished => ⟨.ok (), .finished, ctx⟩

/-- `step(send_value)`, where `none` is a generator that has not been created. -/
def SyncGen.step (gen : SyncGen σ S V) (thread : Nat) (ctx : Context)
    (generator : Option (Frame σ)) (sent : Option S) : Resumed σ V :=
  let resumed := gen.send "generator" thread ctx
    (generator.getD (.unstarted gen.initial)) sent
  match resumed.result with
  | .ok _ => resumed
  | .error exc =>
      if exc.isA .stopIteration then
        { resumed with result := .error (.of .koilStopIteration "Generator exhausted") }
      else resumed

/-- What the `except asyncio.CancelledError as e` of `_run_threaded` raises, when the
function ends within `cancel_timeout`. -/
def handled (shown : String) (e : Exc) : Except Exc α → Exc
  | .ok _ => e
  | .error exc =>
      if exc.isA .threadCancelledError then e
      else if exc.isA .timeoutError then .of .koilError (couldNotCancel shown)
      else exc

/-- What `_run_threaded` returns or raises for a function that ends as `body`, with or
without a cancellation of the task while the function runs. -/
def awaited (shown : String) (cancelled : Bool) (body : Except Exc α) : Except Exc α :=
  let done := (copyFutureState (wrapper body)).get
  if cancelled then .error (handled shown (.of .asyncioCancelledError "") done)
  else
    match done with
    | .ok value => .ok value
    | .error exc =>
        if exc.isA .asyncioCancelledError then .error (handled shown exc done)
        else .error exc

/-- The consumer's loop, which pool thread serves which job, and how a message shows the
job's future. The jobs, and with them their cancel events, are numbered. -/
structure Setup where
  loop : Nat
  serves : Nat → Nat
  shown : Nat → String

def Setup.runThreaded (setup : Setup) (bridge cancelled : Bool) (job : Nat) (ctx : Context)
    (func : Nat → Context → Resumed σ α) : Resumed σ α :=
  let ran := func (setup.serves job) (ctx.forWorker setup.loop job)
  match awaited (setup.shown job) cancelled ran.result with
  | .ok value =>
      ⟨.ok value, ran.frame, if bridge then ctx.propagateContextOut ran.ctx else ctx⟩
  | .error exc => ⟨.error exc, ran.frame, ctx⟩

/-- Where the frame of `_iterate_threaded` is, between two calls of its consumer. -/
inductive Point
  | unstarted
  | atYield
  | finished
  deriving DecidableEq, Repr

/-- The async generator: its frame, its variable `generator`, the number of jobs so far,
and the context of its consumer. -/
structure Iteration (σ : Type) where
  point : Point
  generator : Option (Frame σ)
  jobs : Nat
  ctx : Context

def Iteration.start (ctx : Context) : Iteration σ := ⟨.unstarted, none, 0, ctx⟩

def Iteration.ran (it : Iteration σ) (resumed : Resumed σ α) (point : Point) : Iteration σ :=
  ⟨point, some resumed.frame, it.jobs + 1, resumed.ctx⟩

variable (setup : Setup) (bridge cancelled : Bool) (gen : SyncGen σ S V)

/-- One round of the `while True`, up to the next `yield`. -/
def Setup.round (it : Iteration σ) (sent : Option S) : Except Exc V × Iteration σ :=
  let resumed := setup.runThreaded bridge cancelled it.jobs it.ctx fun thread ctx =>
    gen.step thread ctx it.generator sent
  match resumed.result with
  | .ok value => (.ok value, it.ran resumed .atYield)
  | .error exc =>
      let raised :=
        if exc.isA .koilStopIteration then .of .stopAsyncIteration "" else agenException exc
      (.error raised, it.ran resumed .finished)

def Setup.asend (it : Iteration σ) (sent : Option S) : Except Exc V × Iteration σ :=
  match it.point, sent with
  | .unstarted, some _ => (.error (justStarted "async generator"), it)
  | .finished, _ => (.error (.of .stopAsyncIteration ""), it)
  | _, sent => setup.round bridge cancelled gen it sent

/-- `await agen.athrow(exc)`: what it raises, if anything. Only a GeneratorExit at the `yield`
closes the sync generator. -/
def Setup.athrow (it : Iteration σ) (exc : Exc) : Option Exc × Iteration σ :=
  match it.point, it.generator with
  | .finished, _ => (none, it)
  | .unstarted, _ => (some exc, { it with point := .finished })
  | .atYield, none => (some (agenException exc), { it with point := .finished })
  | .atYield, some frame =>
      if exc.isA .generatorExit then
        let resumed := setup.runThreaded bridge cancelled it.jobs it.ctx fun thread ctx =>
          gen.closeObject thread ctx frame
        match resumed.result with
        | .ok _ => (some exc, it.ran resumed .finished)
        | .error raised => (some (agenException raised), it.ran resumed .finished)
      else (some (agenException exc), { it with point := .finished })

/-- `await agen.aclose()`: what it raises, if anything. -/
def Setup.aclose (it : Iteration σ) : Option Exc × Iteration σ :=
  match setup.athrow bridge cancelled gen it (.of .generatorExit "") with
  | (none, after) => (none, after)
  | (some raised, after) =>
      if raised.isA .generatorExit || raised.isA .stopAsyncIteration then (none, after)
      else (some raised, after)

theorem workerOver_result (bridging : Bridging.Setup) (ctx : Context) (event : Nat)
    (own : Context) (ended : Bridging.Ended) :
    (bridging.workerOver bridge ctx event own ended).result =
      awaited (bridging.shown event) false ended.result := by
  simp only [Bridging.Setup.workerOver, awaited]
  cases done : (copyFutureState (wrapper ended.result)).get with
  | ok value => rfl
  | error exc =>
      simp only [Bool.false_eq_true, if_false]
      split
      · simp only [handled, Bridging.State.called]
        cases exc.isA .threadCancelledError <;> cases exc.isA .timeoutError <;> rfl
      · rfl

section calls

variable {setup bridge cancelled gen} {it : Iteration σ}

theorem asend_early (point : it.point = .unstarted) (value : S) :
    setup.asend bridge cancelled gen it (some value) =
      (.error (justStarted "async generator"), it) := by
  simp only [Setup.asend, point]

theorem asend_first (point : it.point = .unstarted) :
    setup.asend bridge cancelled gen it none = setup.round bridge cancelled gen it none := by
  simp only [Setup.asend, point]

theorem asend_later (point : it.point = .atYield) (sent : Option S) :
    setup.asend bridge cancelled gen it sent = setup.round bridge cancelled gen it sent := by
  simp only [Setup.asend, point]

theorem asend_none (live : it.point ≠ .finished) :
    setup.asend bridge cancelled gen it none = setup.round bridge cancelled gen it none := by
  cases point : it.point with
  | unstarted => exact asend_first point
  | atYield => exact asend_later point none
  | finished => exact absurd point live

theorem asend_finished (point : it.point = .finished) (sent : Option S) :
    setup.asend bridge cancelled gen it sent = (.error (.of .stopAsyncIteration ""), it) := by
  simp only [Setup.asend, point]

end calls

theorem awaited_raises (shown : String) (cancelled : Bool) (exc : Exc) :
    ∃ raised, awaited shown cancelled (.error exc : Except Exc α) = .error raised := by
  have done : ∃ seen, (copyFutureState (wrapper (.error exc : Except Exc α))).get =
      .error seen := by
    unfold wrapper
    split
    · next value ended => cases ended
    · split <;> exact ⟨_, rfl⟩
  obtain ⟨seen, done⟩ := done
  simp only [awaited, done]
  split
  · exact ⟨_, rfl⟩
  · split <;> exact ⟨_, rfl⟩

def Iteration.Resumes (it : Iteration σ) (gen : SyncGen σ S V) (state : σ) (sent : Option S) :
    Prop :=
  it.generator = none ∧ state = gen.initial ∧ sent = none ∨ it.generator = some (.suspended state)

section rounds

variable {setup bridge cancelled gen} {it : Iteration σ} {state : σ} {sent : Option S}

/-- What the body does in the next round, in the thread and the context of its job. -/
def Setup.reaction (setup : Setup) (gen : SyncGen σ S V) (it : Iteration σ) (state : σ)
    (sent : Option S) : GenStep σ V × Context :=
  gen.resume (setup.serves it.jobs) (it.ctx.forWorker setup.loop it.jobs) state sent

theorem Iteration.Resumes.step (resumes : it.Resumes gen state sent) (thread : Nat)
    (ctx : Context) : gen.send "generator" thread ctx
        (it.generator.getD (.unstarted gen.initial)) sent =
      sentResult (gen.resume thread ctx state sent) := by
  rcases resumes with ⟨none_, rfl, rfl⟩ | some_
  · rw [none_]
    rfl
  · rw [some_]
    rfl

theorem round_yielded (resumes : it.Resumes gen state sent) {value : V} {next : σ}
    {ctx : Context} (reacts : setup.reaction gen it state sent = (.yielded value next, ctx)) :
    setup.round bridge false gen it sent =
      (.ok value, ⟨.atYield, some (.suspended next), it.jobs + 1,
        if bridge then it.ctx.propagateContextOut ctx else it.ctx⟩) := by
  rw [Setup.reaction] at reacts
  simp only [Setup.round, Setup.runThreaded, SyncGen.step, resumes.step, reacts, sentResult]
  rfl

theorem round_cancelled (resumes : it.Resumes gen state sent) {value : V} {next : σ}
    {ctx : Context} (reacts : setup.reaction gen it state sent = (.yielded value next, ctx)) :
    setup.round bridge true gen it sent =
      (.error (.of .asyncioCancelledError ""),
        ⟨.finished, some (.suspended next), it.jobs + 1, it.ctx⟩) := by
  rw [Setup.reaction] at reacts
  simp only [Setup.round, Setup.runThreaded, SyncGen.step, resumes.step, reacts, sentResult]
  rfl

theorem round_returned (resumes : it.Resumes gen state sent) {ctx : Context}
    (reacts : setup.reaction gen it state sent = (.returned, ctx)) :
    setup.round bridge cancelled gen it sent =
      (.error (.of .stopAsyncIteration ""),
        ⟨.finished, some .finished, it.jobs + 1, it.ctx⟩) := by
  rw [Setup.reaction] at reacts
  simp only [Setup.round, Setup.runThreaded, SyncGen.step, resumes.step, reacts, sentResult]
  cases cancelled <;> rfl

theorem step_raised (resumes : it.Resumes gen state sent) {exc : Exc} {ctx : Context}
    (reacts : setup.reaction gen it state sent = (.raised exc, ctx)) :
    gen.step (setup.serves it.jobs) (it.ctx.forWorker setup.loop it.jobs) it.generator sent =
      ⟨.error (genException exc), .finished, ctx⟩ := by
  have notStop : (genException exc).isA .stopIteration = false := genException_not_stop exc
  rw [Setup.reaction] at reacts
  simp only [SyncGen.step, resumes.step, reacts, sentResult, notStop, Bool.false_eq_true,
    if_false]

theorem round_raised (bridge cancelled : Bool) (resumes : it.Resumes gen state sent) {exc : Exc}
    {ctx : Context}
    (reacts : setup.reaction gen it state sent = (.raised exc, ctx)) :
    ∃ raised, setup.round bridge cancelled gen it sent =
      (.error raised, ⟨.finished, some .finished, it.jobs + 1, it.ctx⟩) := by
  obtain ⟨seen, raises⟩ := awaited_raises (α := V) (setup.shown it.jobs) cancelled
    (genException exc)
  simp only [Setup.round, Setup.runThreaded, step_raised resumes reacts, raises]
  exact ⟨_, rfl⟩

end rounds

section closing

variable {it : Iteration σ} {state : σ}

/-- What the body does when its generator is closed by the next job. -/
def Setup.closeReaction (setup : Setup) (gen : SyncGen σ S V) (it : Iteration σ) (state : σ) :
    GenStep σ V × Context :=
  gen.close (setup.serves it.jobs) (it.ctx.forWorker setup.loop it.jobs) state

theorem athrow_closes (point : it.point = .atYield)
    (generator : it.generator = some (.suspended state)) (exc : Exc)
    (exit : exc.isA .generatorExit = true) :
    setup.athrow bridge cancelled gen it exc =
      let closed := closeResult (setup.closeReaction gen it state)
      match awaited (setup.shown it.jobs) cancelled closed.result with
      | .ok _ => (some exc, ⟨.finished, some closed.frame, it.jobs + 1,
          if bridge then it.ctx.propagateContextOut closed.ctx else it.ctx⟩)
      | .error raised =>
          (some (agenException raised), ⟨.finished, some closed.frame, it.jobs + 1, it.ctx⟩) := by
  simp only [Setup.athrow, point, generator, exit, if_true, Setup.runThreaded,
    SyncGen.closeObject, Setup.closeReaction]
  cases awaited (setup.shown it.jobs) cancelled (closeResult (gen.close (setup.serves it.jobs)
    (it.ctx.forWorker setup.loop it.jobs) state)).result <;> rfl

theorem athrow_other (point : it.point = .atYield)
    (generator : it.generator = some (.suspended state)) (exc : Exc)
    (other : exc.isA .generatorExit = false) :
    setup.athrow bridge cancelled gen it exc =
      (some (agenException exc), { it with point := .finished }) := by
  simp only [Setup.athrow, point, generator, other, Bool.false_eq_true, if_false]

end closing

end Koil.Iterating
