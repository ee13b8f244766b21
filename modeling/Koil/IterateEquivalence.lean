import Koil.IterateThreaded

namespace Koil.Iterating

open Contexts Generators

variable {σ S V α : Type}

def suspension : Frame σ → Option σ
  | .suspended state => some state
  | _ => none

/-- What a driver gets back for each value that it sends, what the closing at the end
raises, if there is one, and where the generator is then suspended, if it is. -/
structure Driven (σ V : Type) where
  replies : List (Reply V)
  closing : Option (Option Exc)
  suspended : Option σ

/-- The end of either generator is `stopped`. -/
def replyOf (stop : Builtin) : Except Exc V → Reply V
  | .ok value => .yielded value
  | .error exc => if exc.isA stop then .stopped else .raised exc

def raisedBy : Except Exc α → Option Exc
  | .ok _ => none
  | .error exc => some exc

/-- The native generator in a thread of its own; `kind` is what the message about a value
sent too early calls it. -/
def SyncGen.driven (gen : SyncGen σ S V) (kind : String) (thread : Nat) (closes : Bool) :
    Context → Frame σ → List (Option S) → Driven σ V
  | ctx, frame, [] =>
      if closes then
        let closed := gen.closeObject thread ctx frame
        ⟨[], some (raisedBy closed.result), suspension closed.frame⟩
      else ⟨[], none, suspension frame⟩
  | ctx, frame, sent :: rest =>
      let resumed := gen.send kind thread ctx frame sent
      let later := gen.driven kind thread closes resumed.ctx resumed.frame rest
      { later with replies := replyOf .stopIteration resumed.result :: later.replies }

/-- The async generator of `_iterate_threaded`, with no cancellation. -/
def Setup.driven (setup : Setup) (bridge : Bool) (gen : SyncGen σ S V) (closes : Bool) :
    Iteration σ → List (Option S) → Driven σ V
  | it, [] =>
      if closes then
        let (raised, after) := setup.aclose bridge false gen it
        ⟨[], some raised, after.generator.bind suspension⟩
      else ⟨[], none, it.generator.bind suspension⟩
  | it, sent :: rest =>
      let (result, after) := setup.asend bridge false gen it sent
      let later := setup.driven bridge gen closes after rest
      { later with replies := replyOf .stopAsyncIteration result :: later.replies }

/-- The exceptions that a generator may raise: not those that end the iteration, not those
which `asyncio` replaces, and none that `_run_threaded` takes for both a cancellation and
the timeout of its handler. -/
structure Allowed (exc : Exc) : Prop where
  exception : exc.isA .exception = true
  notStop : exc.isA .stopAsyncIteration = false
  notKoilStop : exc.isA .koilStopIteration = false
  notConverted : exc.isConverted = false
  notMistaken : exc.isA .asyncioCancelledError = true → exc.isA .timeoutError = true →
    exc.isA .threadCancelledError = true

structure SyncGen.RaisesAllowed (gen : SyncGen σ S V) : Prop where
  resume : ∀ thread ctx state sent exc,
    (gen.resume thread ctx state sent).1 = .raised exc → Allowed exc
  close : ∀ thread ctx state exc, (gen.close thread ctx state).1 = .raised exc →
    exc.isA .generatorExit = true ∨ Allowed exc

structure SyncGen.Independent (gen : SyncGen σ S V) : Prop where
  resume : ∀ thread thread' ctx ctx' state sent,
    (gen.resume thread ctx state sent).1 = (gen.resume thread' ctx' state sent).1
  close : ∀ thread thread' ctx ctx' state,
    (gen.close thread ctx state).1 = (gen.close thread' ctx' state).1

theorem genException_allowed {exc : Exc} (allowed : Allowed exc) : Allowed (genException exc) := by
  unfold genException
  split
  · exact ⟨rfl, rfl, rfl, rfl, nofun⟩
  · exact allowed

theorem awaited_error (shown : String) {exc : Exc} (allowed : Allowed exc)
    (notStop : exc.isA .stopIteration = false) :
    awaited shown false (.error exc : Except Exc α) = .error exc := by
  have done : (copyFutureState (ThreadedRun.wrapper (.error exc : Except Exc α))).get =
      .error exc := by
    simp [ThreadedRun.wrapper, notStop, copyFutureState, TaskEnd.get,
      convertFutureExc_of_not_converted exc allowed.notConverted]
  simp only [awaited, done, Bool.false_eq_true, if_false, handled]
  cases cancelled : exc.isA .asyncioCancelledError with
  | false => rfl
  | true =>
      cases timeout : exc.isA .timeoutError with
      | false => simp
      | true => simp [allowed.notMistaken cancelled timeout]

theorem agenException_allowed {exc : Exc} (allowed : Allowed exc)
    (notStop : exc.isA .stopIteration = false) : agenException exc = exc := by
  simp [agenException, notStop, allowed.notStop]

section correspondence

variable {setup : Setup} {bridge : Bool} {gen : SyncGen σ S V} {it : Iteration σ}
  {frame : Frame σ}

theorem round_allowed {state : σ} {sent : Option S} (resumes : it.Resumes gen state sent)
    {exc : Exc} {ctx : Context}
    (reacts : setup.reaction gen it state sent = (.raised exc, ctx)) (allowed : Allowed exc) :
    setup.round bridge false gen it sent =
      (.error (genException exc), ⟨.finished, some .finished, it.jobs + 1, it.ctx⟩) := by
  have crosses := genException_allowed allowed
  have notStop := genException_not_stop exc
  simp only [Setup.round, Setup.runThreaded, step_raised resumes reacts,
    awaited_error _ crosses notStop, crosses.notKoilStop, Bool.false_eq_true, if_false,
    agenException_allowed crosses notStop]
  rfl

inductive Corresponds (gen : SyncGen σ S V) (it : Iteration σ) : Frame σ → Prop
  | unstarted (point : it.point = .unstarted) (generator : it.generator = none) :
      Corresponds gen it (.unstarted gen.initial)
  | suspended (state : σ) (point : it.point = .atYield)
      (generator : it.generator = some (.suspended state)) : Corresponds gen it (.suspended state)
  | finished (point : it.point = .finished)
      (generator : it.generator = some .finished) : Corresponds gen it .finished

theorem round_corresponds (independent : gen.Independent) (allowed : gen.RaisesAllowed)
    {state : σ} {sent : Option S} (resumes : it.Resumes gen state sent) (thread : Nat)
    (ctx : Context) :
    replyOf .stopAsyncIteration (setup.round bridge false gen it sent).1 =
        replyOf .stopIteration (sentResult (gen.resume thread ctx state sent)).result ∧
      Corresponds gen (setup.round bridge false gen it sent).2
        (sentResult (gen.resume thread ctx state sent)).frame := by
  have same : (setup.reaction gen it state sent).1 = (gen.resume thread ctx state sent).1 :=
    independent.resume ..
  cases native : gen.resume thread ctx state sent with
  | mk step after =>
    cases reacts : setup.reaction gen it state sent with
    | mk step' after' =>
      rw [native, reacts] at same
      subst same
      cases step' with
      | yielded value next =>
          rw [round_yielded resumes reacts]
          exact ⟨rfl, .suspended next rfl rfl⟩
      | returned =>
          rw [round_returned resumes reacts]
          exact ⟨rfl, .finished rfl rfl⟩
      | raised exc =>
          have known : Allowed exc :=
            allowed.resume thread ctx state sent exc (congrArg Prod.fst native)
          have crosses := genException_allowed known
          rw [round_allowed resumes reacts known]
          refine ⟨?_, .finished rfl rfl⟩
          simp [replyOf, sentResult, crosses.notStop, genException_not_stop]

theorem asend_corresponds (setup : Setup) (bridge : Bool) (independent : gen.Independent)
    (allowed : gen.RaisesAllowed) (corresponds : Corresponds gen it frame) (sent : Option S)
    (thread : Nat) (ctx : Context) :
    replyOf .stopAsyncIteration (setup.asend bridge false gen it sent).1 =
        replyOf .stopIteration (gen.send "async generator" thread ctx frame sent).result ∧
      Corresponds gen (setup.asend bridge false gen it sent).2
        (gen.send "async generator" thread ctx frame sent).frame := by
  cases corresponds with
  | unstarted point generator =>
      cases sent with
      | none =>
          rw [asend_first point]
          exact round_corresponds independent allowed (.inl ⟨generator, rfl, rfl⟩) thread ctx
      | some value =>
          rw [asend_early point]
          exact ⟨rfl, .unstarted point generator⟩
  | suspended state point generator =>
      rw [asend_later point]
      exact round_corresponds independent allowed (.inr generator) thread ctx
  | finished point generator =>
      rw [asend_finished point]
      exact ⟨rfl, .finished point generator⟩

theorem close_same (independent : gen.Independent) (state : σ) (thread thread' : Nat)
    (ctx ctx' : Context) :
    (closeResult (gen.close thread ctx state)).result =
        (closeResult (gen.close thread' ctx' state)).result ∧
      (closeResult (gen.close thread ctx state)).frame =
        (closeResult (gen.close thread' ctx' state)).frame := by
  have same := independent.close thread thread' ctx ctx' state
  cases reacts : gen.close thread ctx state with
  | mk step after =>
    cases reacts' : gen.close thread' ctx' state with
    | mk step' after' =>
      rw [reacts, reacts'] at same
      subst same
      cases step with
      | yielded value next => exact ⟨rfl, rfl⟩
      | returned => exact ⟨rfl, rfl⟩
      | raised exc => cases exits : (genException exc).isA .generatorExit <;>
          simp [closeResult, exits]

theorem close_raises (allowed : gen.RaisesAllowed) {state : σ} {thread : Nat} {ctx : Context}
    {raised : Exc} (ended : (closeResult (gen.close thread ctx state)).result = .error raised) :
    Allowed raised ∧ raised.isA .stopIteration = false ∧ raised.isA .generatorExit = false := by
  have raises := allowed.close thread ctx state
  cases reacts : gen.close thread ctx state with
  | mk step after =>
    rw [reacts] at ended raises
    cases step with
    | yielded value next =>
        cases ended
        exact ⟨⟨rfl, rfl, rfl, rfl, nofun⟩, rfl, rfl⟩
    | returned => cases ended
    | raised exc =>
        simp only [closeResult] at ended
        split at ended
        · cases ended
        · next stays =>
            cases ended
            refine ⟨?_, genException_not_stop exc, by simpa using stays⟩
            rcases raises exc rfl with exit | known
            · -- a GeneratorExit that does not stay one is also a StopIteration
              by_cases stop : exc.isA .stopIteration = true
              · rw [genException, if_pos stop]
                exact ⟨rfl, rfl, rfl, rfl, nofun⟩
              · rw [genException, if_neg stop] at stays
                exact absurd exit stays
            · exact genException_allowed known

theorem aclose_corresponds (setup : Setup) (bridge : Bool) (independent : gen.Independent)
    (allowed : gen.RaisesAllowed) (corresponds : Corresponds gen it frame) (thread : Nat)
    (ctx : Context) :
    (setup.aclose bridge false gen it).1 =
        raisedBy (gen.closeObject thread ctx frame).result ∧
      (setup.aclose bridge false gen it).2.generator.bind suspension =
        suspension (gen.closeObject thread ctx frame).frame := by
  cases corresponds with
  | unstarted point generator =>
      simp only [Setup.aclose, Setup.athrow, point, generator]
      exact ⟨rfl, rfl⟩
  | finished point generator =>
      simp only [Setup.aclose, Setup.athrow, point]
      exact ⟨rfl, congrArg (Option.bind · suspension) generator⟩
  | suspended state point generator =>
      have closes := athrow_closes setup bridge false gen point generator
        (.of .generatorExit "") rfl
      obtain ⟨result, stays⟩ := close_same independent state thread (setup.serves it.jobs) ctx
        (it.ctx.forWorker setup.loop it.jobs)
      simp only [SyncGen.closeObject, Setup.aclose, closes]
      rw [result, stays, Setup.closeReaction]
      cases ended : (closeResult (gen.close (setup.serves it.jobs)
          (it.ctx.forWorker setup.loop it.jobs) state)).result with
      | ok value => exact ⟨rfl, rfl⟩
      | error exc =>
          obtain ⟨known, notStop, notExit⟩ := close_raises allowed ended
          simp only [awaited_error _ known notStop, agenException_allowed known notStop, notExit,
            known.notStop]
          exact ⟨rfl, rfl⟩

theorem driven_corresponds (independent : gen.Independent) (allowed : gen.RaisesAllowed)
    (corresponds : Corresponds gen it frame) (closes : Bool) (sent : List (Option S))
    (thread : Nat) (ctx : Context) :
    setup.driven bridge gen closes it sent =
      gen.driven "async generator" thread closes ctx frame sent := by
  induction sent generalizing it frame ctx with
  | nil =>
      cases closes with
      | true =>
          obtain ⟨raised, suspended⟩ :=
            aclose_corresponds setup bridge independent allowed corresponds thread ctx
          simp only [Setup.driven, SyncGen.driven, raised, suspended, if_true]
      | false =>
          cases corresponds with
          | unstarted point generator => simp [Setup.driven, SyncGen.driven, generator, suspension]
          | suspended state point generator =>
              simp [Setup.driven, SyncGen.driven, generator]
          | finished point generator => simp [Setup.driven, SyncGen.driven, generator]
  | cons value sent ih =>
      obtain ⟨reply, next⟩ :=
        asend_corresponds setup bridge independent allowed corresponds value thread ctx
      have later := ih next (gen.send "async generator" thread ctx frame value).ctx
      simp only [Setup.driven, SyncGen.driven, reply, later]

end correspondence

theorem sentResult_started (reaction : GenStep σ V × Context) (state : σ) :
    (sentResult reaction).frame ≠ .unstarted state := by
  obtain ⟨_ | _ | _, ctx⟩ := reaction <;> nofun

theorem driven_kind (gen : SyncGen σ S V) (kind kind' : String) (thread : Nat) (closes : Bool)
    (sent : List (Option S)) (ctx : Context) (frame : Frame σ)
    (started : ∀ state, frame ≠ .unstarted state) :
    gen.driven kind thread closes ctx frame sent =
      gen.driven kind' thread closes ctx frame sent := by
  induction sent generalizing ctx frame with
  | nil => rfl
  | cons value sent ih =>
      have same : gen.send kind thread ctx frame value = gen.send kind' thread ctx frame value := by
        cases frame with
        | unstarted state => exact absurd rfl (started state)
        | suspended state => rfl
        | finished => rfl
      have next : ∀ state, (gen.send kind' thread ctx frame value).frame ≠ .unstarted state := by
        cases frame with
        | unstarted state => exact absurd rfl (started state)
        | suspended state => exact sentResult_started _
        | finished => nofun
      simp only [SyncGen.driven, same, ih _ _ next]

theorem driven_none (gen : SyncGen σ S V) (kind kind' : String) (thread : Nat) (closes : Bool)
    (sent : List (Option S)) (ctx : Context) :
    gen.driven kind thread closes ctx (.unstarted gen.initial) (none :: sent) =
      gen.driven kind' thread closes ctx (.unstarted gen.initial) (none :: sent) := by
  have later := driven_kind gen kind kind' thread closes sent
    (gen.send kind' thread ctx (.unstarted gen.initial) none).ctx
    (gen.send kind' thread ctx (.unstarted gen.initial) none).frame (sentResult_started _)
  have same : gen.send kind thread ctx (.unstarted gen.initial) none =
      gen.send kind' thread ctx (.unstarted gen.initial) none := rfl
  simp only [SyncGen.driven, same, later]

/-- Whatever threads serve the steps, the async generator answers and closes as the native
one does, but for what it is called in the message about a value sent too early: without
such a value there is no difference. -/
theorem iterate_threaded_matches (gen : SyncGen σ S V) (independent : gen.Independent)
    (allowed : gen.RaisesAllowed) (setup : Setup) (bridge closes : Bool) (ctx : Context)
    (sent : List (Option S)) (thread : Nat) (ctx' : Context) :
    setup.driven bridge gen closes (.start ctx) sent =
        gen.driven "async generator" thread closes ctx' (.unstarted gen.initial) sent ∧
      ((∀ value, sent.head? ≠ some (some value)) →
        setup.driven bridge gen closes (.start ctx) sent =
          gen.driven "generator" thread closes ctx' (.unstarted gen.initial) sent) := by
  have starts : Corresponds gen (.start ctx) (.unstarted gen.initial) := .unstarted rfl rfl
  have same : setup.driven bridge gen closes (.start ctx) sent =
      gen.driven "async generator" thread closes ctx' (.unstarted gen.initial) sent :=
    driven_corresponds independent allowed starts closes sent thread ctx'
  refine ⟨same, fun orderly => same.trans ?_⟩
  obtain _ | ⟨_ | value, sent⟩ := sent
  · rfl
  · exact driven_none gen _ _ thread closes sent ctx'
  · exact absurd rfl (orderly value)

def echo : SyncGen Nat Nat (Option Nat) where
  initial := 0
  resume _ ctx state sent :=
    (if state < 2 then .yielded sent (state + 1) else .returned, ctx)
  close _ ctx _ := (.raised (.of .generatorExit ""), ctx)

theorem echo_independent : echo.Independent := ⟨fun _ _ _ _ _ _ => rfl, fun _ _ _ _ _ => rfl⟩

theorem echo_allowed : echo.RaisesAllowed where
  resume thread ctx state sent exc raised := by
    simp only [echo] at raised
    split at raised <;> cases raised
  close thread ctx state exc raised := by
    cases raised
    exact .inl rfl

def rotating : Setup := ⟨0, id, fun _ => ""⟩

theorem iterate_threaded_matches_echo :
    rotating.driven false echo true (.start .empty) [none, some 5] =
      ⟨[.yielded none, .yielded (some 5)], some none, none⟩ ∧
    rotating.driven false echo true (.start .empty) [none, some 5] =
      echo.driven "generator" 0 true .empty (.unstarted 0) [none, some 5] :=
  ⟨rfl, (iterate_threaded_matches echo echo_independent echo_allowed rotating false true .empty
    [none, some 5] 0 .empty).2 nofun⟩

/-- A class of user code that derives from `asyncio.CancelledError` and `TimeoutError`. -/
def bothErrors : Exc := ⟨.user ⟨0, [], [.asyncioCancelledError, .timeoutError], true⟩, ""⟩

def raisesBoth : SyncGen Unit Nat (Option Nat) where
  initial := ()
  resume _ ctx _ _ := (.raised bothErrors, ctx)
  close _ ctx _ := (.returned, ctx)

/-- The message of a value sent too early differs, and so does an error that
`_run_threaded` takes for the timeout of a cancellation. -/
theorem iterate_threaded_differs :
    rotating.driven false echo false (.start .empty) [some 5] =
      ⟨[.raised (justStarted "async generator")], none, none⟩ ∧
    echo.driven "generator" 0 false .empty (.unstarted 0) [some 5] =
      ⟨[.raised (justStarted "generator")], none, none⟩ ∧
    justStarted "async generator" ≠ justStarted "generator" ∧
    rotating.driven false raisesBoth false (.start .empty) [none] =
      ⟨[.raised (.of .koilError (Bridging.couldNotCancel ""))], none, none⟩ ∧
    raisesBoth.driven "generator" 0 false .empty (.unstarted ()) [none] =
      ⟨[.raised bothErrors], none, none⟩ := by
  refine ⟨rfl, rfl, by decide, rfl, rfl⟩

end Koil.Iterating
