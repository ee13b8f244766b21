import Koil.GeneratorLoop
import Koil.IterateThreaded

/-! What `iterate_threaded_bridged` and `unkoil_gen` leave in their consumer's context when
a generator that assigns ContextVars is consumed to its end. -/

namespace Koil.Iterating

open Contexts Generators Race

variable {σ S V : Type}

/-- The body of a generator function, sync or async: what it assigns, in this order, and
what it does up to its next `yield`, in a state and with the user variables it sees. -/
structure AssigningGen (σ V : Type) where
  initial : σ
  resume : σ → Vars → List (Nat × Val) × GenStep σ V

def assigned (vars : Vars) (writes : List (Nat × Val)) : Vars :=
  writes.foldl (fun vars write => Function.update vars write.1 (some write.2)) vars

def assign (ctx : Context) (writes : List (Nat × Val)) : Context :=
  writes.foldl (fun ctx write => ctx.set (.user write.1) write.2) ctx

/-- The generator as a sync one; what it does when it is closed is left open. -/
def AssigningGen.sync (gen : AssigningGen σ V)
    (close : Nat → Context → σ → GenStep σ V × Context) : SyncGen σ S V where
  initial := gen.initial
  resume _ ctx state _ :=
    ((gen.resume state ctx.vars).2, assign ctx (gen.resume state ctx.vars).1)
  close := close

/-- A native `for` loop over the generator in its consumer's own context: the values, the
user variables at the last `yield` (at the start, if there is none), and those at the end. -/
inductive Consumed (gen : AssigningGen σ V) : σ → Vars → List V → Vars → Vars → Prop
  | returns {state : σ} {vars : Vars} {writes : List (Nat × Val)}
      (resumed : gen.resume state vars = (writes, .returned)) :
      Consumed gen state vars [] vars (assigned vars writes)
  | yields {state next : σ} {vars last final : Vars} {writes : List (Nat × Val)} {value : V}
      {values : List V} (resumed : gen.resume state vars = (writes, .yielded value next))
      (rest : Consumed gen next (assigned vars writes) values last final) :
      Consumed gen state vars (value :: values) last final

/-- What a loop has delivered, what left it, and its consumer's context after it. -/
structure Looped (V : Type) where
  values : List V
  left : Option Exc
  ctx : Context

/-- `async for value in agen` over the async generator of `_iterate_threaded`. -/
def Setup.asyncFor (setup : Setup) (bridge : Bool) (gen : SyncGen σ S V) :
    Nat → Iteration σ → Option (Looped V)
  | 0, _ => none
  | fuel + 1, it =>
      match setup.asend bridge false gen it none with
      | (.ok value, after) =>
          (setup.asyncFor bridge gen fuel after).map fun rest =>
            { rest with values := value :: rest.values }
      | (.error exc, after) =>
          if exc.isA .stopAsyncIteration then some ⟨[], none, after.ctx⟩
          else some ⟨[], some exc, after.ctx⟩

/-- One step of `unkoil_gen`: the task sees a copy of the caller's context, and the caller
gets it back where `result()` returns. -/
def AssigningGen.submitted {config : Config} (gen : AssigningGen σ V) (waiters : Waiters config)
    (state : σ) (ctx : Context) : Option (Except Exc V × Frame σ × Context) :=
  let task := ctx.setItems ctx
  let (writes, step) := gen.resume state task.vars
  let body :=
    match step with
    | .raised exc => GenStep.raised (agenException exc)
    | step => step
  (submittedResult waiters (body.awaited.map fun value => (value, assign task writes))).map fun
    | .ok (value, newcontext) => (.ok value, frameAfter body.after, ctx.setItems newcontext)
    | .error exc => (.error exc, .finished, ctx)

def AssigningGen.syncFor {config : Config} (gen : AssigningGen σ V) :
    Nat → (Nat → Waiters config) → Frame σ → Context → Option (Looped V)
  | 0, _, _, _ => none
  | _ + 1, _, .finished, ctx => some ⟨[], none, ctx⟩
  | fuel + 1, waiters, .unstarted state, ctx =>
      -- the first `result()` stands under `except BaseException` alone
      match gen.submitted (waiters 0) state ctx with
      | none => none
      | some (.ok value, frame, ctx) =>
          (gen.syncFor fuel (fun step => waiters (step + 1)) frame ctx).map fun rest =>
            { rest with values := value :: rest.values }
      | some (.error exc, _, ctx) => some ⟨[], some exc, ctx⟩
  | fuel + 1, waiters, .suspended state, ctx =>
      match gen.submitted (waiters 0) state ctx with
      | none => none
      | some (.ok value, frame, ctx) =>
          (gen.syncFor fuel (fun step => waiters (step + 1)) frame ctx).map fun rest =>
            { rest with values := value :: rest.values }
      | some (.error exc, _, ctx) =>
          if exc.isA .stopAsyncIteration then some ⟨[], none, ctx⟩
          else some ⟨[], some exc, ctx⟩

theorem assign_vars (ctx : Context) (writes : List (Nat × Val)) :
    (assign ctx writes).vars = assigned ctx.vars writes := by
  induction writes generalizing ctx with
  | nil => rfl
  | cons write writes ih =>
      have later := ih (ctx.set (.user write.1) write.2)
      rw [vars_set_user] at later
      exact later

theorem assign_stays (ctx : Context) (writes : List (Nat × Val)) (var : Var)
    (held : (ctx var).isSome = true) : (assign ctx writes var).isSome = true := by
  induction writes generalizing ctx with
  | nil => exact held
  | cons write writes ih => exact ih _ (set_stays ctx _ write.2 var held)

section bridged

variable {setup : Setup} {gen : AssigningGen σ V}
  {close : Nat → Context → σ → GenStep σ V × Context} {it : Iteration σ}

theorem reaction_sync (setup : Setup) (gen : AssigningGen σ V)
    (close : Nat → Context → σ → GenStep σ V × Context) (it : Iteration σ) (state : σ)
    (sent : Option S) :
    setup.reaction (gen.sync close) it state sent =
      ((gen.resume state it.ctx.vars).2,
        assign (it.ctx.forWorker setup.loop it.jobs) (gen.resume state it.ctx.vars).1) := by
  simp only [Setup.reaction, AssigningGen.sync, vars_forWorker]

theorem bridged_vars (ctx : Context) (loop job : Nat) (writes : List (Nat × Val)) :
    (ctx.propagateContextOut (assign (ctx.forWorker loop job) writes)).vars =
      assigned ctx.vars writes := by
  have stays : ∀ var, (ctx var).isSome = true →
      (assign (ctx.forWorker loop job) writes var).isSome = true :=
    fun var held => assign_stays _ writes var (forWorker_stays ctx loop job var held)
  rw [propagateContextOut_vars stays, assign_vars, vars_forWorker]

theorem asyncFor_consumed {state : σ} {vars : Vars} {values : List V} {last final : Vars}
    (run : Consumed gen state vars values last final) (same : it.ctx.vars = vars) (fuel : Nat)
    (enough : values.length < fuel) (live : it.point ≠ .finished)
    (resumes : it.Resumes (gen.sync close : SyncGen σ S V) state none) :
    ∃ after, setup.asyncFor true (gen.sync close : SyncGen σ S V) fuel it =
      some ⟨values, none, after⟩ ∧ after.vars = last := by
  induction run generalizing fuel it with
  | @returns state vars writes resumed =>
      obtain _ | fuel := fuel
      · cases enough
      have reacts := reaction_sync setup gen close it state (none : Option S)
      rw [same, resumed] at reacts
      refine ⟨it.ctx, ?_, same⟩
      rw [Setup.asyncFor, asend_none live, round_returned resumes reacts]
      rfl
  | @yields state next vars last final writes value values resumed rest ih =>
      obtain _ | fuel := fuel
      · cases enough
      have reacts := reaction_sync setup gen close it state (none : Option S)
      rw [same, resumed] at reacts
      have seen : (it.ctx.propagateContextOut
          (assign (it.ctx.forWorker setup.loop it.jobs) writes)).vars = assigned vars writes :=
        same ▸ bridged_vars ..
      have live' : (⟨.atYield, some (.suspended next), it.jobs + 1,
          it.ctx.propagateContextOut (assign (it.ctx.forWorker setup.loop it.jobs) writes)⟩ :
            Iteration σ).point ≠ .finished := nofun
      obtain ⟨after, looped, left⟩ :=
        ih seen fuel (Nat.lt_of_succ_lt_succ enough) live' (.inr rfl)
      refine ⟨after, ?_, left⟩
      rw [Setup.asyncFor, asend_none live, round_yielded resumes reacts]
      simp only [if_true, looped, Option.map_some]

end bridged

section submitted

variable {config : Config} {gen : AssigningGen σ V}

theorem submitted_eq (gen : AssigningGen σ V) (waiters : Waiters config) (state : σ)
    (ctx : Context) :
    gen.submitted waiters state ctx = some
      (match gen.resume state ctx.vars with
      | (writes, .yielded value next) =>
          (.ok value, .suspended next, ctx.setItems (assign ctx writes))
      | (_, .returned) => (.error (.of .stopAsyncIteration ""), .finished, ctx)
      | (_, .raised exc) => (.error (crossed (agenException exc)), .finished, ctx)) := by
  cases resumed : gen.resume state ctx.vars with
  | mk writes step =>
      simp only [AssigningGen.submitted, setItems_same, submittedResult_eq, resumed]
      cases step <;> rfl

theorem submitted_vars (ctx : Context) (writes : List (Nat × Val)) :
    (ctx.setItems (assign ctx writes)).vars = assigned ctx.vars writes := by
  rw [setItems_of_stays (assign_stays ctx writes), assign_vars]

theorem syncFor_suspended {state : σ} {vars : Vars} {values : List V} {last final : Vars}
    (run : Consumed gen state vars values last final) (ctx : Context) (same : ctx.vars = vars)
    (fuel : Nat) (enough : values.length < fuel) (waiters : Nat → Waiters config) :
    ∃ after, gen.syncFor fuel waiters (.suspended state) ctx = some ⟨values, none, after⟩ ∧
      after.vars = last := by
  induction run generalizing ctx fuel waiters with
  | @returns state vars writes resumed =>
      obtain _ | fuel := fuel
      · cases enough
      refine ⟨ctx, ?_, same⟩
      simp only [AssigningGen.syncFor, submitted_eq, same, resumed]
      rfl
  | @yields state next vars last final writes value values resumed rest ih =>
      obtain _ | fuel := fuel
      · cases enough
      have seen : (ctx.setItems (assign ctx writes)).vars = assigned vars writes :=
        same ▸ submitted_vars ctx writes
      obtain ⟨after, looped, left⟩ := ih (ctx.setItems (assign ctx writes)) seen fuel
        (Nat.lt_of_succ_lt_succ enough) fun step => waiters (step + 1)
      refine ⟨after, ?_, left⟩
      simp only [AssigningGen.syncFor, submitted_eq, same, resumed, looped, Option.map_some]

theorem syncFor_unstarted {state : σ} {values : List V} {last final : Vars} (ctx : Context)
    (run : Consumed gen state ctx.vars values last final) (fuel : Nat)
    (enough : values.length < fuel) (waiters : Nat → Waiters config) :
    ∃ after, gen.syncFor fuel waiters (.unstarted state) ctx =
        some ⟨values, if values.isEmpty then some (.of .stopAsyncIteration "") else none, after⟩ ∧
      after.vars = last := by
  obtain _ | fuel := fuel
  · cases enough
  cases run with
  | @returns _ _ writes resumed =>
      refine ⟨ctx, ?_, rfl⟩
      simp only [AssigningGen.syncFor, submitted_eq, resumed]
      rfl
  | @yields _ next _ _ _ writes value values resumed rest =>
      obtain ⟨after, looped, left⟩ := syncFor_suspended rest (ctx.setItems (assign ctx writes))
        (submitted_vars ctx writes) fuel (Nat.lt_of_succ_lt_succ enough)
        fun step => waiters (step + 1)
      refine ⟨after, ?_, left⟩
      simp only [AssigningGen.syncFor, submitted_eq, resumed, looped, Option.map_some]
      rfl

def AssigningGen.async (gen : AssigningGen σ V) (close : σ × Vars → GenClose) :
    AsyncGen (σ × Vars) S V where
  resume state _ :=
    match gen.resume state.1 state.2 with
    | (writes, .yielded value next) => .yielded value (next, assigned state.2 writes)
    | (_, .returned) => .returned
    | (_, .raised exc) => .raised exc
  close := close

def frameWith (vars : Vars) : Frame σ → Frame (σ × Vars)
  | .unstarted state => .unstarted (state, vars)
  | .suspended state => .suspended (state, vars)
  | .finished => .finished

theorem asend_async (gen : AssigningGen σ V) (close : σ × Vars → GenClose) (state : σ)
    (vars : Vars) (sent : Option S) :
    (gen.async close : AsyncGen (σ × Vars) S V).asend (state, vars) sent =
      match gen.resume state vars with
      | (writes, .yielded value next) => .yielded value (next, assigned vars writes)
      | (_, .returned) => .returned
      | (_, .raised exc) => .raised (agenException exc) := by
  rcases resumed : gen.resume state vars with ⟨writes, _ | _ | _⟩ <;>
    simp [AsyncGen.asend, AssigningGen.async, resumed]

theorem syncFor_forLoop (close : σ × Vars → GenClose) (fuel : Nat)
    (waiters : Nat → Waiters config) (frame : Frame σ) (ctx : Context) :
    (gen.syncFor fuel waiters frame ctx).map (fun looped => (looped.values, looped.left)) =
      forLoop fuel (fun step frame =>
          send (gen.async close : AsyncGen (σ × Vars) S V) (waiters step) frame none)
        (frameWith ctx.vars frame) := by
  induction fuel generalizing waiters frame ctx with
  | zero => rfl
  | succ fuel ih =>
      have rest : ∀ (writes : List (Nat × Val)) (next : σ),
          (gen.syncFor fuel (fun step => waiters (step + 1)) (.suspended next)
              (ctx.setItems (assign ctx writes))).map
            (fun looped => (looped.values, looped.left)) =
          forLoop fuel (fun step frame =>
              send (gen.async close : AsyncGen (σ × Vars) S V) (waiters (step + 1)) frame none)
            (.suspended (next, assigned ctx.vars writes)) := by
        intro writes next
        have later := ih (fun step => waiters (step + 1)) (.suspended next)
          (ctx.setItems (assign ctx writes))
        rwa [submitted_vars, frameWith] at later
      cases frame with
      | finished => rfl
      | unstarted state =>
          have stepped : send (gen.async close : AsyncGen (σ × Vars) S V) (waiters 0)
              (.unstarted (state, ctx.vars)) none =
                firstStep (gen.async close) (waiters 0) (state, ctx.vars) := rfl
          simp only [AssigningGen.syncFor, submitted_eq, forLoop, frameWith, stepped, firstStep_eq,
            asend_async]
          rcases gen.resume state ctx.vars with ⟨writes, _ | _ | _⟩
          · simp only [← rest, Option.map_map]
            rfl
          · rfl
          · rfl
      | suspended state =>
          have stepped : send (gen.async close : AsyncGen (σ × Vars) S V) (waiters 0)
              (.suspended (state, ctx.vars)) none =
                nextStep (gen.async close) (waiters 0) (state, ctx.vars) := rfl
          simp only [AssigningGen.syncFor, submitted_eq, forLoop, frameWith, stepped, nextStep_eq,
            asend_async]
          rcases gen.resume state ctx.vars with ⟨writes, _ | _ | exc⟩
          · simp only [← rest, Option.map_map]
            rfl
          · rfl
          · have notStop := crossed_not_stop (agenException_not_stop exc)
            simp [notStop]

end submitted

/-- `async for` over `iterate_threaded_bridged(gen)` delivers the values and leaves the
consumer's user variables as given. -/
def AsyncLeaves (setup : Setup) (gen : SyncGen σ S V) (ctx : Context) (values : List V)
    (vars : Vars) : Prop :=
  ∀ fuel, values.length < fuel → ∃ left after,
    setup.asyncFor true gen fuel (.start ctx) = some ⟨values, left, after⟩ ∧ after.vars = vars

def SyncLeaves (config : Config) (gen : AssigningGen σ V) (ctx : Context) (values : List V)
    (vars : Vars) : Prop :=
  ∀ (waiters : Nat → Waiters config) (fuel : Nat), values.length < fuel → ∃ left after,
    gen.syncFor fuel waiters (.unstarted gen.initial) ctx = some ⟨values, left, after⟩ ∧
      after.vars = vars

section loops

variable {gen : AssigningGen σ V} {ctx : Context} {values : List V} {last final : Vars}

theorem asyncLeaves_iff (setup : Setup) (close : Nat → Context → σ → GenStep σ V × Context)
    (run : Consumed gen gen.initial ctx.vars values last final) (vars : Vars) :
    AsyncLeaves setup (gen.sync close : SyncGen σ S V) ctx values vars ↔ last = vars := by
  have looped : ∀ fuel, values.length < fuel → ∃ after,
      setup.asyncFor true (gen.sync close : SyncGen σ S V) fuel (.start ctx) =
        some ⟨values, none, after⟩ ∧ after.vars = last :=
    fun fuel enough => asyncFor_consumed run rfl fuel enough nofun (.inl ⟨rfl, rfl, rfl⟩)
  constructor
  · intro leaves
    obtain ⟨after, ran, left⟩ := looped _ (Nat.lt_succ_self _)
    obtain ⟨_, after', ran', left'⟩ := leaves _ (Nat.lt_succ_self _)
    rw [ran] at ran'
    cases ran'
    exact left.symm.trans left'
  · rintro rfl fuel enough
    obtain ⟨after, ran, left⟩ := looped fuel enough
    exact ⟨none, after, ran, left⟩

theorem syncLeaves_iff (config : Config)
    (run : Consumed gen gen.initial ctx.vars values last final) (vars : Vars) :
    SyncLeaves config gen ctx values vars ↔ last = vars := by
  constructor
  · intro leaves
    obtain ⟨after, ran, left⟩ :=
      syncFor_unstarted ctx run _ (Nat.lt_succ_self _) fun _ => .idle config
    obtain ⟨_, after', ran', left'⟩ := leaves (fun _ => .idle config) _ (Nat.lt_succ_self _)
    rw [ran] at ran'
    cases ran'
    exact left.symm.trans left'
  · rintro rfl waiters fuel enough
    obtain ⟨after, ran, left⟩ := syncFor_unstarted ctx run fuel enough waiters
    exact ⟨_, after, ran, left⟩

end loops

/-- Either bridge leaves its consumer the variables that a native loop leaves exactly when
the generator, after its last `yield`, leaves them as they were at that `yield`. -/
theorem final_context_iff (gen : AssigningGen σ V)
    (close : Nat → Context → σ → GenStep σ V × Context) (setup : Setup) (ambient : Bool)
    (ctx : Context) (values : List V) (last final : Vars)
    (run : Consumed gen gen.initial ctx.vars values last final) :
    (AsyncLeaves setup (gen.sync close : SyncGen σ S V) ctx values final ↔ last = final) ∧
      (SyncLeaves (unkoilGen ambient) gen ctx values final ↔ last = final) :=
  ⟨asyncLeaves_iff setup close run final, syncLeaves_iff (unkoilGen ambient) run final⟩

def publishes : AssigningGen Bool Nat where
  initial := false
  resume state _ :=
    if state then ([(0, .user 2)], .returned) else ([(0, .user 1)], .yielded 7 true)

theorem publishes_consumed (vars : Vars) :
    Consumed publishes false vars [7] (assigned vars [(0, .user 1)])
      (assigned (assigned vars [(0, .user 1)]) [(0, .user 2)]) :=
  .yields rfl (.returns rfl)

def exits (_ : Nat) (ctx : Context) (_ : Bool) : GenStep Bool Nat × Context :=
  (.raised (.of .generatorExit ""), ctx)

def consumerLoop : Setup := ⟨0, id, fun _ => ""⟩

theorem final_context_iff_publishes :
    let last := assigned Context.empty.vars [(0, .user 1)]
    let final := assigned last [(0, .user 2)]
    (AsyncLeaves consumerLoop (publishes.sync exits : SyncGen Bool Unit Nat) .empty [7] final ↔
        last = final) ∧
      (SyncLeaves (unkoilGen false) publishes .empty [7] final ↔ last = final) :=
  final_context_iff publishes exits consumerLoop false .empty [7] _ _ (publishes_consumed _)

/-- The native loop ends with the second value, and either bridge with the first. -/
theorem final_assignment_lost :
    (∃ last final, Consumed publishes false Context.empty.vars [7] last final ∧
      final 0 = some (.user 2)) ∧
    (∃ after, consumerLoop.asyncFor true (publishes.sync exits : SyncGen Bool Unit Nat) 2
        (.start .empty) = some ⟨[7], none, after⟩ ∧ after.vars 0 = some (.user 1)) ∧
    ∃ after, publishes.syncFor 2 (fun _ => .idle (unkoilGen false)) (.unstarted false)
        .empty = some ⟨[7], none, after⟩ ∧ after.vars 0 = some (.user 1) := by
  exact ⟨⟨_, _, publishes_consumed _, rfl⟩, ⟨_, rfl, rfl⟩, ⟨_, rfl, rfl⟩⟩

end Koil.Iterating
