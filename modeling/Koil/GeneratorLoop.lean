import Koil.GeneratorTasks

namespace Koil.Generators

open Race

variable {σ S V : Type} {config : Config}

/-- The run of an async generator to which nothing is sent: the values it yields
and the exception it raises in the end, if it raises one. -/
inductive Yields (gen : AsyncGen σ S V) : σ → List V → Option Exc → Prop
  | finishes {state : σ} (stepped : gen.asend state none = .returned) :
      Yields gen state [] none
  | raises {state : σ} {exc : Exc} (stepped : gen.asend state none = .raised exc) :
      Yields gen state [] (some exc)
  | yields {state next : σ} {value : V} {values : List V} {ending : Option Exc}
      (stepped : gen.asend state none = .yielded value next)
      (rest : Yields gen next values ending) : Yields gen state (value :: values) ending

/-- The values the loop body sees and the exception that leaves the loop, where `next` is what
`next(generator)` does from this step on. -/
def forLoop : Nat → (Nat → Frame σ → Option (Sent σ S V)) → Frame σ →
    Option (List V × Option Exc)
  | 0, _, _ => none
  | fuel + 1, next, frame =>
      match next 0 frame with
      | none => none
      | some sent =>
          match sent.reply with
          | .stopped => some ([], none)
          | .raised exc => some ([], some exc)
          | .yielded value =>
              (forLoop fuel (fun step => next (step + 1)) sent.frame).map
                fun rest => (value :: rest.1, rest.2)

/-- The loop delivers the values in order and ends as the generator did, and
what leaves it is not a StopAsyncIteration. -/
def Delivers (config : Config) (gen : TaskGen σ S V) (moments : Nat → Moment) (state : σ)
    (values : List V) (ending : Option Exc) : Prop :=
  ∀ (races : Nat → Races config) (fuel : Nat), values.length < fuel →
    ∃ left, forLoop fuel (fun step frame => gen.send (moments step) (races step) frame none)
        (.unstarted state) = some (values, left) ∧ left = ending ∧
      ∀ exc, left = some exc → exc.isA .stopAsyncIteration = false

/-- Each step yields its value in a task of its own, and the last one ends as it should. -/
def TaskGen.deliversCondition (gen : TaskGen σ S V) :
    Bool → (Nat → Moment) → σ → List V → Option Exc → Prop
  | first, moments, state, [], ending =>
      gen.ends (moments 0) first state = some (ending.elim .stopped .raised)
  | _, moments, state, value :: values, ending =>
      ∃ next, gen.Continues (moments 0) state value next ∧
        gen.deliversCondition false (fun step => moments (step + 1)) next values ending

variable {gen : TaskGen σ S V} {moments : Nat → Moment} {races : Nat → Races config}
  {state : σ} {fuel : Nat} {first : Bool}

theorem forLoop_continues {value : V} {next : σ}
    (continues : gen.Continues (moments 0) state value next) :
    forLoop (fuel + 1) (fun step frame => gen.send (moments step) (races step) frame none)
        (frameOf first state) =
      (forLoop fuel
        (fun step frame => gen.send (moments (step + 1)) (races (step + 1)) frame none)
        (frameOf false next)).map fun rest => (value :: rest.1, rest.2) := by
  simp only [forLoop, send_continues continues]
  rfl

theorem forLoop_halts (halts : ∀ value next, ¬ gen.Continues (moments 0) state value next)
    (values : List V) (left : Option Exc) :
    forLoop (fuel + 1) (fun step frame => gen.send (moments step) (races step) frame none)
        (frameOf first state) = some (values, left) ↔
      values = [] ∧ gen.ends (moments 0) first state = some (left.elim .stopped .raised) := by
  cases ends : gen.ends (moments 0) first state with
  | none => simp [forLoop, send_waits ends halts]
  | some reply =>
      have unyielded := ends_not_yielded ends
      simp only [forLoop, send_ends ends]
      cases reply with
      | yielded value => exact absurd rfl (unyielded value)
      | stopped => cases left <;> simp [eq_comm]
      | raised exc => cases left <;> simp [eq_comm]

/-- The loop sees these values, and this leaves it, exactly where the generator goes so. -/
theorem forLoop_iff (gen : TaskGen σ S V) (values : List V) (left : Option Exc) (first : Bool)
    (moments : Nat → Moment) (races : Nat → Races config) (state : σ)
    (enough : values.length < fuel) :
    forLoop fuel (fun step frame => gen.send (moments step) (races step) frame none)
        (frameOf first state) = some (values, left) ↔
      gen.deliversCondition first moments state values left := by
  induction values generalizing first moments races state fuel with
  | nil =>
      obtain ⟨fuel, rfl⟩ : ∃ less, fuel = less + 1 := ⟨fuel - 1, by simp at enough; omega⟩
      rw [TaskGen.deliversCondition]
      by_cases goes : ∃ value next, gen.Continues (moments 0) state value next
      · obtain ⟨value, next, continues⟩ := goes
        have goesOn : gen.ends (moments 0) first state ≠ some (left.elim .stopped .raised) :=
          fun ends => not_continues ends continues
        simp [forLoop_continues continues, goesOn]
      · rw [forLoop_halts fun value next continues => goes ⟨value, next, continues⟩]
        simp
  | cons value values ih =>
      obtain ⟨fuel, rfl⟩ : ∃ less, fuel = less + 1 := ⟨fuel - 1, by simp at enough; omega⟩
      have fewer : values.length < fuel := by simpa using enough
      rw [TaskGen.deliversCondition]
      by_cases goes : ∃ value next, gen.Continues (moments 0) state value next
      · obtain ⟨got, next, continues⟩ := goes
        have later := ih false (fun step => moments (step + 1)) (fun step => races (step + 1))
          next fewer
        rw [forLoop_continues continues, Option.map_eq_some_iff]
        constructor
        · rintro ⟨⟨values', left'⟩, looped, same⟩
          obtain ⟨⟨rfl, rfl⟩, rfl⟩ : (got = value ∧ values' = values) ∧ left' = left := by
            simpa using same
          exact ⟨next, continues, later.mp looped⟩
        · rintro ⟨next', continues', rest⟩
          obtain ⟨rfl, rfl⟩ := continues.unique continues'
          exact ⟨(values, left), later.mpr rest, rfl⟩
      · have halts : ∀ value next, ¬ gen.Continues (moments 0) state value next :=
          fun value next continues => goes ⟨value, next, continues⟩
        rw [forLoop_halts halts]
        refine iff_of_false (fun both => ?_) fun ⟨next, continues, _⟩ => halts value next continues
        cases both.1

theorem yields_not_stop {gen : AsyncGen σ S V} {state : σ} {values : List V} {exc : Exc}
    (run : Yields gen state values (some exc)) : exc.isA .stopAsyncIteration = false := by
  generalize ends : some exc = ending at run
  induction run with
  | finishes stepped => cases ends
  | raises stepped =>
      cases ends
      exact asend_raised_not_stop stepped
  | yields stepped rest ih => exact ih ends

/-- Nothing is refused or cancelled, and no step depends on its task. -/
def TaskGen.Calm (gen : TaskGen σ S V) (task : Nat) (moments : Nat → Moment) : Prop :=
  ∀ step, (moments step).isSet = false ∧ ∀ state, gen.cut (moments step) state = false ∧
    gen.resume (moments step).task state none = gen.resume task state none

theorem TaskGen.Calm.asend {task : Nat} (calm : gen.Calm task moments) (step : Nat) (state : σ) :
    (gen.here (moments step)).asend state none = (gen.inTask task task).asend state none := by
  simp only [AsyncGen.asend, TaskGen.here, TaskGen.inTask, ((calm step).2 state).2]

theorem TaskGen.Calm.ends {task : Nat} (calm : gen.Calm task moments) (first : Bool) (state : σ) :
    gen.ends (moments 0) first state =
      ((gen.inTask task task).asend state none).lastReply first := by
  rw [TaskGen.ends, (calm 0).1, if_neg Bool.false_ne_true, ((calm 0).2 state).1,
    if_neg Bool.false_ne_true, calm.asend]

theorem TaskGen.Calm.later {task : Nat} (calm : gen.Calm task moments) :
    gen.Calm task fun step => moments (step + 1) := fun step => calm (step + 1)

/-- What a run of the generator has to be like, if it goes the same in every task: its end is
not that of the first step, and its exception crosses. -/
def calmCondition (first : Bool) (values : List V) : Option Exc → Bool
  | none => !(first && values.isEmpty)
  | some exc => crossesWhole exc

theorem calm_iff {task : Nat} {values : List V} {ending : Option Exc}
    (run : Yields (gen.inTask task task) state values ending) (first : Bool)
    (calm : gen.Calm task moments) :
    gen.deliversCondition first moments state values ending ↔
      calmCondition first values ending = true := by
  induction run generalizing first moments with
  | finishes stepped =>
      rw [TaskGen.deliversCondition, calm.ends, stepped]
      cases first <;> simp [GenStep.lastReply, leaving, calmCondition, Builtin.isA, Builtin.mro]
  | raises stepped =>
      rw [TaskGen.deliversCondition, calm.ends, stepped]
      simp [GenStep.lastReply, calmCondition, crossed_eq_iff]
  | @yields state next value values ending stepped rest ih =>
      rw [TaskGen.deliversCondition]
      have continues : gen.Continues (moments 0) state value next :=
        ⟨(calm 0).1, ((calm 0).2 state).1, (calm.asend 0 state).trans stepped⟩
      have same : calmCondition first (value :: values) ending =
          calmCondition false values ending := by
        cases ending <;> simp [calmCondition]
      rw [same, ← ih false calm.later]
      constructor
      · rintro ⟨next', continues', later⟩
        obtain ⟨_, rfl⟩ := continues.unique continues'
        exact later
      · exact fun later => ⟨next, continues, later⟩

theorem delivers_iff (gen : TaskGen σ S V) {task : Nat} {state : σ} {values : List V}
    {ending : Option Exc} (run : Yields (gen.inTask task task) state values ending)
    (moments : Nat → Moment) :
    Delivers config gen moments state values ending ↔
      gen.deliversCondition true moments state values ending := by
  constructor
  · intro delivers
    have enough : values.length < values.length + 1 := Nat.lt_succ_self _
    obtain ⟨left, looped, rfl, _⟩ := delivers (fun _ => .idle config) _ enough
    exact (forLoop_iff gen values left true moments (fun _ => .idle config) state enough).mp looped
  · intro condition races fuel enough
    refine ⟨ending, ?_, rfl, ?_⟩
    · exact (forLoop_iff gen values ending true moments races state enough).mpr condition
    · rintro exc rfl
      exact yields_not_stop run

/-- A `for` loop over either generator delivers what the async generator yields natively and
ends alike exactly when each step yields the same in a task of its own, without being cancelled
for its race, and the last one ends the same for the consumer. Where nothing is cancelled and
tasks make no difference, this is when the generator yields before it finishes, or raises what
crosses the bridge as it is. -/
theorem for_loop_delivers_iff (gen : TaskGen σ S V) (task : Nat) (moments : Nat → Moment)
    (state : σ) (values : List V) (ending : Option Exc)
    (run : Yields (gen.inTask task task) state values ending) (ambient : Bool)
    (timeout : String) :
    ((Delivers (unkoilGen ambient) gen moments state values ending ∧
        Delivers (unkoilGenWithTimeout ambient timeout) gen moments state values ending) ↔
      gen.deliversCondition true moments state values ending) ∧
    (gen.Calm task moments →
      (gen.deliversCondition true moments state values ending ↔
        calmCondition true values ending = true)) := by
  rw [delivers_iff gen run, delivers_iff gen run, and_self]
  exact ⟨Iff.rfl, calm_iff run true⟩

def undisturbed (step : Nat) : Moment := ⟨2 * step + 1, 2 * step + 2, false, false⟩

def countToTwo : TaskGen Nat Unit Nat := AsyncGen.anyTask
  { resume := fun state _ => if state < 2 then .yielded (state + 1) (state + 1) else .returned
    close := fun _ => .closed }

theorem for_loop_delivers_iff_countToTwo :
    ((Delivers (unkoilGen false) countToTwo undisturbed 0 [1, 2] none ∧
        Delivers (unkoilGenWithTimeout false "1.0") countToTwo undisturbed 0 [1, 2] none) ↔
      countToTwo.deliversCondition true undisturbed 0 [1, 2] none) ∧
    (countToTwo.Calm 0 undisturbed →
      (countToTwo.deliversCondition true undisturbed 0 [1, 2] none ↔
        calmCondition true [1, 2] none = true)) :=
  for_loop_delivers_iff countToTwo 0 undisturbed 0 [1, 2] none
    (.yields rfl (.yields rfl (.finishes rfl))) false "1.0"

theorem countToTwo_calm : countToTwo.Calm 0 undisturbed := fun _ => ⟨rfl, fun _ => ⟨rfl, rfl⟩⟩

/-- A generator which finishes at once throws a StopAsyncIteration at the loop. -/
theorem for_loop_over_nothing :
    Yields (countToTwo.inTask 0 0) 2 [] none ∧
    forLoop 1 (fun step frame => countToTwo.send (undisturbed step) (.idle (unkoilGen false))
      frame none) (.unstarted 2) = some ([], some (.of .stopAsyncIteration "")) ∧
    ¬ Delivers (unkoilGen false) countToTwo undisturbed 2 [] none := by
  have run : Yields (countToTwo.inTask 0 0) 2 [] none := .finishes rfl
  refine ⟨run, rfl, ?_⟩
  rw [delivers_iff countToTwo run, calm_iff run true countToTwo_calm]
  decide

/-- A generator that sleeps before it yields, under a cancel event of another loop. -/
example :
    forLoop 1 (fun step frame =>
      (⟨fun _ _ _ => .yielded 1 (), fun _ _ => true,
        fun _ _ => some (.raised (.of .asyncioCancelledError "")), fun _ _ => .closed⟩ :
          TaskGen Unit Unit Nat).send ⟨step, step, false, true⟩ (.idle (unkoilGen true)) frame none)
      (.unstarted ()) = some ([], some (.of .futuresCancelledError "")) := rfl

end Koil.Generators
