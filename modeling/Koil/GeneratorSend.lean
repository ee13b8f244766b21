import Koil.GeneratorLoop

namespace Koil.Generators

open Race

variable {σ S V : Type} {config : Config}

/-- One sent value: what the generator body received at its `yield`, if it was
resumed, and what the driver got back. The end of either generator is `stopped`. -/
structure Answer (S V : Type) where
  received : Option (Option S)
  reply : Reply V
  deriving DecidableEq, Repr

def asendAll (gen : AsyncGen σ S V) : Option σ → List (Option S) → List (Answer S V)
  | _, [] => []
  | none, _ :: sent => ⟨none, .stopped⟩ :: asendAll gen none sent
  | some state, value :: sent =>
      match gen.asend state value with
      | .yielded next after => ⟨some value, .yielded next⟩ :: asendAll gen (some after) sent
      | .returned => ⟨some value, .stopped⟩ :: asendAll gen none sent
      | .raised exc => ⟨some value, .raised exc⟩ :: asendAll gen none sent

def sendAll (gen : TaskGen σ S V) :
    (Nat → Moment) → (Nat → Races config) → Frame σ → List (Option S) →
      Option (List (Answer S V))
  | _, _, _, [] => some []
  | moments, races, frame, value :: sent =>
      match gen.send (moments 0) (races 0) frame value with
      | none => none
      | some step =>
          (sendAll gen (fun step => moments (step + 1)) (fun step => races (step + 1))
            step.frame sent).map fun rest => ⟨step.received, step.reply⟩ :: rest

/-- After a first `next`, the values in `sent` reach the async generator and are
answered as if it was driven directly, in one task. -/
def Forwards (config : Config) (gen : TaskGen σ S V) (task : Nat) (moments : Nat → Moment)
    (state : σ) (sent : List (Option S)) : Prop :=
  ∀ races : Nat → Races config,
    sendAll gen moments races (.unstarted state) (none :: sent) =
      some (asendAll (gen.inTask task task) (some state) (none :: sent))

/-- What is sent while the generator lives is `None`, and each step does in a task of its own
what it does in the one task: it yields the same, or ends the same for the driver. The states
are those of the two runs. -/
def TaskGen.forwardsCondition (gen : TaskGen σ S V) (task : Nat) :
    Bool → (Nat → Moment) → σ → σ → List (Option S) → Prop
  | _, _, _, _, [] => True
  | _, _, _, _, some _ :: _ => False
  | first, moments, state, apart, none :: sent =>
      match (gen.inTask task task).asend state none with
      | .yielded value next => ∃ next', gen.Continues (moments 0) apart value next' ∧
          gen.forwardsCondition task false (fun step => moments (step + 1)) next next' sent
      | .returned =>
          (moments 0).isSet = false ∧ gen.ends (moments 0) first apart = some .stopped
      | .raised exc =>
          (moments 0).isSet = false ∧ gen.ends (moments 0) first apart = some (.raised exc)

/-- The same where nothing is cancelled and tasks make no difference. -/
def forwardsCalmly (gen : AsyncGen σ S V) : σ → List (Option S) → Bool
  | _, [] => true
  | _, some _ :: _ => false
  | state, none :: sent =>
      match gen.asend state none with
      | .yielded _ next => forwardsCalmly gen next sent
      | .returned => true
      | .raised exc => crossesWhole exc

variable {gen : TaskGen σ S V} {task : Nat} {moments : Nat → Moment} {races : Nat → Races config}
  {state apart : σ} {sent : List (Option S)}

theorem sendAll_finished (gen : TaskGen σ S V) (agen : AsyncGen σ S V) (sent : List (Option S))
    (moments : Nat → Moment) (races : Nat → Races config) :
    sendAll gen moments races .finished sent = some (asendAll agen none sent) := by
  induction sent generalizing moments races with
  | nil => rfl
  | cons value sent ih =>
      have ends : gen.send (moments 0) (races 0) .finished value =
          some ⟨none, .stopped, .finished⟩ := by
        cases value <;> rfl
      simp [sendAll, asendAll, ends, ih]

theorem send_value_unreceived (gen : TaskGen σ S V) (moment : Moment) (races : Races config)
    (state : σ) (value : S) :
    ∃ reply, gen.send moment races (.suspended state) (some value) =
      some ⟨none, reply, .finished⟩ := by
  cases set : moment.isSet with
  | true => exact ⟨leave (gen.here moment) (some state) (.raised threadCancelled), if_pos set⟩
  | false =>
      obtain ⟨reply, sends⟩ := sendStep_unreceived (gen.here moment) races.waiters state
      exact ⟨reply, by simpa [TaskGen.send, set] using sends⟩

theorem sendAll_value (gen : TaskGen σ S V) (agen : AsyncGen σ S V) (state apart : σ) (value : S)
    (sent : List (Option S)) (moments : Nat → Moment) (races : Nat → Races config) :
    sendAll gen moments races (.suspended apart) (some value :: sent) ≠
      some (asendAll agen (some state) (some value :: sent)) := by
  obtain ⟨reply, stepped⟩ := send_value_unreceived gen (moments 0) (races 0) apart value
  have received : ∃ answer rest, asendAll agen (some state) (some value :: sent) = answer :: rest ∧
      answer.received = some (some value) := by
    simp only [asendAll]
    split <;> exact ⟨_, _, rfl, rfl⟩
  obtain ⟨answer, rest, direct, got⟩ := received
  intro same
  rw [direct] at same
  simp only [sendAll, stepped, sendAll_finished gen agen, Option.map_some, Option.some.injEq,
    List.cons.injEq] at same
  rw [← same.1] at got
  cases got

theorem sendAll_continues {value : V} {next : σ} (first : Bool)
    (continues : gen.Continues (moments 0) apart value next) :
    sendAll gen moments races (frameOf first apart) (none :: sent) =
      (sendAll gen (fun step => moments (step + 1)) (fun step => races (step + 1))
        (frameOf false next) sent).map fun rest => ⟨some none, .yielded value⟩ :: rest := by
  simp only [sendAll, send_continues continues]
  rfl

/-- Any other step is answered as the last one of the async generator exactly where it was
resumed and ended so. -/
theorem sendAll_halts (agen : AsyncGen σ S V) {first : Bool}
    (halts : ∀ value next, ¬ gen.Continues (moments 0) apart value next) (reply : Reply V)
    (answers : List (Answer S V)) :
    sendAll gen moments races (frameOf first apart) (none :: sent) =
        some (⟨some none, reply⟩ :: answers) ↔
      ((moments 0).isSet = false ∧ gen.ends (moments 0) first apart = some reply) ∧
        asendAll agen none sent = answers := by
  cases ends : gen.ends (moments 0) first apart with
  | none => simp [sendAll, send_waits ends halts]
  | some got =>
      simp only [sendAll, send_ends ends, sendAll_finished gen agen, Option.map_some,
        Option.some.injEq, List.cons.injEq, Answer.mk.injEq]
      cases (moments 0).isSet <;> simp

theorem sendAll_none_iff {first : Bool}
    (later : ∀ next next' : σ,
      sendAll gen (fun step => moments (step + 1)) (fun step => races (step + 1))
          (frameOf false next') sent = some (asendAll (gen.inTask task task) (some next) sent) ↔
        gen.forwardsCondition task false (fun step => moments (step + 1)) next next' sent) :
    sendAll gen moments races (frameOf first apart) (none :: sent) =
        some (asendAll (gen.inTask task task) (some state) (none :: sent)) ↔
      gen.forwardsCondition task first moments state apart (none :: sent) := by
  rw [TaskGen.forwardsCondition]
  by_cases goes : ∃ value next, gen.Continues (moments 0) apart value next
  · obtain ⟨got, next', continues⟩ := goes
    have open_ : ∀ reply, gen.ends (moments 0) first apart ≠ some reply :=
      fun reply ends => not_continues ends continues
    rw [sendAll_continues first continues, Option.map_eq_some_iff]
    cases stepped : (gen.inTask task task).asend state none with
    | yielded value next =>
        simp only [asendAll, stepped, List.cons.injEq, Answer.mk.injEq, true_and,
          Reply.yielded.injEq]
        constructor
        · rintro ⟨rest, sends, rfl, rfl⟩
          exact ⟨next', continues, (later next next').mp sends⟩
        · rintro ⟨next'', continues', rest⟩
          obtain ⟨rfl, rfl⟩ := continues.unique continues'
          exact ⟨_, (later next next').mpr rest, rfl, rfl⟩
    | returned => simp [asendAll, stepped, open_]
    | raised exc => simp [asendAll, stepped, open_]
  · have halts : ∀ value next, ¬ gen.Continues (moments 0) apart value next :=
      fun value next continues => goes ⟨value, next, continues⟩
    cases stepped : (gen.inTask task task).asend state none with
    | yielded value next =>
        simp only [asendAll, stepped]
        rw [sendAll_halts (gen.inTask task task) halts]
        refine iff_of_false (fun both => ?_) fun ⟨next', continues, _⟩ =>
          halts value next' continues
        exact ends_not_yielded both.1.2 value rfl
    | returned =>
        simp only [asendAll, stepped]
        rw [sendAll_halts (gen.inTask task task) halts, and_iff_left rfl]
    | raised exc =>
        simp only [asendAll, stepped]
        rw [sendAll_halts (gen.inTask task task) halts, and_iff_left rfl]

theorem sendAll_suspended_iff (gen : TaskGen σ S V) (task : Nat) (sent : List (Option S))
    (state apart : σ) (moments : Nat → Moment) (races : Nat → Races config) :
    sendAll gen moments races (frameOf false apart) sent =
        some (asendAll (gen.inTask task task) (some state) sent) ↔
      gen.forwardsCondition task false moments state apart sent := by
  induction sent generalizing state apart moments races with
  | nil => simp [sendAll, asendAll, TaskGen.forwardsCondition]
  | cons value sent ih =>
      cases value with
      | some value =>
          have lost := sendAll_value gen (gen.inTask task task) state apart value sent moments races
          exact iff_of_false lost (by simp [TaskGen.forwardsCondition])
      | none => exact sendAll_none_iff fun next next' => ih next next' _ _

theorem forwards_iff (gen : TaskGen σ S V) (task : Nat) (moments : Nat → Moment) (state : σ)
    (sent : List (Option S)) :
    Forwards config gen task moments state sent ↔
      gen.forwardsCondition task true moments state state (none :: sent) := by
  have begun : ∀ races : Nat → Races config,
      sendAll gen moments races (frameOf true state) (none :: sent) =
          some (asendAll (gen.inTask task task) (some state) (none :: sent)) ↔
        gen.forwardsCondition task true moments state state (none :: sent) :=
    fun races => sendAll_none_iff fun next next' =>
      sendAll_suspended_iff gen task sent next next' _ _
  constructor
  · intro forwards
    exact (begun (fun _ => .idle config)).mp (forwards _)
  · intro condition races
    exact (begun races).mpr condition

theorem calm_yields_iff {value : V} {next : σ} (calm : gen.Calm task moments)
    (stepped : (gen.inTask task task).asend state none = .yielded value next) (first : Bool) :
    gen.forwardsCondition task first moments state state (none :: sent) ↔
      gen.forwardsCondition task false (fun step => moments (step + 1)) next next sent := by
  have continues : gen.Continues (moments 0) state value next :=
    ⟨(calm 0).1, ((calm 0).2 state).1, (calm.asend 0 state).trans stepped⟩
  rw [TaskGen.forwardsCondition, stepped]
  constructor
  · rintro ⟨next', continues', later⟩
    obtain ⟨_, rfl⟩ := continues.unique continues'
    exact later
  · exact fun later => ⟨next, continues, later⟩

theorem forwards_calm_iff (calm : gen.Calm task moments) :
    gen.forwardsCondition task false moments state state sent ↔
      forwardsCalmly (gen.inTask task task) state sent = true := by
  induction sent generalizing moments state with
  | nil => simp [TaskGen.forwardsCondition, forwardsCalmly]
  | cons value sent ih =>
      cases value with
      | some value => simp [TaskGen.forwardsCondition, forwardsCalmly]
      | none =>
          cases stepped : (gen.inTask task task).asend state none with
          | yielded value next =>
              rw [calm_yields_iff calm stepped, ih calm.later, forwardsCalmly, stepped]
          | returned =>
              simp [TaskGen.forwardsCondition, forwardsCalmly, calm.ends, stepped, (calm 0).1,
                GenStep.lastReply, leaving, Builtin.isA, Builtin.mro]
          | raised exc =>
              simp [TaskGen.forwardsCondition, forwardsCalmly, calm.ends, stepped, (calm 0).1,
                GenStep.lastReply, crossed_eq_iff]

/-- Driven with `send`, both generators answer as the async generator does directly exactly when
nothing but `None` is sent to a suspended generator, and each step does the same in a task of
its own without being cancelled for its race. Where nothing is cancelled and tasks make no
difference, this is when nothing but `None` is sent and what the generator raises crosses the
bridge as it is. -/
theorem send_forwards_iff (gen : TaskGen σ S V) (task : Nat) (moments : Nat → Moment)
    (state next : σ) (value : V)
    (first : (gen.inTask task task).asend state none = .yielded value next) (ambient : Bool)
    (timeout : String) (sent : List (Option S)) :
    ((Forwards (unkoilGen ambient) gen task moments state sent ∧
        Forwards (unkoilGenWithTimeout ambient timeout) gen task moments state sent) ↔
      gen.forwardsCondition task true moments state state (none :: sent)) ∧
    (gen.Calm task moments →
      (gen.forwardsCondition task true moments state state (none :: sent) ↔
        forwardsCalmly (gen.inTask task task) next sent = true)) := by
  rw [forwards_iff gen task, forwards_iff gen task, and_self]
  exact ⟨Iff.rfl, fun calm =>
    (calm_yields_iff calm first true).trans (forwards_calm_iff calm.later)⟩

def echo : TaskGen Unit Nat (Option Nat) := AsyncGen.anyTask
  { resume := fun _ sent => .yielded sent ()
    close := fun _ => .closed }

example : echo.Calm 0 undisturbed := fun _ => ⟨rfl, fun _ => ⟨rfl, rfl⟩⟩

theorem send_forwards_iff_echo :
    ((Forwards (unkoilGen false) echo 0 undisturbed () [none, none] ∧
        Forwards (unkoilGenWithTimeout false "1.0") echo 0 undisturbed () [none, none]) ↔
      echo.forwardsCondition 0 true undisturbed () () [none, none, none]) ∧
    (echo.Calm 0 undisturbed →
      (echo.forwardsCondition 0 true undisturbed () () [none, none, none] ↔
        forwardsCalmly (echo.inTask 0 0) () [none, none] = true)) :=
  send_forwards_iff echo 0 undisturbed () () none rfl false "1.0" [none, none]

/-- The first value sent to the echo comes back as a TypeError. -/
theorem send_loses_value :
    sendAll echo undisturbed (fun _ => .idle (unkoilGen false)) (.unstarted ()) [none, some 5] =
      some [⟨some none, .yielded none⟩,
        ⟨none, .raised (.of .typeError "expected 0 arguments, got 1")⟩] ∧
    asendAll (echo.inTask 0 0) (some ()) [none, some 5] =
      [⟨some none, .yielded none⟩, ⟨some (some 5), .yielded (some 5)⟩] ∧
    ¬ Forwards (unkoilGen false) echo 0 undisturbed () [some 5] := by
  refine ⟨rfl, rfl, fun forwards => ?_⟩
  obtain ⟨_, _, condition⟩ := (forwards_iff echo 0 undisturbed () [some 5]).mp forwards
  exact condition

end Koil.Generators
