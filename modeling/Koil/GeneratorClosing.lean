import Koil.IterateThreaded
import Koil.Runs

namespace Koil.Iterating

open Contexts Generators Runs

variable {σ S V : Type}

/-- What a consumer does with the async generator, with or without a cancellation of its
task while the job of that is running. -/
inductive Action (S : Type)
  | asend (sent : Option S) (cancelled : Bool)
  | athrow (exc : Exc) (cancelled : Bool)
  | aclose (cancelled : Bool)

structure Turn (S : Type) where
  ctx : Context
  action : Action S

variable (setup : Setup) (bridge : Bool) (gen : SyncGen σ S V)

def Setup.act (it : Iteration σ) : Action S → Iteration σ
  | .asend sent cancelled => (setup.asend bridge cancelled gen it sent).2
  | .athrow exc cancelled => (setup.athrow bridge cancelled gen it exc).2
  | .aclose cancelled => (setup.aclose bridge cancelled gen it).2

def Setup.take (it : Iteration σ) (turn : Turn S) : Option (Iteration σ) :=
  some (setup.act bridge gen { it with ctx := turn.ctx } turn.action)

/-- Once the async generator has terminated, the sync generator is finished, if it was
ever created. -/
def Iteration.LeavesNothing (it : Iteration σ) : Prop :=
  it.point = .finished → ∀ frame, it.generator = some frame → frame = .finished

def suspends : GenStep σ V × Context → Bool
  | (.yielded _ _, _) => true
  | _ => false

/-- The action is no step that is cancelled and comes to a `yield` all the same, throws
nothing but GeneratorExit at the `yield`, and does not close a generator that comes to a
`yield` again. -/
def Setup.Closes (it : Iteration σ) : Action S → Bool
  | .asend sent cancelled =>
      match it.point, it.generator, sent with
      | .unstarted, _, none =>
          !(cancelled && suspends (setup.reaction gen it gen.initial none))
      | .atYield, some (.suspended state), sent =>
          !(cancelled && suspends (setup.reaction gen it state sent))
      | _, _, _ => true
  | .athrow exc _ =>
      match it.point, it.generator with
      | .atYield, some (.suspended state) =>
          exc.isA .generatorExit && !suspends (setup.closeReaction gen it state)
      | _, _ => true
  | .aclose _ =>
      match it.point, it.generator with
      | .atYield, some (.suspended state) => !suspends (setup.closeReaction gen it state)
      | _, _ => true

/-- Between two actions of a consumer that has left nothing suspended so far. -/
inductive Settled (it : Iteration σ) : Prop
  | unstarted (point : it.point = .unstarted) (generator : it.generator = none)
  | suspended (state : σ) (point : it.point = .atYield)
      (generator : it.generator = some (.suspended state))
  | finished (point : it.point = .finished)
      (closed : ∀ frame, it.generator = some frame → frame = .finished)

structure Abandoned (it : Iteration σ) : Prop where
  point : it.point = .finished
  suspended : ∃ state, it.generator = some (.suspended state)

theorem Settled.leavesNothing {it : Iteration σ} (settled : Settled it) :
    it.LeavesNothing := by
  intro terminated
  cases settled with
  | unstarted point generator =>
      rw [point] at terminated
      cases terminated
  | suspended state point generator =>
      rw [point] at terminated
      cases terminated
  | finished point closed => exact closed

theorem Abandoned.not_leavesNothing {it : Iteration σ} (abandoned : Abandoned it) :
    ¬ it.LeavesNothing := by
  obtain ⟨state, generator⟩ := abandoned.suspended
  intro nothing
  cases nothing abandoned.point _ generator

/-- What an action leads to: nothing is left suspended if it meets the condition, and the
sync generator is abandoned if not. -/
inductive Outcome (after : Iteration σ) : Bool → Prop
  | settled (settled : Settled after) : Outcome after true
  | abandoned (abandoned : Abandoned after) : Outcome after false

variable {setup bridge gen} {it : Iteration σ}

theorem round_outcome {state : σ} {sent : Option S} (resumes : it.Resumes gen state sent)
    (cancelled : Bool) :
    Outcome (setup.round bridge cancelled gen it sent).2
      (!(cancelled && suspends (setup.reaction gen it state sent))) := by
  cases reacts : setup.reaction gen it state sent with
  | mk step ctx =>
    cases step with
    | yielded value next =>
        cases cancelled with
        | false =>
            rw [round_yielded resumes reacts]
            exact .settled (.suspended next rfl rfl)
        | true =>
            rw [round_cancelled resumes reacts]
            exact .abandoned ⟨rfl, next, rfl⟩
    | returned =>
        rw [round_returned resumes reacts]
        simp only [suspends, Bool.and_false, Bool.not_false]
        exact .settled (.finished rfl fun _ same => (Option.some.inj same).symm)
    | raised exc =>
        obtain ⟨raised, ended⟩ := round_raised bridge cancelled resumes reacts
        rw [ended]
        simp only [suspends, Bool.and_false, Bool.not_false]
        exact .settled (.finished rfl fun _ same => (Option.some.inj same).symm)

theorem asend_outcome (settled : Settled it) (sent : Option S) (cancelled : Bool) :
    Outcome (setup.asend bridge cancelled gen it sent).2
      (setup.Closes gen it (.asend sent cancelled)) := by
  cases settled with
  | unstarted point generator =>
      cases sent with
      | none =>
          rw [asend_first point]
          simp only [Setup.Closes, point]
          exact round_outcome (.inl ⟨generator, rfl, rfl⟩) cancelled
      | some value =>
          rw [asend_early point]
          simp only [Setup.Closes, point]
          exact .settled (.unstarted point generator)
  | suspended state point generator =>
      rw [asend_later point]
      simp only [Setup.Closes, point, generator]
      exact round_outcome (.inr generator) cancelled
  | finished point closed =>
      rw [asend_finished point]
      simp only [Setup.Closes, point]
      exact .settled (.finished point closed)

theorem closeResult_frame (reaction : GenStep σ V × Context) :
    if suspends reaction then
      ∃ state, (closeResult reaction).frame = .suspended state
    else (closeResult reaction).frame = .finished := by
  obtain ⟨step, ctx⟩ := reaction
  cases step with
  | yielded value next => exact ⟨next, rfl⟩
  | returned => rfl
  | raised exc =>
      simp only [suspends, Bool.false_eq_true, if_false, closeResult]
      split <;> rfl

theorem closing_outcome {state : σ} (point : it.point = .atYield)
    (generator : it.generator = some (.suspended state)) {exc : Exc}
    (exit : exc.isA .generatorExit = true) (cancelled : Bool) :
    Outcome (setup.athrow bridge cancelled gen it exc).2
      (!suspends (setup.closeReaction gen it state)) := by
  have frame := closeResult_frame (setup.closeReaction gen it state)
  have closes := athrow_closes setup bridge cancelled gen point generator exc exit
  have closed : (setup.athrow bridge cancelled gen it exc).2.point = .finished ∧
      (setup.athrow bridge cancelled gen it exc).2.generator =
        some (closeResult (setup.closeReaction gen it state)).frame := by
    rw [closes]
    dsimp only
    split <;> exact ⟨rfl, rfl⟩
  cases yields : suspends (setup.closeReaction gen it state) with
  | true =>
      rw [yields, if_pos rfl] at frame
      obtain ⟨next, same⟩ := frame
      exact .abandoned ⟨closed.1, next, closed.2.trans (congrArg some same)⟩
  | false =>
      rw [yields] at frame
      refine .settled (.finished closed.1 fun other found => ?_)
      exact (Option.some.inj (found.symm.trans closed.2)).trans frame

theorem athrow_outcome (setup : Setup) (bridge : Bool) (gen : SyncGen σ S V)
    (settled : Settled it) (exc : Exc) (cancelled : Bool) :
    Outcome (setup.athrow bridge cancelled gen it exc).2
      (setup.Closes gen it (.athrow exc cancelled : Action S)) := by
  cases settled with
  | unstarted point generator =>
      simp only [Setup.Closes, Setup.athrow, point]
      exact .settled (.finished rfl fun frame found => by simp [generator] at found)
  | finished point closed =>
      simp only [Setup.Closes, Setup.athrow, point]
      exact .settled (.finished point closed)
  | suspended state point generator =>
      simp only [Setup.Closes, point, generator]
      cases exit : exc.isA .generatorExit with
      | true =>
          rw [Bool.true_and]
          exact closing_outcome point generator exit cancelled
      | false =>
          rw [athrow_other setup bridge cancelled gen point generator exc exit, Bool.false_and]
          exact .abandoned ⟨rfl, state, generator⟩

theorem act_outcome (setup : Setup) (bridge : Bool) (gen : SyncGen σ S V)
    (settled : Settled it) (action : Action S) :
    Outcome (setup.act bridge gen it action) (setup.Closes gen it action) := by
  cases action with
  | asend sent cancelled => exact asend_outcome settled sent cancelled
  | athrow exc cancelled => exact athrow_outcome setup bridge gen settled exc cancelled
  | aclose cancelled =>
      have same : (setup.aclose bridge cancelled gen it).2 =
          (setup.athrow bridge cancelled gen it (.of .generatorExit "")).2 := by
        simp only [Setup.aclose]
        split
        · next thrown =>
            rw [thrown]
        · next thrown =>
            rw [thrown]
            split <;> rfl
      have outcome := athrow_outcome setup bridge gen settled (.of .generatorExit "") cancelled
      rw [Setup.act, same]
      exact outcome

def Setup.TurnCloses (setup : Setup) (gen : SyncGen σ S V) (it : Iteration σ)
    (turn : Turn S) : Prop :=
  setup.Closes gen { it with ctx := turn.ctx } turn.action = true

theorem Settled.withCtx (settled : Settled it) (ctx : Context) :
    Settled { it with ctx := ctx } := by
  cases settled with
  | unstarted point generator => exact .unstarted point generator
  | suspended state point generator => exact .suspended state point generator
  | finished point closed => exact .finished point closed

/-- In every run, the sync generator is finished whenever the async one has terminated
exactly when every action of the run meets the condition. -/
theorem generator_closed_iff (setup : Setup) (bridge : Bool) (gen : SyncGen σ S V)
    (ctx : Context) {history : List (Iteration σ × Turn S)} {it : Iteration σ}
    (run : Reaches (setup.take bridge gen) (.start ctx) history it) :
    ((∀ taken ∈ history, taken.1.LeavesNothing) ∧ it.LeavesNothing) ↔
      ∀ taken ∈ history, setup.TurnCloses gen taken.1 taken.2 := by
  have starts : Settled (.start ctx : Iteration σ) := .unstarted rfl rfl
  refine run.good_states_iff starts starts.leavesNothing ?_ ?_
  · intro it turn after settled closes taken
    cases taken
    have outcome := act_outcome setup bridge gen (settled.withCtx turn.ctx) turn.action
    have met : setup.Closes gen { it with ctx := turn.ctx } turn.action = true := closes
    rw [met] at outcome
    cases outcome with
    | settled settled => exact settled
  · intro it turn after settled taken
    cases taken
    have outcome := act_outcome setup bridge gen (settled.withCtx turn.ctx) turn.action
    unfold Setup.TurnCloses
    cases closes : setup.Closes gen { it with ctx := turn.ctx } turn.action with
    | true =>
        rw [closes] at outcome
        cases outcome with
        | settled settled => exact iff_of_true settled.leavesNothing rfl
    | false =>
        rw [closes] at outcome
        cases outcome with
        | abandoned abandoned => exact iff_of_false abandoned.not_leavesNothing nofun

def yieldsTwice : SyncGen Nat Unit Nat where
  initial := 0
  resume _ ctx state _ := (if state < 2 then .yielded state (state + 1) else .returned, ctx)
  close _ ctx _ := (.raised (.of .generatorExit ""), ctx)

def anyLoop : Setup := ⟨0, id, fun _ => ""⟩

def inContext (action : Action Unit) : Turn Unit := ⟨.empty, action⟩

theorem generator_closed_iff_early : ∃ history it,
    Reaches (anyLoop.take false yieldsTwice) (.start .empty) history it ∧
      (((∀ taken ∈ history, taken.1.LeavesNothing) ∧ it.LeavesNothing) ↔
        ∀ taken ∈ history, anyLoop.TurnCloses yieldsTwice taken.1 taken.2) := by
  have initial : Reaches (anyLoop.take false yieldsTwice) (.start .empty) [] (.start .empty) :=
    .start
  have run := initial.follow
    ([.asend none false, .asend (some ()) false, .aclose false].map inContext) rfl
  exact ⟨_, _, run, generator_closed_iff anyLoop false yieldsTwice .empty run⟩

/-- A ValueError thrown in at the first `yield` leaves the generator suspended there, and
a second step that is cancelled and yields leaves it suspended at the second. -/
theorem iterate_threaded_abandons :
    (∃ history it, Reaches (anyLoop.take false yieldsTwice) (.start .empty) history it ∧
      it.point = .finished ∧ it.generator = some (.suspended 1)) ∧
    ∃ history it, Reaches (anyLoop.take false yieldsTwice) (.start .empty) history it ∧
      it.point = .finished ∧ it.generator = some (.suspended 2) := by
  have initial : Reaches (anyLoop.take false yieldsTwice) (.start .empty) [] (.start .empty) :=
    .start
  have thrown := initial.follow
    ([.asend none false, .athrow (.of .valueError "") false].map inContext) rfl
  have cancelled := initial.follow ([.asend none false, .asend none true].map inContext) rfl
  exact ⟨⟨_, _, thrown, rfl, rfl⟩, ⟨_, _, cancelled, rfl, rfl⟩⟩

end Koil.Iterating
