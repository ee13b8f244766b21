import Koil.Runs
import Mathlib.Algebra.Order.Group.Defs

/-! Systems in time. Steps take no time, and time passes only as far as no step is overdue:
every state says by when it has to be left, if at all. -/

namespace Koil.Timed

open Runs

variable {State Label τ : Type}

/-- What a step at a time leads to, and the time up to which a state may last. -/
structure System (State Label τ : Type) where
  step : τ → State → Label → Option State
  latest : τ → State → Option τ

inductive Action (Label τ : Type) where
  | act (label : Label)
  | elapse (duration : τ)

variable [AddCommGroup τ] [LinearOrder τ]

def System.next (system : System State Label τ) (at_ : τ × State) :
    Action Label τ → Option (τ × State)
  | .act label => (system.step at_.1 at_.2 label).map fun s => (at_.1, s)
  | .elapse duration =>
      if 0 ≤ duration ∧ ∀ limit ∈ system.latest at_.1 at_.2, at_.1 + duration ≤ limit then
        some (at_.1 + duration, at_.2)
      else none

def System.Runs (system : System State Label τ) (begun : τ) (init : State) (now : τ) (s : State) :
    Prop :=
  ∃ history, Reaches system.next (begun, init) history (now, s)

/-- Time may pass, or a step is possible: a state from which nothing goes on is none in
which time stands still. -/
def System.Free (system : System State Label τ) (now : τ) (s : State) : Prop :=
  (∃ label, (system.step now s label).isSome = true) ∨ ∀ limit ∈ system.latest now s, now < limit

variable {system : System State Label τ} {begun now : τ} {init s : State}

def earliest : Option τ → Option τ → Option τ
  | some a, some b => some (min a b)
  | some a, none => some a
  | none, due => due

omit [AddCommGroup τ] in
theorem le_earliest_iff {a b : Option τ} {time : τ} :
    (∀ limit ∈ earliest a b, time ≤ limit) ↔
      (∀ limit ∈ a, time ≤ limit) ∧ ∀ limit ∈ b, time ≤ limit := by
  cases a <;> cases b <;> simp [earliest]

omit [AddCommGroup τ] in
theorem lt_earliest_iff {a b : Option τ} {time : τ} :
    (∀ limit ∈ earliest a b, time < limit) ↔
      (∀ limit ∈ a, time < limit) ∧ ∀ limit ∈ b, time < limit := by
  cases a <;> cases b <;> simp [earliest]

def At (Inv : τ → State → Prop) (at_ : τ × State) : Prop := Inv at_.1 at_.2

/-- An invariant of state and time is kept by the steps and by time that passes. -/
theorem System.Runs.invariant {Inv : τ → State → Prop} (initial : Inv begun init)
    (acts : ∀ now s label s', Inv now s → system.step now s label = some s' → Inv now s')
    (elapses : ∀ now s duration, Inv now s → 0 ≤ duration →
      (∀ limit ∈ system.latest now s, now + duration ≤ limit) → Inv (now + duration) s)
    (run : system.Runs begun init now s) : Inv now s := by
  obtain ⟨history, reached⟩ := run
  have preserved : ∀ before action after, At Inv before → system.next before action = some after →
      At Inv after := by
    intro before action after held taken
    cases action with
    | act label =>
        obtain ⟨s', stepped, rfl⟩ := Option.map_eq_some_iff.mp taken
        exact acts before.1 before.2 label s' held stepped
    | elapse duration =>
        obtain ⟨⟨forward, inTime⟩, moved⟩ := Option.ite_none_right_eq_some.mp taken
        cases moved
        exact elapses before.1 before.2 duration held forward inTime
  have held : At Inv (now, s) :=
    reached.invariant (show At Inv (begun, init) from initial) preserved
  exact held

/-- Forgetting the time gives a run of any system whose steps these are. -/
theorem System.Runs.untimed {Untimed Act : Type} {plain : Untimed → Act → Option Untimed}
    (forget : State → Untimed) (same : Label → Act)
    (steps : ∀ now s label s', system.step now s label = some s' →
      plain (forget s) (same label) = some (forget s'))
    (run : system.Runs begun init now s) : Leads plain (forget init) (forget s) := by
  apply run.invariant
  · exact Leads.refl (forget init)
  · intro now s label s' led taken
    exact led.trans (.of_step (same label) (steps now s label s' taken))
  · intro now s duration led _ _
    exact led

theorem System.Runs.start : system.Runs begun init begun init := ⟨[], .start⟩

theorem System.Runs.act {label : Label} {s' : State} (run : system.Runs begun init now s)
    (taken : system.step now s label = some s') : system.Runs begun init now s' := by
  obtain ⟨history, reached⟩ := run
  have moved : system.next (now, s) (.act label) = some (now, s') := by simp [System.next, taken]
  exact ⟨_, reached.next moved⟩

theorem System.Runs.elapse {duration : τ} (run : system.Runs begun init now s)
    (forward : 0 ≤ duration) (inTime : ∀ limit ∈ system.latest now s, now + duration ≤ limit) :
    system.Runs begun init (now + duration) s := by
  obtain ⟨history, reached⟩ := run
  have moved : system.next (now, s) (.elapse duration) = some (now + duration, s) :=
    if_pos ⟨forward, inTime⟩
  exact ⟨_, reached.next moved⟩

end Koil.Timed
