import Mathlib.Logic.Basic
import Mathlib.Data.List.Basic

/-! Runs of a partial step function, with the state before every step kept.

The history of a run lists each step's state and label, the latest first, so
that a condition on steps can look at the state in which the step was taken. -/

namespace Koil.Runs

variable {State Label : Type}

/-- `Reaches step init history s`: the steps of `history` lead from `init` to `s`. -/
inductive Reaches (step : State → Label → Option State) (init : State) :
    List (State × Label) → State → Prop
  | start : Reaches step init [] init
  | next {history : List (State × Label)} {s s' : State} {label : Label}
      (before : Reaches step init history s) (taken : step s label = some s') :
      Reaches step init ((s, label) :: history) s'

variable {step : State → Label → Option State} {init : State}

theorem Reaches.trans {history history' : List (State × Label)} {s s' : State}
    (before : Reaches step init history s) (after : Reaches step s history' s') :
    Reaches step init (history' ++ history) s' := by
  induction after with
  | start => exact before
  | next _ taken ih => exact ih.next taken

def Leads (step : State → Label → Option State) (s s' : State) : Prop :=
  ∃ history, Reaches step s history s'

theorem Leads.refl (s : State) : Leads step s s := ⟨[], .start⟩

theorem Leads.trans {s t u : State} (first : Leads step s t) (next : Leads step t u) :
    Leads step s u := by
  obtain ⟨history, before⟩ := first
  obtain ⟨history', after⟩ := next
  exact ⟨history' ++ history, before.trans after⟩

theorem Leads.of_step {s s' : State} (label : Label) (taken : step s label = some s') :
    Leads step s s' := ⟨[(s, label)], .next .start taken⟩

/-- What holds initially and is kept by the steps that meet a condition holds
at the end of every run whose steps all meet it. -/
theorem Reaches.guarded_invariant {Inv : State → Prop} {Meets : State → Label → Prop}
    (initial : Inv init)
    (preserved : ∀ s label s', Inv s → Meets s label → step s label = some s' → Inv s')
    {history : List (State × Label)} {s : State} (run : Reaches step init history s)
    (met : ∀ taken ∈ history, Meets taken.1 taken.2) : Inv s := by
  induction run with
  | start => exact initial
  | @next history s s' label before taken ih =>
      have earlier : Inv s := ih (fun step member => met step (List.mem_cons_of_mem _ member))
      exact preserved s label s' earlier (met (s, label) List.mem_cons_self) taken

theorem Reaches.invariant {Inv : State → Prop} (initial : Inv init)
    (preserved : ∀ s label s', Inv s → step s label = some s' → Inv s')
    {history : List (State × Label)} {s : State} (run : Reaches step init history s) : Inv s :=
  guarded_invariant initial
    (fun s label s' held (_ : True) taken => preserved s label s' held taken) run
    (fun _ _ => trivial)

/-- What follows for a step from an invariant holds of all steps of a run that meets the
condition under which the invariant is kept. -/
theorem Reaches.guarded_steps {Inv : State → Prop} {Meets P : State → Label → Prop}
    (initial : Inv init)
    (preserved : ∀ s label s', Inv s → Meets s label → step s label = some s' → Inv s')
    (good : ∀ s label s', Inv s → step s label = some s' → P s label)
    {history : List (State × Label)} {s : State} (run : Reaches step init history s)
    (met : ∀ taken ∈ history, Meets taken.1 taken.2) : ∀ taken ∈ history, P taken.1 taken.2 := by
  induction run with
  | start => exact fun _ member => absurd member List.not_mem_nil
  | @next history s s' label before taken ih =>
      rw [List.forall_mem_cons] at met ⊢
      have held : Inv s := before.guarded_invariant initial preserved met.2
      exact ⟨good s label s' held taken, ih met.2⟩

/-- Every step of a run was taken in a state which an earlier part of it reaches. -/
theorem Reaches.at_step {history : List (State × Label)} {s : State}
    (run : Reaches step init history s) {taken : State × Label} (member : taken ∈ history) :
    ∃ earlier, Reaches step init earlier taken.1 ∧ ∃ s', step taken.1 taken.2 = some s' := by
  induction run with
  | start => cases member
  | @next history s s' label before taken ih =>
      rcases List.mem_cons.mp member with rfl | member
      · exact ⟨history, before, s', taken⟩
      · exact ih member

/-- Two conditions which agree on every step that a run can take agree on whole runs. -/
theorem Reaches.forall_steps_congr {P Q : State → Label → Prop}
    (agree : ∀ earlier s label s', Reaches step init earlier s → step s label = some s' →
      (P s label ↔ Q s label))
    {history : List (State × Label)} {s : State} (run : Reaches step init history s) :
    (∀ taken ∈ history, P taken.1 taken.2) ↔ (∀ taken ∈ history, Q taken.1 taken.2) := by
  constructor
  · intro held taken member
    obtain ⟨earlier, reached, s', stepped⟩ := run.at_step member
    exact (agree earlier taken.1 taken.2 s' reached stepped).mp (held taken member)
  · intro held taken member
    obtain ⟨earlier, reached, s', stepped⟩ := run.at_step member
    exact (agree earlier taken.1 taken.2 s' reached stepped).mpr (held taken member)

/-- Where a step leads to a good state exactly when it meets a condition, all states of
a run are good exactly when all of its steps meet it. The invariant is needed of the
states before the first step that does not. -/
theorem Reaches.good_states_iff {Inv Good : State → Prop} {Meets : State → Label → Prop}
    (initial : Inv init) (goodInit : Good init)
    (preserved : ∀ s label s', Inv s → Meets s label → step s label = some s' → Inv s')
    (agree : ∀ s label s', Inv s → step s label = some s' → (Good s' ↔ Meets s label))
    {history : List (State × Label)} {s : State} (run : Reaches step init history s) :
    ((∀ taken ∈ history, Good taken.1) ∧ Good s) ↔
      ∀ taken ∈ history, Meets taken.1 taken.2 := by
  induction run with
  | start => simp [goodInit]
  | @next history s s' label before taken ih =>
      rw [List.forall_mem_cons, List.forall_mem_cons]
      constructor
      · rintro ⟨⟨good, earlier⟩, last⟩
        have met := ih.mp ⟨earlier, good⟩
        have held : Inv s := before.guarded_invariant initial preserved met
        exact ⟨(agree s label s' held taken).mp last, met⟩
      · rintro ⟨now, met⟩
        have held : Inv s := before.guarded_invariant initial preserved met
        have good := ih.mpr met
        exact ⟨⟨good.2, good.1⟩, (agree s label s' held taken).mpr now⟩

def follow (step : State → Label → Option State) :
    List (State × Label) → State → List Label → Option (List (State × Label) × State)
  | history, s, [] => some (history, s)
  | history, s, label :: labels =>
      (step s label).bind fun s' => follow step ((s, label) :: history) s' labels

theorem Reaches.follow {history : List (State × Label)} {s : State}
    (run : Reaches step init history s) (labels : List Label) {history' : List (State × Label)}
    {s' : State} (followed : Runs.follow step history s labels = some (history', s')) :
    Reaches step init history' s' := by
  induction labels generalizing history s with
  | nil =>
      cases followed
      exact run
  | cons label labels ih =>
      cases taken : step s label with
      | none => simp [Runs.follow, taken] at followed
      | some after =>
          simp only [Runs.follow, taken, Option.bind_some] at followed
          exact ih (run.next taken) followed

/-- A run by its labels, each of which meets a condition. -/
theorem followed_run (step : State → Label → Option State) (init : State) {P : Label → Prop}
    {labels : List Label} {history : List (State × Label)} {s : State}
    (labelled : ∀ label ∈ labels, P label)
    (followed : Runs.follow step [] init labels = some (history, s)) :
    Reaches step init history s ∧ ∀ taken ∈ history, P taken.2 := by
  have kept : ∀ (labels : List Label) (before : List (State × Label)) (t : State),
      (∀ label ∈ labels, P label) → (∀ taken ∈ before, P taken.2) →
      Runs.follow step before t labels = some (history, s) → ∀ taken ∈ history, P taken.2 := by
    intro labels
    induction labels with
    | nil =>
        intro before t _ met same
        cases same
        exact met
    | cons label labels ih =>
        intro before t labelled met same
        rw [List.forall_mem_cons] at labelled
        cases taken : step t label with
        | none => simp [Runs.follow, taken] at same
        | some after =>
            simp only [Runs.follow, taken, Option.bind_some] at same
            apply ih _ _ labelled.2 _ same
            rw [List.forall_mem_cons]
            exact ⟨labelled.1, met⟩
  exact ⟨Reaches.start.follow labels followed, kept labels [] init labelled nofun followed⟩

end Koil.Runs
