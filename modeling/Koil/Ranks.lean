import Koil.Runs
import Mathlib.Algebra.BigOperators.Group.Finset.Basic
import Mathlib.Algebra.Order.BigOperators.Group.Finset

/-! Ranks: a run whose steps all lower one is bounded, and a table of parts is ranked
by the sum over its entries. -/

namespace Koil.Ranks

open Runs

section runs

variable {State Label : Type} {step : State → Label → Option State} {init : State}

/-- A run whose steps all lower a rank is no longer than the rank at its start. -/
theorem length_add_rank_le {Meets : State → Label → Prop} (rank : State → Nat)
    {Inv : State → Prop} (initial : Inv init)
    (preserved : ∀ s label s', Inv s → Meets s label → step s label = some s' → Inv s')
    (lowers : ∀ s label s', Inv s → Meets s label → step s label = some s' → rank s' < rank s)
    {history : List (State × Label)} {s : State} (run : Reaches step init history s)
    (met : ∀ taken ∈ history, Meets taken.1 taken.2) :
    history.length + rank s ≤ rank init := by
  induction run with
  | start => simp
  | @next history s s' label before taken ih =>
      rw [List.forall_mem_cons] at met
      have held : Inv s := before.guarded_invariant initial preserved met.2
      have lower : rank s' < rank s := lowers s label s' held met.1 taken
      have earlier : history.length + rank s ≤ rank init := ih met.2
      rw [List.length_cons]
      omega

end runs

section tables

variable {ι α : Type} [DecidableEq ι]

def total (rank : α → Nat) (entries : Finset ι) (table : ι → Option α) : Nat :=
  ∑ id ∈ entries, (table id).elim 0 rank

variable {rank : α → Nat} {entries : Finset ι} {table : ι → Option α} {id : ι} {before after : α}

theorem total_update_le (found : table id = some before) (le : rank after ≤ rank before) :
    total rank entries (Function.update table id (some after)) ≤ total rank entries table := by
  apply Finset.sum_le_sum
  intro other _
  by_cases same : other = id
  · subst same
    simpa [found] using le
  · simp [Function.update_of_ne same]

theorem total_update_lt (member : id ∈ entries) (found : table id = some before)
    (lt : rank after < rank before) :
    total rank entries (Function.update table id (some after)) < total rank entries table := by
  apply Finset.sum_lt_sum
  · intro other _
    by_cases same : other = id
    · subst same
      simpa [found] using lt.le
    · simp [Function.update_of_ne same]
  · exact ⟨id, member, by simpa [found] using lt⟩

end tables

end Koil.Ranks
