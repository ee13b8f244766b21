import Koil.Tracebacks
import Koil.Worklist
import Mathlib.Data.Fin.VecNotation
import Mathlib.Data.Fintype.Basic

/-! `prune_traceback` on an exception and all that are chained to it.

Exceptions are told apart by their `id`, and any graph of `__cause__` and `__context__` may
be between them. -/

namespace Koil.ExceptionGraphs

open Pruning

variable {ι α : Type}

/-- An exception of a frozen dataclass is not `assignable`: it refuses an assignment to its
`__traceback__`. -/
@[ext]
structure Exceptions (ι α : Type) where
  traceback : ι → List α
  cause : ι → Option ι
  context : ι → Option ι
  assignable : ι → Bool

def Exceptions.Reaches (excs : Exceptions ι α) (exc node : ι) : Prop :=
  Relation.ReflTransGen
    (fun earlier later => excs.cause earlier = some later ∨ excs.context earlier = some later)
    exc node

variable (isHidden : α → Bool)

section model

variable [DecidableEq ι]

/-- `_prune_one`, or `none` where the assignment to `__traceback__` raises. -/
def pruneOne (exc : ι) (keepBoundary : Bool) (excs : Exceptions ι α) :
    Option (Exceptions ι α) :=
  let survivors := kept isHidden keepBoundary 0 (excs.traceback exc)
  if survivors.length ≤ (if keepBoundary then 1 else 0) then some excs
  else if excs.assignable exc then
    some { excs with traceback := Function.update excs.traceback exc survivors }
  else none

/-- The `while` loop of `prune_traceback` with the top of the stack first, if it pops no more
than `fuel` items. -/
def pruneStack : Nat → List (Option ι × Bool) → List ι → Exceptions ι α →
    Option (Exceptions ι α)
  | _, [], _, excs => some excs
  | 0, _ :: _, _, _ => none
  | fuel + 1, (none, _) :: stack, seen, excs => pruneStack fuel stack seen excs
  | fuel + 1, (some current, keep) :: stack, seen, excs =>
      if current ∈ seen then pruneStack fuel stack seen excs
      else
        -- `except Exception: pass`
        let excs := (pruneOne isHidden current keep excs).getD excs
        pruneStack fuel ((excs.context current, false) :: (excs.cause current, false) :: stack)
          (current :: seen) excs

def pruneTraceback (fuel : Nat) (exc : ι) (keepBoundary : Bool) (excs : Exceptions ι α) :
    Option (Exceptions ι α) :=
  pruneStack isHidden fuel [(some exc, keepBoundary)] [] excs

/-- The call comes to its end and leaves the exceptions so. -/
def Prunes (exc : ι) (keepBoundary : Bool) (excs after : Exceptions ι α) : Prop :=
  ∃ items, ∀ fuel, items ≤ fuel → pruneTraceback isHidden fuel exc keepBoundary excs = some after

end model

def Exceptions.links (excs : Exceptions ι α) (exc : ι) : List (Option ι × Bool) :=
  [(excs.context exc, false), (excs.cause exc, false)]

variable {excs after : Exceptions ι α} {exc : ι} {keepBoundary : Bool}

theorem edge_links_iff (node successor : ι) : Worklist.Edge excs.links node successor ↔
    excs.cause node = some successor ∨ excs.context node = some successor := by
  simp [Worklist.Edge, Exceptions.links, eq_comm, or_comm]

theorem reachable_links_iff (node : ι) :
    Worklist.Reachable excs.links exc node ↔ excs.Reaches exc node := by
  have same : Worklist.Edge excs.links = fun earlier later =>
      excs.cause earlier = some later ∨ excs.context earlier = some later := by
    funext node successor
    exact propext (edge_links_iff node successor)
  rw [Worklist.Reachable, same, Exceptions.Reaches]

section visits

variable [DecidableEq ι] {visits : List (ι × Bool)}

def visit (excs : Exceptions ι α) (node : ι × Bool) : Exceptions ι α :=
  (pruneOne isHidden node.1 node.2 excs).getD excs

def Exceptions.pruned (excs : Exceptions ι α) (node : ι) (keep : Bool) : List α :=
  if excs.assignable node then prune isHidden keep (excs.traceback node) else excs.traceback node

variable {isHidden}

theorem visit_eq (excs : Exceptions ι α) (node : ι × Bool) : visit isHidden excs node =
    { excs with traceback :=
        Function.update excs.traceback node.1 (excs.pruned isHidden node.1 node.2) } := by
  unfold visit pruneOne Exceptions.pruned prune
  by_cases few : (kept isHidden node.2 0 (excs.traceback node.1)).length ≤ if node.2 then 1 else 0
  · simp [few]
  · cases writable : excs.assignable node.1 with
    | false => simp [few]
    | true => simp [few]

theorem visit_links (excs : Exceptions ι α) (node : ι × Bool) :
    (visit isHidden excs node).links = excs.links := by
  rw [visit_eq]
  rfl

theorem pruneStack_fresh {fuel : Nat} {stack : List (Option ι × Bool)} {seen : List ι}
    {excs : Exceptions ι α} {current : ι} (keep : Bool) (fresh : current ∉ seen) :
    pruneStack isHidden (fuel + 1) ((some current, keep) :: stack) seen excs =
      pruneStack isHidden fuel ((visit isHidden excs (current, keep)).links current ++ stack)
        (current :: seen) (visit isHidden excs (current, keep)) := by
  rw [pruneStack, if_neg fresh]
  rfl

theorem pruneStack_eq (fuel : Nat) (stack : List (Option ι × Bool)) (seen : List ι)
    (excs : Exceptions ι α) : pruneStack isHidden fuel stack seen excs =
      (Worklist.order excs.links fuel stack seen).map
        fun visits => visits.foldl (visit isHidden) excs := by
  induction fuel generalizing stack seen excs with
  | zero => cases stack <;> rfl
  | succ fuel ih =>
      cases stack with
      | nil => rfl
      | cons item stack =>
          obtain ⟨node, keep⟩ := item
          cases node with
          | none => exact ih stack seen excs
          | some current =>
              by_cases visited : current ∈ seen
              · rw [Worklist.order_seen keep visited, ← ih stack seen excs]
                simp [pruneStack, visited]
              · rw [Worklist.order_fresh keep visited, Option.map_map]
                rw [pruneStack_fresh keep visited, visit_links]
                have rest := ih (excs.links current ++ stack) (current :: seen)
                  (visit isHidden excs (current, keep))
                rw [visit_links] at rest
                exact rest

theorem foldl_links (visits : List (ι × Bool)) (excs : Exceptions ι α) :
    (visits.foldl (visit isHidden) excs).cause = excs.cause ∧
      (visits.foldl (visit isHidden) excs).context = excs.context ∧
      (visits.foldl (visit isHidden) excs).assignable = excs.assignable := by
  induction visits generalizing excs with
  | nil => exact ⟨rfl, rfl, rfl⟩
  | cons first visits ih =>
      obtain ⟨cause, context, assignable⟩ := ih (visit isHidden excs first)
      rw [visit_eq] at cause context assignable
      rw [List.foldl_cons, visit_eq]
      exact ⟨cause, context, assignable⟩

theorem visit_other {node : ι} {first : ι × Bool} (excs : Exceptions ι α)
    (other : node ≠ first.1) :
    (visit isHidden excs first).traceback node = excs.traceback node := by
  rw [visit_eq]
  exact Function.update_of_ne other _ _

theorem foldl_unvisited {node : ι} (visits : List (ι × Bool)) (excs : Exceptions ι α)
    (unvisited : node ∉ visits.map Prod.fst) :
    (visits.foldl (visit isHidden) excs).traceback node = excs.traceback node := by
  induction visits generalizing excs with
  | nil => rfl
  | cons first visits ih =>
      rw [List.map_cons, List.mem_cons, not_or] at unvisited
      rw [List.foldl_cons, ih _ unvisited.2, visit_other excs unvisited.1]

theorem foldl_visited (visits : List (ι × Bool)) (excs : Exceptions ι α)
    (once : (visits.map Prod.fst).Nodup) {node : ι} {keep : Bool}
    (visited : (node, keep) ∈ visits) :
    (visits.foldl (visit isHidden) excs).traceback node = excs.pruned isHidden node keep := by
  induction visits generalizing excs with
  | nil => cases visited
  | cons first visits ih =>
      rw [List.map_cons, List.nodup_cons] at once
      rw [List.foldl_cons]
      rcases List.mem_cons.mp visited with rfl | later
      · rw [foldl_unvisited visits _ once.1, visit_eq]
        exact Function.update_self ..
      · have other : node ≠ first.1 := by
          rintro rfl
          exact once.1 (List.mem_map.mpr ⟨_, later, rfl⟩)
        have same : (visit isHidden excs first).assignable = excs.assignable := by
          rw [visit_eq]
        rw [ih _ once.2 later, Exceptions.pruned, visit_other excs other, same, Exceptions.pruned]

theorem order_tag {fuel : Nat} {node : ι}
    (walk : Worklist.order excs.links fuel [(some exc, keepBoundary)] [] = some visits)
    (visited : node ∈ visits.map Prod.fst) :
    (node, keepBoundary && decide (node = exc)) ∈ visits := by
  obtain ⟨later, rfl, first, pushed⟩ := Worklist.order_root walk
  rw [List.map_cons, List.mem_cons] at visited
  rcases visited with rfl | visited
  · simp
  · have apart : node ≠ exc := fun same => first (same ▸ visited)
    obtain ⟨⟨_, keep⟩, member, rfl⟩ := List.mem_map.mp visited
    obtain ⟨source, onTop⟩ := pushed _ member
    have bare : keep = false := by
      simp only [Exceptions.links, List.mem_cons, Prod.mk.injEq, List.not_mem_nil] at onTop
      rcases onTop with ⟨_, bare⟩ | ⟨_, bare⟩ | impossible
      · exact bare
      · exact bare
      · exact impossible.elim
    rw [decide_eq_false apart, Bool.and_false]
    rw [bare] at member
    exact List.mem_cons_of_mem _ member

variable (isHidden)

/-- What a call does, for any graph in which the chain of `exc` is finite: it visits the
exceptions in the chain, and the boundary is that of `exc` alone. -/
theorem exists_visits (excs : Exceptions ι α) (keepBoundary : Bool)
    (finite : {node | excs.Reaches exc node}.Finite) : ∃ visits : List (ι × Bool),
      (visits.map Prod.fst).Nodup ∧
      (∀ node, node ∈ visits.map Prod.fst ↔ excs.Reaches exc node) ∧
      (∀ node ∈ visits.map Prod.fst, (node, keepBoundary && decide (node = exc)) ∈ visits) ∧
      Prunes isHidden exc keepBoundary excs (visits.foldl (visit isHidden) excs) := by
  have reachable : {node | Worklist.Reachable excs.links exc node}.Finite := by
    simpa only [reachable_links_iff] using finite
  have narrow : ∀ node, (excs.links node).length ≤ 2 := fun node => Nat.le_refl 2
  obtain ⟨visits, walk⟩ := Worklist.order_ends_of_finite keepBoundary 2 reachable narrow
  have ends : Prunes isHidden exc keepBoundary excs (visits.foldl (visit isHidden) excs) := by
    refine ⟨2 * reachable.toFinset.card + 1, ?_⟩
    intro fuel enough
    rw [pruneTraceback, pruneStack_eq, Worklist.order_mono walk enough]
    rfl
  refine ⟨visits, (Worklist.order_walked walk).once, ?_, ?_, ends⟩
  · intro node
    rw [Worklist.mem_order_iff walk, reachable_links_iff]
  · exact fun node visited => order_tag walk visited

theorem prunes_chain (excs : Exceptions ι α) (keepBoundary : Bool)
    (finite : {node | excs.Reaches exc node}.Finite) :
    ∃ after, Prunes isHidden exc keepBoundary excs after ∧
      (∀ node, excs.Reaches exc node →
        after.traceback node = excs.pruned isHidden node (keepBoundary && decide (node = exc))) ∧
      (∀ node, ¬ excs.Reaches exc node → after.traceback node = excs.traceback node) ∧
      after.cause = excs.cause ∧ after.context = excs.context ∧
      after.assignable = excs.assignable := by
  obtain ⟨visits, once, reached, tagged, ends⟩ :=
    exists_visits isHidden excs keepBoundary finite
  refine ⟨_, ends, ?_, ?_, foldl_links visits excs⟩
  · intro node inChain
    exact foldl_visited visits excs once (tagged node ((reached node).mpr inChain))
  · intro node outside
    exact foldl_unvisited visits excs fun visited => outside ((reached node).mp visited)

end visits

section pruned

variable {isHidden} (node : ι) (keep : Bool)

end pruned

theorem prunes_root [DecidableEq ι] {excs : Exceptions ι Tracebacks.Entry} {exc : ι}
    (finite : {node | excs.Reaches exc node}.Finite) (keepBoundary : Bool) :
    ∃ after, Prunes Tracebacks.isHidden exc keepBoundary excs after ∧
      after.traceback exc =
        Tracebacks.pruneTraceback (excs.assignable exc) keepBoundary (excs.traceback exc) := by
  obtain ⟨after, ends, inside, _⟩ :=
    prunes_chain Tracebacks.isHidden excs keepBoundary finite
  refine ⟨after, ends, ?_⟩
  rw [inside exc .refl, decide_eq_true rfl, Bool.and_true, Tracebacks.pruneTraceback,
    Exceptions.pruned]

end Koil.ExceptionGraphs
