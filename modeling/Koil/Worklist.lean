import Mathlib.Data.Set.Card
import Mathlib.Logic.Relation
import Mathlib.Tactic.Linarith

/-! Walking a graph with a stack and the set of the nodes that have been visited.

What is on the stack may be nothing, or a node that was visited since; every item carries
a tag for the visit. -/

namespace Koil.Worklist

variable {ι τ : Type}

def Edge (next : ι → List (Option ι × τ)) (node successor : ι) : Prop :=
  ∃ tag, (some successor, tag) ∈ next node

/-- The nodes that a walk from `root` is to visit. -/
def Reachable (next : ι → List (Option ι × τ)) (root node : ι) : Prop :=
  Relation.ReflTransGen (Edge next) root node

/-- The visits of a walk in their order, with their tags, if `fuel` items are all there are;
`next` is what a visit puts on top of the stack. -/
def order [DecidableEq ι] (next : ι → List (Option ι × τ)) :
    Nat → List (Option ι × τ) → List ι → Option (List (ι × τ))
  | _, [], _ => some []
  | 0, _ :: _, _ => none
  | fuel + 1, (none, _) :: stack, seen => order next fuel stack seen
  | fuel + 1, (some node, tag) :: stack, seen =>
      if node ∈ seen then order next fuel stack seen
      else (order next fuel (next node ++ stack) (node :: seen)).map ((node, tag) :: ·)

variable {next : ι → List (Option ι × τ)} {fuel : Nat} {stack : List (Option ι × τ)}
  {seen : List ι} {visits : List (ι × τ)}

/-- What a walk does from a stack and a set of visited nodes: it visits what is not visited
yet, once, and leaves nothing on the stack and no successor of a visit unvisited. -/
structure Walked (next : ι → List (Option ι × τ)) (stack : List (Option ι × τ)) (seen : List ι)
    (visits : List (ι × τ)) : Prop where
  once : (visits.map Prod.fst).Nodup
  fresh : ∀ node ∈ visits.map Prod.fst, node ∉ seen
  cleared : ∀ node tag, (some node, tag) ∈ stack → node ∈ seen ∨ node ∈ visits.map Prod.fst
  closed : ∀ node ∈ visits.map Prod.fst, ∀ successor, Edge next node successor →
    successor ∈ seen ∨ successor ∈ visits.map Prod.fst
  pushed : ∀ visit ∈ visits,
    (some visit.1, visit.2) ∈ stack ∨ ∃ node ∈ visits.map Prod.fst,
      (some visit.1, visit.2) ∈ next node

theorem Walked.empty : Walked next [] seen [] where
  once := List.nodup_nil
  fresh node member := by cases member
  cleared node tag member := by cases member
  closed node member := by cases member
  pushed visit member := by cases member

theorem Walked.skip {item : Option ι × τ} (walked : Walked next stack seen visits)
    (done : ∀ node, item.1 = some node → node ∈ seen) :
    Walked next (item :: stack) seen visits where
  once := walked.once
  fresh := walked.fresh
  cleared node tag member := by
    rcases List.mem_cons.mp member with here | later
    · exact .inl (done node (congrArg Prod.fst here).symm)
    · exact walked.cleared node tag later
  closed := walked.closed
  pushed visit member := (walked.pushed visit member).imp_left (List.mem_cons_of_mem _)

theorem Walked.visit {node : ι} {tag : τ} (fresh : node ∉ seen)
    (walked : Walked next (next node ++ stack) (node :: seen) visits) :
    Walked next ((some node, tag) :: stack) seen ((node, tag) :: visits) where
  once := by
    rw [List.map_cons, List.nodup_cons]
    exact ⟨fun again => walked.fresh node again List.mem_cons_self, walked.once⟩
  fresh other member := by
    rw [List.map_cons, List.mem_cons] at member
    rcases member with rfl | later
    · exact fresh
    · exact fun visited => walked.fresh other later (List.mem_cons_of_mem _ visited)
  cleared other otherTag member := by
    rcases List.mem_cons.mp member with here | later
    · cases here
      exact .inr (List.mem_cons_self ..)
    · have reached := walked.cleared other otherTag (List.mem_append_right _ later)
      simpa [or_comm, or_assoc, or_left_comm] using reached
  closed other member successor edge := by
    rw [List.map_cons, List.mem_cons] at member
    have reached : successor ∈ node :: seen ∨ successor ∈ visits.map Prod.fst := by
      rcases member with rfl | later
      · obtain ⟨pushedTag, onTop⟩ := edge
        exact walked.cleared successor pushedTag (List.mem_append_left _ onTop)
      · exact walked.closed other later successor edge
    simpa [or_comm, or_assoc, or_left_comm] using reached
  pushed visit member := by
    rcases List.mem_cons.mp member with rfl | later
    · exact .inl List.mem_cons_self
    · rcases walked.pushed visit later with waiting | ⟨other, visited, from_⟩
      · rcases List.mem_append.mp waiting with onTop | below
        · exact .inr ⟨node, List.mem_cons_self .., onTop⟩
        · exact .inl (List.mem_cons_of_mem _ below)
      · exact .inr ⟨other, List.mem_cons_of_mem _ visited, from_⟩

section walks

variable [DecidableEq ι]

theorem order_nothing (tag : τ) :
    order next (fuel + 1) ((none, tag) :: stack) seen = order next fuel stack seen := rfl

theorem order_seen {node : ι} (tag : τ) (visited : node ∈ seen) :
    order next (fuel + 1) ((some node, tag) :: stack) seen = order next fuel stack seen := by
  simp [order, visited]

theorem order_fresh {node : ι} (tag : τ) (fresh : node ∉ seen) :
    order next (fuel + 1) ((some node, tag) :: stack) seen =
      (order next fuel (next node ++ stack) (node :: seen)).map ((node, tag) :: ·) := by
  simp [order, fresh]

theorem order_walked (walk : order next fuel stack seen = some visits) :
    Walked next stack seen visits := by
  induction fuel generalizing stack seen visits with
  | zero =>
      cases stack with
      | nil =>
          cases walk
          exact .empty
      | cons item stack => cases walk
  | succ fuel ih =>
      cases stack with
      | nil =>
          cases walk
          exact .empty
      | cons item stack =>
          obtain ⟨node, tag⟩ := item
          cases node with
          | none => exact (ih walk).skip nofun
          | some node =>
              by_cases visited : node ∈ seen
              · rw [order_seen tag visited] at walk
                apply (ih walk).skip
                rintro _ ⟨⟩
                exact visited
              · rw [order_fresh tag visited] at walk
                obtain ⟨later, walked, rfl⟩ := Option.map_eq_some_iff.mp walk
                exact .visit visited (ih walked)

/-- What holds of the nodes on the stack and goes over to successors holds of all visits. -/
theorem order_invariant {P : ι → Prop} (walk : order next fuel stack seen = some visits)
    (onward : ∀ node successor, P node → Edge next node successor → P successor)
    (waiting : ∀ node tag, (some node, tag) ∈ stack → P node) :
    ∀ node ∈ visits.map Prod.fst, P node := by
  induction fuel generalizing stack seen visits with
  | zero =>
      cases stack with
      | nil =>
          cases walk
          simp
      | cons item stack => cases walk
  | succ fuel ih =>
      cases stack with
      | nil =>
          cases walk
          simp
      | cons item stack =>
          obtain ⟨node, tag⟩ := item
          have below : ∀ other otherTag, (some other, otherTag) ∈ stack → P other :=
            fun other otherTag member => waiting other otherTag (List.mem_cons_of_mem _ member)
          cases node with
          | none => exact ih walk below
          | some node =>
              by_cases visited : node ∈ seen
              · rw [order_seen tag visited] at walk
                exact ih walk below
              · rw [order_fresh tag visited] at walk
                obtain ⟨later, walked, rfl⟩ := Option.map_eq_some_iff.mp walk
                have here : P node := waiting node tag List.mem_cons_self
                have rest := ih walked fun other otherTag member => by
                  rcases List.mem_append.mp member with onTop | waits
                  · exact onward node other here ⟨otherTag, onTop⟩
                  · exact below other otherTag waits
                rw [List.map_cons, List.forall_mem_cons]
                exact ⟨here, rest⟩

/-- A walk in a finite part of the graph ends: every visit costs the item that led to it and
puts at most `width` items on the stack. -/
theorem order_ends (within : Finset ι) (width : Nat)
    (onward : ∀ node ∈ within, ∀ successor, Edge next node successor → successor ∈ within)
    (narrow : ∀ node ∈ within, (next node).length ≤ width)
    (waiting : ∀ node tag, (some node, tag) ∈ stack → node ∈ within)
    (enough : width * (within.filter (· ∉ seen)).card + stack.length ≤ fuel) :
    ∃ visits, order next fuel stack seen = some visits := by
  induction fuel generalizing stack seen with
  | zero =>
      cases stack with
      | nil => exact ⟨[], rfl⟩
      | cons item stack => simp at enough
  | succ fuel ih =>
      cases stack with
      | nil => exact ⟨[], rfl⟩
      | cons item stack =>
          obtain ⟨node, tag⟩ := item
          rw [List.length_cons] at enough
          have below : ∀ other otherTag, (some other, otherTag) ∈ stack → other ∈ within :=
            fun other otherTag member => waiting other otherTag (List.mem_cons_of_mem _ member)
          cases node with
          | none => exact ih below (by omega)
          | some node =>
              by_cases visited : node ∈ seen
              · rw [order_seen tag visited]
                exact ih below (by omega)
              · have here : node ∈ within := waiting node tag List.mem_cons_self
                have fewer : (within.filter (· ∉ node :: seen)).card + 1 ≤
                    (within.filter (· ∉ seen)).card := by
                  apply Finset.card_lt_card
                  rw [Finset.ssubset_iff_of_subset]
                  · exact ⟨node, by simp [here, visited], by simp⟩
                  · intro other member
                    simp only [Finset.mem_filter, List.mem_cons, not_or] at member ⊢
                    exact ⟨member.1, member.2.2⟩
                have room : width * (within.filter (· ∉ node :: seen)).card +
                    (next node ++ stack).length ≤ fuel := by
                  have short := narrow node here
                  have product := Nat.mul_le_mul_left width fewer
                  rw [Nat.mul_add, Nat.mul_one] at product
                  rw [List.length_append]
                  omega
                have ahead : ∀ other otherTag, (some other, otherTag) ∈ next node ++ stack →
                    other ∈ within := by
                  intro other otherTag member
                  rcases List.mem_append.mp member with onTop | waits
                  · exact onward node here other ⟨otherTag, onTop⟩
                  · exact below other otherTag waits
                obtain ⟨visits, walk⟩ := ih ahead room
                rw [order_fresh tag visited, walk]
                exact ⟨_, rfl⟩

theorem order_mono {more : Nat} (walk : order next fuel stack seen = some visits)
    (le : fuel ≤ more) : order next more stack seen = some visits := by
  induction fuel generalizing stack seen visits more with
  | zero =>
      cases stack with
      | nil =>
          cases walk
          cases more <;> rfl
      | cons item stack => cases walk
  | succ fuel ih =>
      obtain ⟨more, rfl⟩ := Nat.exists_eq_add_of_le' le
      have le' : fuel ≤ more + fuel := Nat.le_add_left ..
      rw [← Nat.add_assoc]
      cases stack with
      | nil =>
          cases walk
          rfl
      | cons item stack =>
          obtain ⟨node, tag⟩ := item
          cases node with
          | none =>
              rw [order_nothing] at walk ⊢
              exact ih walk le'
          | some node =>
              by_cases visited : node ∈ seen
              · rw [order_seen tag visited] at walk ⊢
                exact ih walk le'
              · rw [order_fresh tag visited] at walk ⊢
                obtain ⟨later, walked, rfl⟩ := Option.map_eq_some_iff.mp walk
                rw [ih walked le']
                rfl

variable {root : ι} {tag : τ}

/-- A walk from one node visits what is reachable from it, and nothing else. -/
theorem mem_order_iff (walk : order next fuel [(some root, tag)] [] = some visits) (node : ι) :
    node ∈ visits.map Prod.fst ↔ Reachable next root node := by
  have walked := order_walked walk
  constructor
  · have onward : ∀ earlier successor, Reachable next root earlier →
        Edge next earlier successor → Reachable next root successor :=
      fun earlier successor reached edge => reached.tail edge
    apply order_invariant walk onward
    intro other otherTag member
    cases List.mem_singleton.mp member
    exact .refl
  · intro reached
    induction reached with
    | refl => simpa using walked.cleared root tag List.mem_cons_self
    | tail _ edge visited => simpa using walked.closed _ visited _ edge

theorem order_root (walk : order next fuel [(some root, tag)] [] = some visits) :
    ∃ later, visits = (root, tag) :: later ∧ root ∉ later.map Prod.fst ∧
      ∀ visit ∈ later, ∃ node, (some visit.1, visit.2) ∈ next node := by
  cases fuel with
  | zero => cases walk
  | succ fuel =>
      have fresh : root ∉ ([] : List ι) := List.not_mem_nil
      rw [order_fresh tag fresh] at walk
      obtain ⟨later, rest, rfl⟩ := Option.map_eq_some_iff.mp walk
      have walked := order_walked rest
      refine ⟨later, rfl, fun again => walked.fresh root again List.mem_cons_self, ?_⟩
      intro visit member
      rcases walked.pushed visit member with onTop | ⟨node, _, pushed⟩
      · exact ⟨root, by simpa using onTop⟩
      · exact ⟨node, pushed⟩

theorem order_ends_of_finite (tag : τ) (width : Nat)
    (finite : {node | Reachable next root node}.Finite)
    (narrow : ∀ node, (next node).length ≤ width) :
    ∃ visits, order next (width * finite.toFinset.card + 1) [(some root, tag)] [] =
      some visits := by
  apply order_ends finite.toFinset width
  · intro node member successor edge
    rw [Set.Finite.mem_toFinset] at member ⊢
    exact member.tail edge
  · exact fun node _ => narrow node
  · intro node otherTag member
    cases List.mem_singleton.mp member
    rw [Set.Finite.mem_toFinset]
    exact Relation.ReflTransGen.refl
  · simp

end walks

end Koil.Worklist
