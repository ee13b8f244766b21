import Mathlib.Data.List.Basic

/-! Pruning a list of entries, outermost first, that grows at its head.

An entry may be hidden. A pruning drops the hidden entries, or leaves the list alone if
nothing else would be left, and may keep the head whatever it is. -/

namespace Koil.Pruning

variable {α : Type} (hidden : α → Bool)

def visible (entries : List α) : List α := entries.filter (fun entry => !hidden entry)

/-- The entries that a pruning keeps of those from position `index` on. -/
def kept (keepHead : Bool) : Nat → List α → List α
  | _, [] => []
  | index, entry :: rest =>
      if (index == 0 && keepHead) || !hidden entry then entry :: kept keepHead (index + 1) rest
      else kept keepHead (index + 1) rest

def prune (keepHead : Bool) (entries : List α) : List α :=
  let survivors := kept hidden keepHead 0 entries
  if survivors.length ≤ (if keepHead then 1 else 0) then entries else survivors

@[simp] theorem visible_nil : visible hidden ([] : List α) = [] := rfl

@[simp] theorem visible_append (front back : List α) :
    visible hidden (front ++ back) = visible hidden front ++ visible hidden back :=
  List.filter_append ..

@[simp] theorem visible_visible (entries : List α) :
    visible hidden (visible hidden entries) = visible hidden entries := by
  simp [visible]

variable {hidden} {head : α} {entries : List α}

theorem visible_cons_hidden (out : hidden head = true) :
    visible hidden (head :: entries) = visible hidden entries := by
  simp [visible, out]

theorem visible_cons_shown (shown : hidden head = false) :
    visible hidden (head :: entries) = head :: visible hidden entries := by
  simp [visible, shown]

theorem visible_eq_nil_iff :
    visible hidden entries = [] ↔ ∀ entry ∈ entries, hidden entry = true := by
  simp [visible, List.filter_eq_nil_iff]

theorem kept_later (keepHead : Bool) (index : Nat) (entries : List α) :
    kept hidden keepHead (index + 1) entries = visible hidden entries := by
  induction entries generalizing index with
  | nil => rfl
  | cons entry rest ih =>
      cases out : hidden entry with
      | true => simp [kept, out, ih, visible_cons_hidden out]
      | false => simp [kept, out, ih, visible_cons_shown out]

theorem kept_all : kept hidden false 0 entries = visible hidden entries := by
  cases entries with
  | nil => rfl
  | cons entry rest =>
      cases out : hidden entry with
      | true => simp [kept, out, kept_later, visible_cons_hidden out]
      | false => simp [kept, out, kept_later, visible_cons_shown out]

theorem kept_head : kept hidden true 0 (head :: entries) = head :: visible hidden entries := by
  simp [kept, kept_later]

theorem prune_of_visible (seen : visible hidden entries ≠ []) :
    prune hidden false entries = visible hidden entries := by
  simp [prune, kept_all, seen]

theorem prune_of_hidden (unseen : visible hidden entries = []) :
    prune hidden false entries = entries := by
  simp [prune, kept_all, unseen]

theorem prune_head_of_visible (seen : visible hidden entries ≠ []) :
    prune hidden true (head :: entries) = head :: visible hidden entries := by
  simp [prune, kept_head, seen]

theorem prune_head_of_hidden (unseen : visible hidden entries = []) :
    prune hidden true (head :: entries) = head :: entries := by
  simp [prune, kept_head, unseen]

theorem visible_prune (keepHead : Bool) (entries : List α) :
    visible hidden (prune hidden keepHead entries) = visible hidden entries := by
  cases keepHead with
  | false =>
      by_cases seen : visible hidden entries = []
      · rw [prune_of_hidden seen]
      · rw [prune_of_visible seen, visible_visible]
  | true =>
      cases entries with
      | nil => rfl
      | cons head rest =>
          by_cases seen : visible hidden rest = []
          · rw [prune_head_of_hidden seen]
          · rw [prune_head_of_visible seen]
            cases out : hidden head with
            | true => rw [visible_cons_hidden out, visible_cons_hidden out, visible_visible]
            | false => rw [visible_cons_shown out, visible_cons_shown out, visible_visible]

/-- The head that is kept whatever it is, and the entries below it. -/
def boundary (keepHead : Bool) (entries : List α) : List α :=
  if keepHead then entries.take 1 else []

theorem prune_of_unseen (keepHead : Bool) (unseen : visible hidden entries = []) :
    prune hidden keepHead entries = entries := by
  cases keepHead with
  | false => exact prune_of_hidden unseen
  | true =>
      cases entries with
      | nil => rfl
      | cons head rest =>
          apply prune_head_of_hidden
          rw [visible_eq_nil_iff] at unseen ⊢
          intro entry member
          exact unseen entry (List.mem_cons_of_mem _ member)

variable (hidden) in
def EndsShown (entries : List α) : Prop :=
  ∃ last, entries.getLast? = some last ∧ hidden last = false

theorem endsShown_iff : EndsShown hidden entries ↔
    ∃ init last, entries = init ++ [last] ∧ hidden last = false := by
  constructor
  · rintro ⟨last, innermost, shown⟩
    obtain ⟨init, same⟩ := List.getLast?_eq_some_iff.mp innermost
    exact ⟨init, last, same, shown⟩
  · rintro ⟨init, last, rfl, shown⟩
    exact ⟨last, List.getLast?_concat, shown⟩

theorem EndsShown.cons (head : α) (ends : EndsShown hidden entries) :
    EndsShown hidden (head :: entries) := by
  obtain ⟨init, last, rfl, shown⟩ := endsShown_iff.mp ends
  exact endsShown_iff.mpr ⟨head :: init, last, rfl, shown⟩

theorem endsShown_visible (seen : visible hidden entries ≠ []) :
    EndsShown hidden (visible hidden entries) := by
  have last_mem := List.getLast_mem seen
  refine ⟨_, List.getLast?_eq_some_getLast seen, ?_⟩
  simpa [visible] using (List.mem_filter.mp last_mem).2

theorem EndsShown.visible_nonempty (ends : EndsShown hidden entries) :
    visible hidden entries ≠ [] := by
  obtain ⟨init, last, rfl, shown⟩ := endsShown_iff.mp ends
  rw [visible_append, visible_cons_shown shown]
  simp

theorem EndsShown.prune (keepHead : Bool) (ends : EndsShown hidden entries) :
    EndsShown hidden (prune hidden keepHead entries) := by
  cases keepHead with
  | false =>
      rw [prune_of_visible ends.visible_nonempty]
      exact endsShown_visible ends.visible_nonempty
  | true =>
      cases entries with
      | nil => exact ends
      | cons head rest =>
          by_cases seen : visible hidden rest = []
          · rw [prune_head_of_hidden seen]
            exact ends
          · rw [prune_head_of_visible seen]
            exact (endsShown_visible seen).cons head

end Koil.Pruning
