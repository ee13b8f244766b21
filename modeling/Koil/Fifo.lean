import Mathlib.Data.List.Basic

namespace Koil.Fifo

variable {α : Type}

/-- Wherever `late` stands in the queue, `early` stands before it. -/
def Ahead (early late : α) (queue : List α) : Prop :=
  ∀ before after, queue = before ++ late :: after → early ∈ before

theorem ahead_of_absent {early late : α} {queue : List α} (absent : late ∉ queue) :
    Ahead early late queue := by
  rintro before after rfl
  simp at absent

theorem ahead_push_late {early late : α} {queue : List α} (waiting : early ∈ queue)
    (absent : late ∉ queue) : Ahead early late (queue ++ [late]) := by
  intro before after split
  rcases List.append_eq_append_iff.mp split with ⟨extra, isBefore, rest⟩ | ⟨extra, isQueue, rest⟩
  · rw [isBefore]
    exact List.mem_append_left _ waiting
  · cases extra with
    | nil =>
        have same : queue = before := by simpa using isQueue
        rwa [← same]
    | cons head tail =>
        have first : late = head := by simpa using (List.cons.inj rest).1
        rw [isQueue, ← first] at absent
        simp at absent

theorem ahead_push {early late other : α} {queue : List α} (ahead : Ahead early late queue)
    (ne : other ≠ late) : Ahead early late (queue ++ [other]) := by
  intro before after split
  rcases List.append_eq_append_iff.mp split with ⟨extra, isBefore, rest⟩ | ⟨extra, isQueue, rest⟩
  · cases extra with
    | nil => exact absurd (List.cons.inj rest).1 ne
    | cons head tail => simp at rest
  · cases extra with
    | nil => exact absurd (List.cons.inj rest).1.symm ne
    | cons head tail =>
        obtain ⟨rfl, _⟩ := List.cons.inj rest
        exact ahead before tail isQueue

theorem absent_of_once [BEq α] [LawfulBEq α] {head : α} {queue : List α}
    (once : (head :: queue).count head ≤ 1) : head ∉ queue := by
  intro present
  have more := List.count_pos_iff.mpr present
  rw [List.count_cons_self] at once
  omega

/-- The queue's head can only be the later one if nothing had to be ahead of it. -/
theorem ahead_head {early late head : α} {queue : List α}
    (ahead : Ahead early late (head :: queue)) : head ≠ late := by
  rintro rfl
  exact absurd (ahead [] queue rfl) List.not_mem_nil

theorem ahead_pop {early late head : α} {queue : List α}
    (ahead : Ahead early late (head :: queue)) (ne : head ≠ early) : Ahead early late queue := by
  rintro before after rfl
  rcases List.mem_cons.mp (ahead (head :: before) after rfl) with same | member
  · exact absurd same.symm ne
  · exact member

end Koil.Fifo
