import Koil.Tracebacks

namespace Koil.Tracebacks

open Pruning

inductive Hop
  | frame (user : Nat)
  | crossing (kind : Crossing)
  deriving DecidableEq, Repr

def Hop.ops (exc : Exc) : Hop → List Op
  | .frame user => [.through (.user user)]
  | .crossing kind => kind.ops exc

/-- An error of a library class that one of the hidden frames of a crossing raises: `before`
is what the exception would have gone through to get there, and `after` what it goes
through next. -/
structure OwnError where
  cls : Builtin
  args : String
  crossing : Crossing
  entry : Entry
  before : List Op
  after : List Op
  raisedInside :
    crossing.inside (.of cls args) = before ++ .through entry :: after

def OwnError.exc (error : OwnError) : Exc := .of error.cls error.args

/-- The error's traceback once it has left its own crossing and gone through `hops`. -/
def OwnError.traceback (error : OwnError) (hops : List Hop) : List Entry :=
  follow true (hops.flatMap (Hop.ops error.exc))
    (follow true (error.after ++ error.crossing.outside) [error.entry])

/-- The traceback still ends with the frame in which the error was raised. -/
def OwnError.Informative (error : OwnError) (hops : List Hop) : Prop :=
  (error.traceback hops).getLast? = some error.entry

/-- A crossing's frame is shown to the user, unless it is that of `result`. -/
def Crossing.marked (crossing : Crossing) : Bool := !isHidden crossing.marker

def undisturbed : Bool → List Hop → Bool
  | _, [] => true
  | _, .frame _ :: hops => undisturbed true hops
  | shown, .crossing kind :: hops => !shown && undisturbed kind.marked hops

/-- The error takes no crossing once a user frame or the shown frame of a crossing is in
its traceback, that of the crossing it was raised in included. -/
def OwnError.undisturbed (error : OwnError) (hops : List Hop) : Bool :=
  Tracebacks.undisturbed error.crossing.marked hops

theorem OwnError.hidden_entry (error : OwnError) : isHidden error.entry = true := by
  apply hidden_inside error.exc error.crossing
  rw [OwnError.exc, error.raisedInside]
  simp

theorem OwnError.hidden_after (error : OwnError) (entry : Entry)
    (member : Op.through entry ∈ error.after) : isHidden entry = true := by
  apply hidden_inside error.exc error.crossing
  rw [OwnError.exc, error.raisedInside]
  simp [member]

variable {traceback : List Entry} {entry : Entry} {exc : Exc}

theorem follow_unseen {ops : List Op}
    (hidden : ∀ entry, Op.through entry ∈ ops → isHidden entry = true)
    (unseen : visible isHidden traceback = []) (innermost : traceback.getLast? = some entry) :
    visible isHidden (follow true ops traceback) = [] ∧
      (follow true ops traceback).getLast? = some entry := by
  refine ⟨(visible_follow true ops traceback hidden).trans unseen, ?_⟩
  induction ops generalizing traceback with
  | nil => exact innermost
  | cons op rest ih =>
      have later : ∀ entry, Op.through entry ∈ rest → isHidden entry = true :=
        fun entry member => hidden entry (List.mem_cons_of_mem _ member)
      rw [follow_cons]
      cases op with
      | through other =>
          apply ih later
          · exact (visible_cons_hidden (hidden other List.mem_cons_self)).trans unseen
          · simp [Op.run, List.getLast?_cons, innermost]
      | prune keepBoundary =>
          have same : Op.run true traceback (.prune keepBoundary) = traceback :=
            prune_of_unseen keepBoundary unseen
          rw [same]
          exact ih later unseen innermost

theorem outside_unseen (crossing : Crossing) (unseen : visible isHidden traceback = [])
    (innermost : traceback.getLast? = some entry) :
    (follow true crossing.outside traceback).getLast? = some entry ∧
      (visible isHidden (follow true crossing.outside traceback) = [] ↔
        crossing.marked = false) := by
  by_cases task : crossing = .taskResult
  · subst task
    exact ⟨innermost, by simp [Crossing.outside, unseen, Crossing.marked, isHidden,
      Crossing.marker, Entry.tracebackhide]⟩
  · have shown : isHidden crossing.marker = false := by
      cases out : isHidden crossing.marker with
      | true => exact absurd ((isHidden_marker_iff crossing).mp out) task
      | false => rfl
    have outside : crossing.outside = boundary crossing.marker := by
      cases crossing <;> first | rfl | exact absurd rfl task
    have left : follow true crossing.outside traceback = crossing.marker :: traceback := by
      rw [outside]
      exact prune_head_of_hidden unseen
    rw [left]
    exact ⟨by simp [List.getLast?_cons, innermost],
      by simp [visible_cons_shown shown, Crossing.marked, shown]⟩

theorem crossing_unseen (crossing : Crossing) (unseen : visible isHidden traceback = [])
    (innermost : traceback.getLast? = some entry) :
    (follow true (crossing.ops exc) traceback).getLast? = some entry ∧
      (visible isHidden (follow true (crossing.ops exc) traceback) = [] ↔
        crossing.marked = false) := by
  obtain ⟨still, kept⟩ := follow_unseen (hidden_inside exc crossing) unseen innermost
  rw [Crossing.ops, follow_append]
  exact outside_unseen crossing still kept

theorem follow_endsShown (ops : List Op) (ends : EndsShown isHidden traceback) :
    EndsShown isHidden (follow true ops traceback) := by
  induction ops generalizing traceback with
  | nil => exact ends
  | cons op rest ih =>
      rw [follow_cons]
      cases op with
      | through other => exact ih (ends.cons other)
      | prune keepBoundary => exact ih (ends.prune keepBoundary)

theorem crossing_seen (crossing : Crossing) (truthy : exc.truthy = true)
    (seen : visible isHidden traceback ≠ []) :
    EndsShown isHidden (follow true (crossing.ops exc) traceback) := by
  have bridge : EndsShown isHidden (follow true (loopSide exc) traceback) := by
    have below : visible isHidden (.contextFuture :: traceback) ≠ [] := by
      rwa [visible_cons_hidden rfl]
    have pruned : follow true (loopSide exc) traceback =
        .passedWithContext :: visible isHidden (.contextFuture :: traceback) := by
      simp [loopSide, truthy, Op.run, pruneTraceback, prune_of_visible below]
    rw [pruned]
    exact (endsShown_visible below).cons _
  have worker : ∀ (inside : List Op) (marker : Entry),
      (∀ entry, Op.through entry ∈ inside → isHidden entry = true) →
        EndsShown isHidden (follow true (inside ++ boundary marker) traceback) := by
    intro inside marker hidden
    rw [follow_boundary marker hidden seen]
    exact (endsShown_visible seen).cons marker
  rw [Crossing.ops]
  cases crossing with
  | unkoil | unkoilWithTimeout | unkoilGen | unkoilGenWithTimeout | taskResult =>
      rw [Crossing.inside, List.append_assoc, follow_append]
      exact follow_endsShown _ bridge
  | runThreaded | runThreadedBridged | iterateThreaded =>
      exact worker _ _ (hidden_inside exc _)

/-- The frame in which the error was raised stays for as long as no crossing meets a frame
that is shown. -/
theorem hops_informative_iff (hops : List Hop) {shown : Bool} (truthy : exc.truthy = true)
    (hidden : isHidden entry = true) (innermost : traceback.getLast? = some entry)
    (unseen : visible isHidden traceback = [] ↔ shown = false) :
    (follow true (hops.flatMap (Hop.ops exc)) traceback).getLast? = some entry ↔
      undisturbed shown hops = true := by
  induction hops generalizing traceback shown with
  | nil => simp [undisturbed, innermost]
  | cons hop rest ih =>
      rw [List.flatMap_cons, follow_append]
      cases hop with
      | frame user =>
          apply ih
          · simp [Hop.ops, Op.run, List.getLast?_cons, innermost]
          · simp [Hop.ops, Op.run, visible_cons_shown (show isHidden (.user user) = false from rfl)]
      | crossing kind =>
          cases shown with
          | false =>
              obtain ⟨kept, flag⟩ := crossing_unseen kind (unseen.mpr rfl) innermost
              simpa [undisturbed, Hop.ops] using ih kept flag
          | true =>
              have seen : visible isHidden traceback ≠ [] := by
                intro empty
                cases unseen.mp empty
              have lost : EndsShown isHidden (follow true (rest.flatMap (Hop.ops exc))
                  (follow true (kind.ops exc) traceback)) :=
                follow_endsShown _ (crossing_seen kind truthy seen)
              obtain ⟨last, ends, shown⟩ := lost
              simp only [undisturbed, Bool.not_true, Bool.false_and, Bool.false_eq_true, iff_false]
              intro same
              have other : last = entry := Option.some.inj (ends.symm.trans same)
              rw [other, hidden] at shown
              cases shown

/-- The frame in which koil raised an error of its own stays in the error's traceback exactly
when the error takes no crossing after a frame that is shown. -/
theorem own_error_informative_iff (error : OwnError) (hops : List Hop) :
    error.Informative hops ↔ error.undisturbed hops = true := by
  have alone : visible isHidden [error.entry] = [] := by
    rw [visible_cons_hidden error.hidden_entry]
    rfl
  obtain ⟨unseen, innermost⟩ := follow_unseen error.hidden_after alone rfl
  obtain ⟨kept, flag⟩ := outside_unseen error.crossing unseen innermost
  rw [← follow_append] at kept flag
  exact hops_informative_iff hops rfl error.hidden_entry kept flag

def couldNotCancel : OwnError where
  cls := .koilError
  args := "We could not successfully cancel the future"
  crossing := .runThreaded
  entry := .sharedRunThreaded
  before := [.through .body, .through .wrapper, .through .workItemRun]
  after := []
  raisedInside := rfl

/-- The coroutine that awaited `run_threaded` was called through `unkoil`. -/
theorem could_not_cancel_lost : ¬ couldNotCancel.Informative [.frame 1, .crossing .unkoil] := by
  intro kept
  have actual : couldNotCancel.traceback [.frame 1, .crossing .unkoil] =
      [.unkoil, .user 1, .runThreaded] := by decide
  rw [OwnError.Informative, actual] at kept
  cases kept

end Koil.Tracebacks
