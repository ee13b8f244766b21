import Koil.Teardown
import Mathlib.Data.List.Nodup
import Mathlib.Data.List.Perm.Subperm

/-! Compositions of async context managers, entered and exited in plain loops over their
fields, by `async with` and by the `with` that `@koilable` gives them. -/

namespace Koil.Composition

open Contexts Managers WithStatement

structure Log where
  entered : List Nat
  exited : List Nat
  deriving DecidableEq

def Log.empty : Log := ⟨[], []⟩

/-- What a call of a child's method raises if nothing cancels it; and, if it is at an await once
the race of the whole coroutine is lost, what it raises when it is cancelled there. -/
structure Ending where
  raises : Option Exc
  cancelled : Option (Option Exc)

structure Child where
  enter : Ending
  exit : Option Exc → Ending

/-- The fields of a `Composition` in the order of the loops over them: values that have
neither `__aenter__` nor `__aexit__`, Koils, managers, and compositions with their fields. -/
inductive Fields where
  | done
  | plain (rest : Fields)
  | koil (rest : Fields)
  | manager (child : Child) (rest : Fields)
  | composition (fields rest : Fields)

/-- How many children there are at all depths. A child's name is the number of children
that the loop of `__aexit__` comes to before it. -/
def Fields.children : Fields → Nat
  | .done => 0
  | .plain rest | .koil rest => rest.children
  | .manager _ rest => rest.children + 1
  | .composition fields rest => fields.children + rest.children + 1

def raising : Option Exc → Coroutine Log Unit
  | none => pure ()
  | some exc => throw exc

/-- A call of a child's method: the first one at an await after the race was lost is the one
that is cancelled. -/
def calling (ending : Ending) : Coroutine Log Unit := fun inside =>
  match inside.loses && !inside.cancelled, ending.cancelled with
  | true, some raises => raising raises { inside with cancelled := true }
  | _, _ => raising ending.raises inside

def enterReturns (child : Nat) : Coroutine Log Unit :=
  modify fun inside => { inside with
    user := { inside.user with entered := inside.user.entered ++ [child] } }

def exitCalled (child : Nat) : Coroutine Log Unit :=
  modify fun inside => { inside with
    user := { inside.user with exited := inside.user.exited ++ [child] } }

/-- The loop of `Composition.__aenter__`, from the child with the given name on. -/
def Fields.aenter : Fields → Nat → Coroutine Log Unit
  | .done, _ => pure ()
  | .plain rest, first | .koil rest, first => rest.aenter first
  | .manager child rest, first => do
      calling child.enter
      enterReturns first
      rest.aenter (first + 1)
  | .composition fields rest, first => do
      fields.aenter (first + 1)
      enterReturns first
      rest.aenter (first + 1 + fields.children)

def Fields.aexit (exc : Option Exc) : Fields → Nat → Coroutine Log Unit
  | .done, _ => pure ()
  | .plain rest, first | .koil rest, first => rest.aexit exc first
  | .manager child rest, first => do
      exitCalled first
      calling (child.exit exc)
      rest.aexit exc (first + 1)
  | .composition fields rest, first => do
      exitCalled first
      fields.aexit exc (first + 1)
      rest.aexit exc (first + 1 + fields.children)

def Fields.asManager (fields : Fields) (awaitEnter awaitExit : String) : Manager Log Unit where
  aenter := fields.aenter 0
  aexit exc := do
    fields.aexit exc 0
    return false
  awaitEnter := awaitEnter
  awaitExit := awaitExit

section statements

variable {β : Type}

def bodyOnLoop (body : EStateM Exc Context β) : Coroutine Log β := fun inside =>
  match body inside.ctx with
  | .ok value ctx => .ok value { inside with ctx := ctx }
  | .error exc ctx => .error exc { inside with ctx := ctx }

def Fields.asyncWith (fields : Fields) (awaitEnter awaitExit : String)
    (body : EStateM Exc Context β) : Coroutine Log (Option β) :=
  withStatement (fields.asManager awaitEnter awaitExit).aenter
    (fields.asManager awaitEnter awaitExit).aexit fun _ => bodyOnLoop body

def withUser {τ τ' : Type} (w : World τ) (user : τ') : World τ' where
  base := w.base
  koilsMade := w.koilsMade
  field := w.field
  given := w.given
  own := w.own
  isSet := w.isSet
  user := user
  started := w.started
  stopped := w.stopped

def bodyInThread (body : Sync Unit β) : Sync Log β := fun w =>
  match body (withUser w ()) with
  | .ok value after => .ok value (withUser after w.user)
  | .error exc after => .error exc (withUser after w.user)

def Fields.syncWith (fields : Fields) (awaitEnter awaitExit : String) (env : Env)
    (object : Nat) (body : Sync Unit β) : Sync Log (Option β) :=
  withStatement (koiledEnter env (fields.asManager awaitEnter awaitExit) object)
    (koiledExit env (fields.asManager awaitEnter awaitExit) object) fun _ => bodyInThread body

end statements

/-- Every child whose `__aenter__` returned has had its `__aexit__` called exactly once,
and no other child has had it called. -/
structure Log.Paired (log : Log) : Prop where
  once : ∀ child ∈ log.entered, log.exited.count child = 1
  only : ∀ child ∈ log.exited, child ∈ log.entered

/-! ## The nested loops as one loop over a list of calls -/

def Ending.returns : Ending := ⟨none, none⟩

/-- The calls of `__aenter__` that return or raise by themselves, in this order: a
composition's own one returns when those of its fields have returned. -/
def Fields.enterCalls : Fields → Nat → List (Nat × Ending)
  | .done, _ => []
  | .plain rest, first | .koil rest, first => rest.enterCalls first
  | .manager child rest, first => (first, child.enter) :: rest.enterCalls (first + 1)
  | .composition fields rest, first =>
      fields.enterCalls (first + 1) ++
        (first, .returns) :: rest.enterCalls (first + 1 + fields.children)

def Fields.exitCalls (exc : Option Exc) : Fields → Nat → List (Nat × Ending)
  | .done, _ => []
  | .plain rest, first | .koil rest, first => rest.exitCalls exc first
  | .manager child rest, first =>
      (first, child.exit exc) :: rest.exitCalls exc (first + 1)
  | .composition fields rest, first =>
      (first, .returns) ::
        (fields.exitCalls exc (first + 1) ++ rest.exitCalls exc (first + 1 + fields.children))

def enterAll : List (Nat × Ending) → Coroutine Log Unit
  | [] => pure ()
  | (child, ending) :: calls => do
      calling ending
      enterReturns child
      enterAll calls

def exitAll : List (Nat × Ending) → Coroutine Log Unit
  | [] => pure ()
  | (child, ending) :: calls => do
      exitCalled child
      calling ending
      exitAll calls

theorem calling_returns : calling .returns = pure () := by
  funext inside
  cases loses : inside.loses && !inside.cancelled <;> simp only [calling, loses] <;> rfl

theorem enterAll_append (calls later : List (Nat × Ending)) :
    enterAll (calls ++ later) = (do enterAll calls; enterAll later) := by
  induction calls with
  | nil => simp [enterAll]
  | cons call calls ih => simp [enterAll, ih]

theorem exitAll_append (calls later : List (Nat × Ending)) :
    exitAll (calls ++ later) = (do exitAll calls; exitAll later) := by
  induction calls with
  | nil => simp [exitAll]
  | cons call calls ih => simp [exitAll, ih]

theorem aenter_eq (fields : Fields) (first : Nat) :
    fields.aenter first = enterAll (fields.enterCalls first) := by
  induction fields generalizing first with
  | done => rfl
  | plain rest ih => exact ih first
  | koil rest ih => exact ih first
  | manager child rest ih => simp [Fields.aenter, Fields.enterCalls, enterAll, ih]
  | composition fields rest ihFields ihRest =>
      simp [Fields.aenter, Fields.enterCalls, enterAll_append, enterAll, calling_returns, ihFields,
        ihRest]

theorem aexit_eq (exc : Option Exc) (fields : Fields) (first : Nat) :
    fields.aexit exc first = exitAll (fields.exitCalls exc first) := by
  induction fields generalizing first with
  | done => rfl
  | plain rest ih => exact ih first
  | koil rest ih => exact ih first
  | manager child rest ih => simp [Fields.aexit, Fields.exitCalls, exitAll, ih]
  | composition fields rest ihFields ihRest =>
      simp [Fields.aexit, Fields.exitCalls, exitAll_append, exitAll, calling_returns, ihFields,
        ihRest]

def Ending.outcome (ending : Ending) (loses : Bool) : Option Exc :=
  match loses, ending.cancelled with
  | true, some raises => raises
  | _, _ => ending.raises

def outcomes : Bool → List (Nat × Ending) → List (Nat × Option Exc)
  | _, [] => []
  | loses, (child, ending) :: calls =>
      (child, ending.outcome loses) :: outcomes (loses && ending.cancelled.isNone) calls

def cut : Bool → List (Nat × Ending) → Bool
  | _, [] => false
  | loses, (_, ending) :: calls =>
      loses && (ending.cancelled.isSome || ending.raises.isNone && cut loses calls)

@[simp] theorem Ending.outcome_false (ending : Ending) : ending.outcome false = ending.raises := rfl

@[simp] theorem cut_false (calls : List (Nat × Ending)) : cut false calls = false := by
  cases calls <;> rfl

@[simp] theorem outcomes_names (loses : Bool) (calls : List (Nat × Ending)) :
    (outcomes loses calls).map Prod.fst = calls.map Prod.fst := by
  induction calls generalizing loses with
  | nil => rfl
  | cons call calls ih => rw [outcomes, List.map_cons, List.map_cons, ih]

def returned : List (Nat × Option Exc) → List Nat
  | [] => []
  | (child, none) :: calls => child :: returned calls
  | (_, some _) :: _ => []

def called : List (Nat × Option Exc) → List Nat
  | [] => []
  | (child, none) :: calls => child :: called calls
  | (child, some _) :: _ => [child]

def ends (raised : Option Exc) (inside : Inside Log) : EStateM.Result Exc (Inside Log) Unit :=
  match raised with
  | none => .ok () inside
  | some exc => .error exc inside

def armed (inside : Inside Log) : Bool := inside.loses && !inside.cancelled

theorem calling_ends (ending : Ending) (inside : Inside Log) :
    calling ending inside = ends (ending.outcome (armed inside)) { inside with
      cancelled := inside.cancelled || armed inside && ending.cancelled.isSome } := by
  obtain ⟨raises, cancelled⟩ := ending
  obtain ⟨user, ctx, site, loses, cancelled'⟩ := inside
  cases loses <;> cases cancelled' <;> cases cancelled with
  | none => cases raises <;> rfl
  | some raised => first | (cases raises; rfl; rfl) | (cases raised <;> rfl)

theorem cut_of_raises {ending : Ending} {loses : Bool} {exc : Exc}
    (raises : ending.outcome loses = some exc) (child : Nat) (calls : List (Nat × Ending)) :
    cut loses ((child, ending) :: calls) = (loses && ending.cancelled.isSome) := by
  obtain ⟨raised, _ | cancelled⟩ := ending <;> cases loses with
  | false => rfl
  | true =>
      first
        | rfl
        | obtain rfl : raised = some exc := raises
          rfl

theorem cut_of_returns {ending : Ending} {loses : Bool} (returns : ending.outcome loses = none)
    (child : Nat) (calls : List (Nat × Ending)) :
    cut loses ((child, ending) :: calls) =
      (loses && ending.cancelled.isSome || cut (loses && ending.cancelled.isNone) calls) := by
  obtain ⟨raised, _ | cancelled⟩ := ending <;> cases loses with
  | false => simp [cut]
  | true =>
      first
        | rfl
        | obtain rfl : raised = none := returns
          simp [cut]

/-- After a call the race is still open unless the call was cancelled for it. -/
theorem armed_after (inside : Inside Log) (user : Log) (cancelled : Option (Option Exc)) :
    armed { inside with
      user := user, cancelled := inside.cancelled || armed inside && cancelled.isSome } =
        (armed inside && cancelled.isNone) := by
  obtain ⟨user', ctx, site, loses, before⟩ := inside
  cases loses <;> cases before <;> cases cancelled <;> rfl

theorem enterAll_ends (calls : List (Nat × Ending)) (inside : Inside Log) :
    enterAll calls inside = ends ((outcomes (armed inside) calls).findSome? Prod.snd)
      { inside with
        user := { inside.user with
          entered := inside.user.entered ++ returned (outcomes (armed inside) calls) }
        cancelled := inside.cancelled || cut (armed inside) calls } := by
  induction calls generalizing inside with
  | nil => simp [enterAll, outcomes, cut, returned, ends, pure, EStateM.pure]
  | cons call calls ih =>
      obtain ⟨child, ending⟩ := call
      have first := calling_ends ending inside
      cases outcome : ending.outcome (armed inside) with
      | some exc =>
          rw [outcome] at first
          rw [enterAll, bind_error first, cut_of_raises outcome, outcomes, outcome]
          simp [returned, ends]
      | none =>
          rw [outcome] at first
          have later := ih { inside with
            user := { inside.user with entered := inside.user.entered ++ [child] }
            cancelled := inside.cancelled || armed inside && ending.cancelled.isSome }
          rw [armed_after, List.append_assoc, Bool.or_assoc] at later
          rw [enterAll, bind_ok first, cut_of_returns outcome, outcomes, outcome]
          exact later

theorem exitAll_ends (calls : List (Nat × Ending)) (inside : Inside Log) :
    exitAll calls inside = ends ((outcomes (armed inside) calls).findSome? Prod.snd)
      { inside with
        user := { inside.user with
          exited := inside.user.exited ++ called (outcomes (armed inside) calls) }
        cancelled := inside.cancelled || cut (armed inside) calls } := by
  induction calls generalizing inside with
  | nil => simp [exitAll, outcomes, cut, called, ends, pure, EStateM.pure]
  | cons call calls ih =>
      obtain ⟨child, ending⟩ := call
      let begun : Inside Log :=
        { inside with user := { inside.user with exited := inside.user.exited ++ [child] } }
      have same : armed begun = armed inside := rfl
      have first := calling_ends ending begun
      rw [same] at first
      have starts : exitAll ((child, ending) :: calls) inside =
          (do calling ending; exitAll calls) begun := rfl
      cases outcome : ending.outcome (armed inside) with
      | some exc =>
          rw [outcome] at first
          rw [starts, bind_error first, cut_of_raises outcome, outcomes, outcome]
          simp [called, ends, begun]
      | none =>
          rw [outcome] at first
          have later := ih { begun with
            cancelled := inside.cancelled || armed inside && ending.cancelled.isSome }
          have open_ := armed_after inside begun.user ending.cancelled
          rw [open_] at later
          rw [starts, bind_ok first, cut_of_returns outcome, outcomes, outcome]
          simp only [begun, List.append_assoc, Bool.or_assoc] at later
          exact later

theorem returned_eq {calls : List (Nat × Option Exc)}
    (all : ∀ call ∈ calls, call.2 = none) : returned calls = calls.map Prod.fst := by
  induction calls with
  | nil => rfl
  | cons call calls ih =>
      obtain ⟨child, raises⟩ := call
      obtain ⟨rfl, rest⟩ := List.forall_mem_cons.mp all
      rw [returned, ih rest, List.map_cons]

theorem returned_eq_nil_iff (calls : List (Nat × Option Exc)) :
    returned calls = [] ↔ ∀ call ∈ calls.head?, call.2 ≠ none := by
  obtain _ | ⟨⟨child, _ | exc⟩, calls⟩ := calls <;> simp [returned]

theorem called_prefix (calls : List (Nat × Option Exc)) :
    called calls <+: calls.map Prod.fst := by
  induction calls with
  | nil => exact List.prefix_rfl
  | cons call calls ih =>
      obtain ⟨child, _ | exc⟩ := call
      · exact (List.prefix_cons_inj child).mpr ih
      · exact (List.prefix_cons_inj child).mpr List.nil_prefix

theorem called_eq_iff (calls : List (Nat × Option Exc)) :
    called calls = calls.map Prod.fst ↔ ∀ call ∈ calls.dropLast, call.2 = none := by
  induction calls with
  | nil => simp [called]
  | cons call calls ih =>
      obtain ⟨child, raises⟩ := call
      obtain _ | ⟨next, later⟩ := calls
      · cases raises <;> simp [called]
      · rw [List.dropLast_cons_cons, List.forall_mem_cons, ← ih]
        cases raises with
        | none => simp [called]
        | some exc => simp [called]

/-! ## The names of the children -/

theorem exitCalls_names (exc : Option Exc) (fields : Fields) (first : Nat) :
    (fields.exitCalls exc first).map Prod.fst = List.range' first fields.children := by
  induction fields generalizing first with
  | done => rfl
  | plain rest ih => exact ih first
  | koil rest ih => exact ih first
  | manager child rest ih =>
      rw [Fields.exitCalls, List.map_cons, ih, Fields.children, List.range'_succ]
  | composition fields rest ihFields ihRest =>
      rw [Fields.exitCalls, List.map_cons, List.map_append, ihFields, ihRest, Fields.children,
        List.range'_succ, ← List.range'_append_1]

theorem enterCalls_names (fields : Fields) (first : Nat) :
    ((fields.enterCalls first).map Prod.fst).Perm (List.range' first fields.children) := by
  induction fields generalizing first with
  | done => exact .nil
  | plain rest ih => exact ih first
  | koil rest ih => exact ih first
  | manager child rest ih =>
      rw [Fields.enterCalls, List.map_cons, Fields.children, List.range'_succ]
      exact (ih (first + 1)).cons first
  | composition fields rest ihFields ihRest =>
      rw [Fields.enterCalls, List.map_append, List.map_cons, Fields.children, List.range'_succ,
        ← List.range'_append_1]
      exact List.perm_middle.trans
        (((ihFields (first + 1)).append (ihRest (first + 1 + fields.children))).cons first)

/-! ## When the calls are paired -/

def Fields.Enters (fields : Fields) (loses : Bool) : Prop :=
  ∀ call ∈ fields.enterCalls 0,
    call.2.raises = none ∧ (loses = true → call.2.cancelled = none)

/-- There is no `__aenter__`, or the first one raises. -/
def Fields.EntersNone (fields : Fields) (loses : Bool) : Prop :=
  ∀ call ∈ (fields.enterCalls 0).head?, call.2.outcome loses ≠ none

/-- No `__aexit__` raises but that of the last child, if it gets the exception. -/
def Fields.Exits (fields : Fields) (loses : Bool) (exc : Option Exc) : Prop :=
  ∀ call ∈ (outcomes loses (fields.exitCalls exc 0)).dropLast, call.2 = none

/-- No call raises and none is cancelled exactly where none could be. -/
theorem enters_all_iff (loses : Bool) (calls : List (Nat × Ending)) :
    (∀ call ∈ calls, call.2.raises = none ∧ (loses = true → call.2.cancelled = none)) ↔
      (∀ call ∈ outcomes loses calls, call.2 = none) ∧ cut loses calls = false := by
  induction calls with
  | nil => simp [outcomes, cut]
  | cons call calls ih =>
      obtain ⟨child, raises, cancelled⟩ := call
      rw [List.forall_mem_cons, ih]
      cases loses with
      | false => simp [outcomes, Ending.outcome]
      | true =>
          cases cancelled with
          | some raised => simp [cut]
          | none => cases raises <;> simp [outcomes, cut, Ending.outcome]

theorem Fields.enters_iff (fields : Fields) (loses : Bool) :
    fields.Enters loses ↔ (outcomes loses (fields.enterCalls 0)).findSome? Prod.snd = none ∧
      cut loses (fields.enterCalls 0) = false := by
  rw [List.findSome?_eq_none_iff]
  exact enters_all_iff loses (fields.enterCalls 0)

theorem Fields.entersNone_iff (fields : Fields) (loses : Bool) :
    fields.EntersNone loses ↔ returned (outcomes loses (fields.enterCalls 0)) = [] := by
  rw [returned_eq_nil_iff, EntersNone]
  cases fields.enterCalls 0 with
  | nil => simp [outcomes]
  | cons call calls => simp [outcomes]

theorem paired_unexited_iff (entered : List Nat) :
    (⟨entered, []⟩ : Log).Paired ↔ entered = [] := by
  constructor
  · intro paired
    obtain _ | ⟨child, later⟩ := entered
    · rfl
    · cases paired.once child List.mem_cons_self
  · rintro rfl
    exact ⟨nofun, nofun⟩

theorem paired_exited_iff {fields : Fields} {loses : Bool} (enters : fields.Enters loses)
    (later : Bool) (exc : Option Exc) :
    (⟨returned (outcomes loses (fields.enterCalls 0)),
      called (outcomes later (fields.exitCalls exc 0))⟩ : Log).Paired ↔
      fields.Exits later exc := by
  have names : (outcomes later (fields.exitCalls exc 0)).map Prod.fst =
      List.range' 0 fields.children := by
    rw [outcomes_names, exitCalls_names]
  have entered : (returned (outcomes loses (fields.enterCalls 0))).Perm
      (List.range' 0 fields.children) := by
    rw [returned_eq ((enters_all_iff loses _).mp enters).1, outcomes_names]
    exact enterCalls_names fields 0
  have distinct : (List.range' 0 fields.children).Nodup := List.nodup_range'
  rw [Fields.Exits, ← called_eq_iff, names]
  constructor
  · intro paired
    have all : List.range' 0 fields.children ⊆
        called (outcomes later (fields.exitCalls exc 0)) := by
      intro child member
      have once := paired.once child (entered.mem_iff.mpr member)
      exact List.count_pos_iff.mp (once ▸ Nat.one_pos)
    have partly : called (outcomes later (fields.exitCalls exc 0)) <+:
        List.range' 0 fields.children := names ▸ called_prefix _
    have enough := (distinct.subperm all).length_le
    exact partly.eq_of_length (Nat.le_antisymm partly.length_le enough)
  · intro exits
    rw [exits]
    refine ⟨fun child member => ?_, fun child member => entered.mem_iff.mpr member⟩
    exact List.count_eq_one_of_mem distinct (entered.mem_iff.mp member)

end Koil.Composition
