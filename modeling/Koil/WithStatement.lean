import Mathlib.Logic.Basic

/-! Python's `with` statement, and `try ... finally`, as programs that may raise and whose
state survives what they raise. -/

namespace Koil.WithStatement

variable {ε σ α β : Type}

/-- The end of a `with` body: `exit` is called with what the body raised, if anything,
and a truthy value of it suppresses that. `none` is the value of a body that was cut short. -/
def leave (exit : Option ε → EStateM ε σ Bool) :
    EStateM.Result ε σ β → EStateM.Result ε σ (Option β)
  | .ok value s =>
      match exit none s with
      | .ok _ s => .ok (some value) s
      | .error raised s => .error raised s
  | .error exc s =>
      match exit (some exc) s with
      | .ok true s => .ok none s
      | .ok false s => .error exc s
      | .error raised s => .error raised s

def withStatement (enter : EStateM ε σ α) (exit : Option ε → EStateM ε σ Bool)
    (body : α → EStateM ε σ β) : EStateM ε σ (Option β) := fun s =>
  match enter s with
  | .ok value s => leave exit (body value s)
  | .error exc s => .error exc s

def finally_ (body : EStateM ε σ α) (cleanup : EStateM ε σ Unit) : EStateM ε σ α := fun s =>
  match body s with
  | .ok value s =>
      match cleanup s with
      | .ok _ s => .ok value s
      | .error raised s => .error raised s
  | .error exc s =>
      match cleanup s with
      | .ok _ s => .error exc s
      | .error raised s => .error raised s

def reraising (body : EStateM ε σ α) (cleanup : EStateM ε σ Unit) : EStateM ε σ α := fun s =>
  match body s with
  | .ok value s => .ok value s
  | .error exc s =>
      match cleanup s with
      | .ok _ s => .error exc s
      | .error raised s => .error raised s

def thrown : EStateM.Result ε σ α → Option ε
  | .ok _ _ => none
  | .error exc _ => some exc

def left : EStateM.Result ε σ α → σ
  | .ok _ s => s
  | .error _ s => s

section sequences

variable {first : EStateM ε σ α} {next : α → EStateM ε σ β} {s s' : σ}

theorem bind_ok {value : α} (ran : first s = .ok value s') :
    (first >>= next) s = next value s' := by
  simp only [bind, EStateM.bind, ran]

theorem bind_error {exc : ε} (raised : first s = .error exc s') :
    (first >>= next) s = .error exc s' := by
  simp only [bind, EStateM.bind, raised]

theorem get_bind {next : σ → EStateM ε σ β} : (get >>= next) s = next s s := rfl

theorem left_bind_pure (value : β) :
    left ((first >>= fun _ => (pure value : EStateM ε σ β)) s) = left (first s) := by
  cases ran : first s with
  | ok _ s => rw [bind_ok ran]; rfl
  | error _ s => rw [bind_error ran]; rfl

theorem reraising_ok {body : EStateM ε σ α} {cleanup : EStateM ε σ Unit} {value : α}
    (ran : body s = .ok value s') : reraising body cleanup s = .ok value s' := by
  simp only [reraising, ran]

theorem reraising_eq_ok {body : EStateM ε σ α} {cleanup : EStateM ε σ Unit} {value : α}
    (ended : reraising body cleanup s = .ok value s') : body s = .ok value s' := by
  unfold reraising at ended
  split at ended
  · next ran => rw [ran, ended]
  · next raised => split at ended <;> cases ended

theorem left_reraising_error {body : EStateM ε σ α} {cleanup : EStateM ε σ Unit} {exc : ε}
    (raised : body s = .error exc s') :
    left (reraising body cleanup s) = left (cleanup s') := by
  simp only [reraising, raised]
  cases cleanup s' <;> rfl

theorem reraising_error {body : EStateM ε σ α} {cleanup : EStateM ε σ Unit} {exc : ε} {s'' : σ}
    (raised : body s = .error exc s') (cleaned : cleanup s' = .ok () s'') :
    reraising body cleanup s = .error exc s'' := by
  simp only [reraising, raised, cleaned]

theorem finally_ok {body : EStateM ε σ α} {cleanup : EStateM ε σ Unit} {value : α} {s'' : σ}
    (ran : body s = .ok value s') (cleaned : cleanup s' = .ok () s'') :
    finally_ body cleanup s = .ok value s'' := by
  simp only [finally_, ran, cleaned]

theorem finally_error {body : EStateM ε σ α} {cleanup : EStateM ε σ Unit} {exc : ε} {s'' : σ}
    (raised : body s = .error exc s') (cleaned : cleanup s' = .ok () s'') :
    finally_ body cleanup s = .error exc s'' := by
  simp only [finally_, raised, cleaned]

/-- The cleanup runs in the state that the body has left, however it ends. -/
theorem left_finally (body : EStateM ε σ α) (cleanup : EStateM ε σ Unit) (s : σ) :
    left (finally_ body cleanup s) = left (cleanup (left (body s))) := by
  unfold finally_
  cases body s with
  | ok value s => simp only [left]; cases cleanup s <;> rfl
  | error exc s => simp only [left]; cases cleanup s <;> rfl

end sequences

variable {enter : EStateM ε σ α} {exit : Option ε → EStateM ε σ Bool}
  {body : α → EStateM ε σ β} {s s' : σ}

theorem withStatement_refused {exc : ε} (refused : enter s = .error exc s') :
    withStatement enter exit body s = .error exc s' := by
  simp only [withStatement, refused]

theorem withStatement_entered {value : α} (entered : enter s = .ok value s') :
    withStatement enter exit body s = leave exit (body value s') := by
  simp only [withStatement, entered]

/-- However the body ends, `exit` runs once, in the state that the body has left. -/
theorem left_leave (exit : Option ε → EStateM ε σ Bool) (ended : EStateM.Result ε σ β) :
    left (leave exit ended) = left (exit (thrown ended) (left ended)) := by
  cases ended with
  | ok value s => simp only [leave, thrown, left]; cases exit none s <;> rfl
  | error exc s =>
      simp only [leave, thrown, left]
      cases exit (some exc) s with
      | ok suppress s => cases suppress <;> rfl
      | error raised s => rfl

end Koil.WithStatement
