import Koil.QtContexts

namespace Koil

open Contexts QtCalls Runs

variable {α : Type}

namespace QtFutures

variable {setup : Setup} {s s' : State α} {P : Context → Prop}

/-- The contexts of the results which a future has, or is to have, meet a condition. -/
structure Hands (P : Context → Prop) (s : State α) : Prop where
  queued : ∀ context returns, .setFutureResult (context, returns) ∈ s.ready → P context
  kept : ∀ context returns, s.aiofuture = some (.returned (context, returns)) → P context

theorem hands_start : Hands P (start : State α) :=
  ⟨fun _ _ member => absurd member List.not_mem_nil, nofun⟩

theorem hands_mono {Q : Context → Prop} (held : Hands P s)
    (weaker : ∀ context, P context → Q context) : Hands Q s where
  queued _ _ member := weaker _ (held.queued _ _ member)
  kept _ _ done := weaker _ (held.kept _ _ done)

theorem result_queued {result : Result α}
    (ready : ∀ callback ∈ s'.ready, callback ∈ s.ready ∨ callback = .wake ∨ callback = .release)
    (member : .setFutureResult result ∈ s'.ready) : .setFutureResult result ∈ s.ready := by
  rcases ready _ member with before | wake | release
  · exact before
  · cases wake
  · cases release

theorem hands_moves (held : Hands P s) (moved : Moves s s') : Hands P s' where
  queued context returns member :=
    held.queued context returns (result_queued moved.ready member)
  kept context returns done := held.kept context returns (moved.results _ done)

theorem hands_push (held : Hands P s) {callback : Callback α}
    (known : ∀ context returns, callback = .setFutureResult (context, returns) → P context) :
    Hands P (s.push callback) where
  queued context returns member := by
    rcases List.mem_append.mp member with before | last
    · exact held.queued context returns before
    · exact known context returns (List.mem_singleton.mp last).symm
  kept := held.kept

theorem hands_offer (held : Hands P s) {attempt : TaskEnd (Result α)}
    (known : ∀ context returns, attempt = .returned (context, returns) → P context) :
    Hands P (s.offer attempt) where
  queued context returns member :=
    held.queued context returns (result_queued (offer_ready s attempt) member)
  kept context returns done := by
    rw [offer_aiofuture, Option.or_eq_some_iff] at done
    rcases done with before | ⟨_, first⟩
    · exact held.kept context returns before
    · exact known context returns (Option.some.inj first)

theorem moves_pop {callback : Callback α} {ready : List (Callback α)}
    (turn : s.ready = callback :: ready) : Moves s (s.pop ready) where
  toAdvances := advances_of_same rfl rfl rfl rfl rfl
  ready _ member := .inl (turn ▸ List.mem_cons_of_mem _ member)
  results _ done := done

theorem running_of_stage (stage : s'.stage = s.stage) : s'.running = s.running := by
  unfold State.running
  rw [stage]

def State.returned (s : State α) : Bool :=
  match s.stage with
  | .ended _ (.ok _) => true
  | _ => false

theorem items_of_returned {context : Context} {returns : α} (returned : s.returned = true)
    (done : s.aiofuture = some (.returned (context, returns))) : s.items = context := by
  unfold State.returned at returned
  split at returned
  · next stage => simp [State.items, stage, done]
  · cases returned

theorem items_cases (s : State α) : s.items = Context.empty ∨
    s.returned = true ∧ ∃ returns, s.aiofuture = some (.returned (s.items, returns)) := by
  cases done : s.aiofuture with
  | none => simp [State.items, done]
  | some fut =>
      cases fut with
      | raised exc => simp [State.items, done]
      | cancelled => simp [State.items, done]
      | returned result =>
          cases returned : s.returned with
          | true =>
              have items : s.items = result.1 := items_of_returned returned done
              exact .inr ⟨rfl, result.2, by rw [items]⟩
          | false =>
              unfold State.returned at returned
              split at returned
              · cases returned
              · next other =>
                  refine .inl ?_
                  unfold State.items
                  split
                  · next stage _ => exact absurd stage (other _ _)
                  · rfl

variable [Signals]

theorem hands_step (held : Hands P s) {label : Label α}
    (resolved : ∀ context returns, label = .resolve context returns → P context)
    (taken : step setup s label = some s') : Hands P s' := by
  cases label with
  | resolve context returns =>
      cases taken
      refine hands_push held ?_
      rintro context returns same
      cases same
      exact resolved context returns rfl
  | reject exc =>
      cases taken
      exact hands_push held nofun
  | awaits => exact hands_moves held (step_moves (.inl rfl) taken)
  | callback =>
      obtain ⟨callback, ready, _, turn, rfl⟩ := callback_cases taken
      have popped : Hands P (s.pop ready) := hands_moves held (moves_pop turn)
      cases callback with
      | setFutureResult result =>
          rw [setResult_eq]
          refine hands_offer popped ?_
          rintro context returns same
          cases same
          exact held.queued context returns (turn ▸ List.mem_cons_self)
      | setFutureException exc =>
          rw [setException_eq]
          exact hands_offer popped nofun
      | release => exact hands_moves popped (moves_release _)
      | wake => exact hands_moves popped (moves_resume _)
  | cancel => exact hands_moves held (step_moves (.inr (.inl rfl)) taken)
  | expire => exact hands_moves held (step_moves (.inr (.inr rfl)) taken)

theorem ended_step (ended : s.running = false) {label : Label α}
    (taken : step setup s label = some s') : s'.running = false := by
  obtain ⟨reason, outcome, stage⟩ : ∃ reason outcome, s.stage = .ended reason outcome := by
    unfold State.running at ended
    split at ended
    · next reason outcome stage => exact ⟨reason, outcome, stage⟩
    · cases ended
  cases label with
  | resolve context returns =>
      cases taken
      exact ended
  | reject exc =>
      cases taken
      exact ended
  | callback =>
      obtain ⟨callback, ready, _, _, rfl⟩ := callback_cases taken
      rw [← ended]
      apply running_of_stage
      cases callback with
      | setFutureResult result =>
          rw [setResult_eq]
          exact offer_stage _ _
      | setFutureException exc =>
          rw [setException_eq]
          exact offer_stage _ _
      | release => simp [State.runCallback, State.release, stage]
      | wake => simp [State.runCallback, State.resume, stage]
  | awaits => simp [step, stage] at taken
  | cancel => simp [step, stage] at taken
  | expire =>
      have untimed : s.timed setup = false := by simp [State.timed, stage]
      simp [step, untimed] at taken

theorem end_moves (running : s.running = true) {label : Label α}
    (taken : step setup s label = some s') (ended : s'.running = false) : Moves s s' := by
  have differs : s'.stage ≠ s.stage := by
    intro same
    rw [running_of_stage same, running] at ended
    cases ended
  cases label with
  | resolve context returns =>
      cases taken
      exact absurd rfl differs
  | reject exc =>
      cases taken
      exact absurd rfl differs
  | awaits => exact step_moves (.inl rfl) taken
  | callback =>
      obtain ⟨callback, ready, _, turn, rfl⟩ := callback_cases taken
      cases callback with
      | setFutureResult result =>
          rw [setResult_eq] at differs
          exact absurd (offer_stage _ _) differs
      | setFutureException exc =>
          rw [setException_eq] at differs
          exact absurd (offer_stage _ _) differs
      | release => exact (moves_pop turn).trans (moves_release _)
      | wake => exact (moves_pop turn).trans (moves_resume _)
  | cancel => exact step_moves (.inr (.inl rfl)) taken
  | expire => exact step_moves (.inr (.inr rfl)) taken

end QtFutures

namespace QtContexts

variable {setups : Nat → Setup} {s s' : State α} {label : Label α} {call : Nat}
  {held held' : Call α}

variable {main : Context} {contexts : Nat → Context} {history : List (State α × Label α)}

/-- The values that the caller had at the call, and what the slot has assigned. -/
def Call.Own (held : Call α) (var : Var) (value : Val) : Prop :=
  held.before var = some value ∨ (var, some value) ∈ held.assigned ++ held.inner

structure Ends (s s' : State α) (call : Nat) (held held' : Call α) : Prop where
  before : s.calls call = some held
  running : held.future.running = true
  after : s'.calls call = some held'
  ended : held'.future.running = false

theorem deliver_calls (s : State α) (call : Nat) (held : Call α) (future : QtFutures.State α) :
    (s.deliver call held future).calls =
      Function.update s.calls call (some { held with future := future }) := by
  unfold State.deliver
  simp only
  split <;> rfl

theorem deliver_main (s : State α) (call : Nat) (held : Call α) (future : QtFutures.State α) :
    (s.deliver call held future).main = s.main := by
  unfold State.deliver
  simp only
  split <;> rfl

theorem deliver_tasks (s : State α) (call : Nat) (held : Call α) (future : QtFutures.State α) :
    (s.deliver call held future).tasks =
      if held.future.running && !future.running then
        Function.update s.tasks held.task
          ⟨(s.tasks held.task).context.setItems future.items, none⟩
      else s.tasks := by
  unfold State.deliver
  simp only
  split <;> rfl

/-- While a call runs, its task awaits it with the context that it had at the call. The copy
that the slot runs in is what its assignments make of that context. -/
structure Consistent (s : State α) : Prop where
  awaits : ∀ call held, s.calls call = some held → held.future.running = true →
    s.tasks held.task = ⟨held.before, some call⟩
  copied : ∀ call held, s.calls call = some held → held.ctx = replay held.before held.assigned

theorem consistent_start (main : Context) (contexts : Nat → Context) :
    Consistent (start main contexts : State α) where
  awaits _ _ found := by simp [start] at found
  copied _ _ found := by simp [start] at found

/-- What a call hands over meets a condition that depends on what its slot has assigned. -/
def Handing (P : Call α → Context → Prop) (call : Nat) (s : State α) : Prop :=
  ∀ held, s.calls call = some held → QtFutures.Hands (P held) held.future

/-- The call is resolved where the current context holds values of its own only. -/
def ResolvesOwn (call : Nat) (s : State α) (label : Label α) : Prop :=
  ∀ returns held, label = .resolve call returns → s.calls call = some held →
    ∀ var value, s.current var = some value → held.Own var value

def InOwnSlot (call : Nat) (s : State α) (label : Label α) : Prop :=
  ∀ returns, label = .resolve call returns → s.frames.head? = some (.slot call)

theorem own_iff (held : Call α) (items : Context) (var : Var) :
    (held.before.setItems items var = held.before var ∨
      ∃ value, held.before.setItems items var = some value ∧
        (var, some value) ∈ held.assigned ++ held.inner) ↔
    ∀ value, items var = some value → held.Own var value := by
  cases item : items var with
  | none => simp [Context.setItems, item]
  | some value =>
      rw [setItems_of_set held.before items item]
      simp [Call.Own, eq_comm]

theorem grows_own {held held' : Call α} (grows : held.Grows held') {var : Var} {value : Val}
    (own : held.Own var value) : held'.Own var value := by
  unfold Call.Own at own ⊢
  rw [grows.before]
  rw [List.mem_append] at own ⊢
  rcases own with before | assigned | inner
  · exact .inl before
  · exact .inr (.inl (grows.assigned.subset assigned))
  · exact .inr (.inr (grows.inner.subset inner))

theorem current_of_slot (own : s.frames.head? = some (.slot call))
    (found : s.calls call = some held) : s.current = held.ctx := by
  unfold State.current
  cases frames : s.frames with
  | nil => simp [frames] at own
  | cons frame outer =>
      rw [frames, List.head?_cons, Option.some.injEq] at own
      subst own
      simp [found]

theorem resolvesOwn_of_slot (consistent : Consistent s) (own : InOwnSlot call s label) :
    ResolvesOwn call s label := by
  intro returns held resolves found var value holds
  rw [current_of_slot (own returns resolves) found, consistent.copied call held found] at holds
  rcases replay_own holds with before | assigned
  · exact .inl before
  · exact .inr (List.mem_append_left _ assigned)

structure Tracked (P : Call α → Context → Prop) (call : Nat) (s : State α) : Prop where
  consistent : Consistent s
  hands : Handing P call s

section signals

variable [Signals]

/-- A call of the next state is a new one or goes on, by what happens on the Qt thread or by
a step of its future. -/
theorem effect_calls (effect : Effect setups s label s') (after : s'.calls call = some held') :
    (∃ task, held' = .new task (s.tasks task).context ∧
      s'.tasks task = ⟨(s.tasks task).context, some call⟩) ∨
    ∃ held, s.calls call = some held ∧ held.Grows held' ∧
      (held'.future = held.future ∨ ∃ own,
        QtFutures.step (setups call) held.future own = some held'.future ∧
        ∀ context returns, own = .resolve context returns →
          label = .resolve call returns ∧ context = s.current) := by
  cases effect with
  | thread _ _ calls =>
      obtain ⟨held, before, grows, same⟩ := calls call held' after
      exact .inr ⟨held, before, grows, .inl same⟩
  | set task context free => exact .inr ⟨held', after, grows_refl held', .inl rfl⟩
  | acall task new free fresh =>
      by_cases same : call = new
      · subst same
        simp only [State.acall, Function.update_self, Option.some.injEq] at after ⊢
        exact .inl ⟨task, after.symm, Function.update_self ..⟩
      · simp only [State.acall, Function.update_of_ne same] at after
        exact .inr ⟨held', after, grows_refl held', .inl rfl⟩
  | @future frames own' held own future found advanced resolved =>
      rw [deliver_calls] at after
      by_cases same : call = own'
      · subst same
        rw [Function.update_self, Option.some.injEq] at after
        subst after
        exact .inr ⟨held, found, grows_future held future, .inr ⟨own, advanced, resolved⟩⟩
      · rw [Function.update_of_ne same] at after
        exact .inr ⟨held', after, grows_refl held', .inl rfl⟩

theorem effect_ends (effect : Effect setups s label s') (ends : Ends s s' call held held') :
    (∃ own, QtFutures.step (setups call) held.future own = some held'.future) ∧
      s'.tasks held.task =
        ⟨(s.tasks held.task).context.setItems held'.future.items, none⟩ := by
  obtain ⟨before, running, after, ended⟩ := ends
  -- a call whose future stays as it is does not end
  have goes : held'.future ≠ held.future := by
    intro same
    rw [same, running] at ended
    cases ended
  have differs : s'.calls call ≠ s.calls call := by
    intro same
    rw [before, after, Option.some.injEq] at same
    exact goes (by rw [same])
  cases effect with
  | thread _ _ calls =>
      obtain ⟨earlier, found, _, same⟩ := calls call held' after
      rw [before, Option.some.injEq] at found
      subst found
      exact absurd same goes
  | set task context free => exact absurd rfl differs
  | acall task new free fresh =>
      by_cases same : call = new
      · rw [same, fresh] at before
        cases before
      · exact absurd (Function.update_of_ne same _ _) differs
  | @future frames other advancing own future found advanced _ =>
      by_cases same : call = other
      · subst same
        rw [deliver_calls, Function.update_self, Option.some.injEq] at after
        rw [before, Option.some.injEq] at found
        subst found after
        refine ⟨⟨own, advanced⟩, ?_⟩
        rw [deliver_tasks, running, ended]
        exact Function.update_self ..
      · rw [deliver_calls] at differs
        exact absurd (Function.update_of_ne same _ _) differs

theorem effect_task (effect : Effect setups s label s') (task : Nat)
    (awaits : (s.tasks task).calling ≠ none) :
    s'.tasks task = s.tasks task ∨
      ∃ call held held', Ends s s' call held held' ∧ held.task = task := by
  cases effect with
  | thread tasks _ _ => exact .inl (by rw [tasks])
  | set other context free =>
      have elsewhere : task ≠ other := fun same => awaits (same ▸ free)
      exact .inl (Function.update_of_ne elsewhere _ _)
  | acall other new free fresh =>
      have elsewhere : task ≠ other := fun same => awaits (same ▸ free)
      exact .inl (Function.update_of_ne elsewhere _ _)
  | @future frames other advancing own future found advanced _ =>
      rw [deliver_tasks]
      split
      · next ends =>
          rw [Bool.and_eq_true, Bool.not_eq_true'] at ends
          by_cases same : task = advancing.task
          · refine .inr ⟨other, advancing, { advancing with future := future }, ?_, same.symm⟩
            refine ⟨found, ends.1, ?_, ends.2⟩
            rw [deliver_calls, Function.update_self]
          · exact .inl (Function.update_of_ne same _ _)
      · exact .inl rfl

theorem consistent_effect (consistent : Consistent s) (effect : Effect setups s label s') :
    Consistent s' where
  awaits call held' after running' := by
    rcases effect_calls effect after with ⟨task, rfl, begun⟩ | ⟨held, before, grows, future⟩
    · exact begun
    have running : held.future.running = true := by
      rcases future with same | ⟨own, advanced, _⟩
      · rw [← same, running']
      · by_contra ended
        rw [Bool.not_eq_true] at ended
        rw [QtFutures.ended_step ended advanced] at running'
        cases running'
    have awaited := consistent.awaits call held before running
    rw [grows.task, grows.before]
    rcases effect_task effect held.task (by simp [awaited]) with same | ended
    · rw [same, awaited]
    · obtain ⟨other, held₁, held₂, ends, sameTask⟩ := ended
      -- a task awaits one call at a time
      have awaited' := consistent.awaits other held₁ ends.before ends.running
      rw [sameTask, awaited, Task.mk.injEq, Option.some.injEq] at awaited'
      obtain ⟨_, rfl⟩ := awaited'
      rw [ends.after, Option.some.injEq] at after
      rw [← after, ends.ended] at running'
      cases running'
  copied call held' after := by
    rcases effect_calls effect after with ⟨task, rfl, _⟩ | ⟨held, before, grows, _⟩
    · rfl
    · exact grows.copy (consistent.copied call held before)

theorem handing_effect {P : Call α → Context → Prop}
    (mono : ∀ held held' : Call α, held.Grows held' → ∀ context, P held context → P held' context)
    (hands : Handing P call s) (effect : Effect setups s label s')
    (resolved : ∀ returns held, label = .resolve call returns → s.calls call = some held →
      P held s.current) : Handing P call s' := by
  intro held' after
  rcases effect_calls effect after with ⟨task, rfl, _⟩ | ⟨held, before, grows, future⟩
  · exact QtFutures.hands_start
  apply QtFutures.hands_mono _ (mono held held' grows)
  rcases future with same | ⟨own, advanced, here⟩
  · rw [same]
    exact hands held before
  · refine QtFutures.hands_step (hands held before) ?_ advanced
    intro context returns same
    obtain ⟨sameLabel, rfl⟩ := here context returns same
    exact resolved returns held sameLabel before

/-- The Qt thread's own context is left alone, except by code that assigns in it; and with the
end of the call every variable of its caller has the value from before the call or one that
the call's slot has assigned to it. -/
def Isolated (setups : Nat → Setup) (call : Nat) (s : State α) (label : Label α) : Prop :=
  ∀ s', step setups s label = some s' →
    (s'.main = s.main ∨ s.frames = [] ∧ ∃ var value, label = .assign var value) ∧
    ∀ held held', Ends s s' call held held' → ∀ var,
      (s'.tasks held.task).context var = held.before var ∨
      ∃ value, (s'.tasks held.task).context var = some value ∧
        (var, some value) ∈ held.assigned ++ held.inner

/-- If the call returns, the context of its result holds values of its own only. -/
def BringsOwn (setups : Nat → Setup) (call : Nat) (s : State α) (label : Label α) : Prop :=
  ∀ s' held held', step setups s label = some s' → Ends s s' call held held' →
    held'.future.returned = true → ∀ context returns,
    held.future.aiofuture = some (.returned (context, returns)) →
    ∀ var value, context var = some value → held.Own var value

/-- What its caller sees after the call is determined by the caller's context at the call and
by what the slot has assigned. -/
def Determined (setups : Nat → Setup) (call : Nat) (s : State α) (label : Label α) : Prop :=
  ∀ s' held held', step setups s label = some s' → Ends s s' call held held' →
    ∃ earlier, earlier <+: held.assigned ∧
      (s'.tasks held.task).context = held.before.setItems (replay held.before earlier)

theorem effect_main (effect : Effect setups s label s') :
    s'.main = s.main ∨ s.frames = [] ∧ ∃ var value, label = .assign var value := by
  cases effect with
  | thread _ main _ => exact main
  | set task context free => exact .inl rfl
  | acall task call free fresh => exact .inl rfl
  | future frames call found advanced resolved => exact .inl (deliver_main _ _ _ _)

theorem ends_context (consistent : Consistent s) (effect : Effect setups s label s')
    (ends : Ends s s' call held held') :
    (s'.tasks held.task).context = held.before.setItems held'.future.items := by
  rw [(effect_ends effect ends).2, consistent.awaits call held ends.before ends.running]

theorem ends_returned (effect : Effect setups s label s') (ends : Ends s s' call held held')
    (context : Context) (returns : α) :
    held'.future.aiofuture = some (.returned (context, returns)) ↔
      held.future.aiofuture = some (.returned (context, returns)) := by
  obtain ⟨own, advanced⟩ := (effect_ends effect ends).1
  constructor
  · exact (QtFutures.end_moves ends.running advanced ends.ended).results _
  · intro done
    obtain ⟨later, _, kept⟩ := (QtFutures.step_advances advanced).tried
    rw [kept, done, Option.some_or]

/-- A step is harmless to the caller exactly if what it brings is the call's own. -/
theorem isolated_iff (consistent : Consistent s) :
    Isolated setups call s label ↔ BringsOwn setups call s label := by
  constructor
  · intro isolated s'' held held' taken' ends returned context returns done var
    have effect := step_effect taken'
    have items : held'.future.items = context :=
      QtFutures.items_of_returned returned ((ends_returned effect ends context returns).mpr done)
    have kept := (isolated s'' taken').2 held held' ends var
    rw [ends_context consistent effect ends, items] at kept
    exact (own_iff held context var).mp kept
  · intro brings s'' taken'
    have effect := step_effect taken'
    refine ⟨effect_main effect, ?_⟩
    intro held held' ends var
    rw [ends_context consistent effect ends, own_iff]
    rcases QtFutures.items_cases held'.future with none | ⟨returned, returns, done⟩
    · rw [none]
      exact fun _ => nofun
    · have before := (ends_returned effect ends _ returns).mp done
      exact brings s'' held held' taken' ends returned _ returns before var

theorem consistent_run (run : Reaches (step setups) (start main contexts) history s) :
    Consistent s := by
  have preserved : ∀ (s : State α) (label : Label α) (s' : State α), Consistent s →
      step setups s label = some s' → Consistent s' :=
    fun _ _ _ consistent taken => consistent_effect consistent (step_effect taken)
  exact run.invariant (consistent_start main contexts) preserved

theorem tracked_run (call : Nat) {P : Call α → Context → Prop}
    {Meets Q : State α → Label α → Prop}
    (mono : ∀ held held' : Call α, held.Grows held' → ∀ context, P held context → P held' context)
    (resolved : ∀ s label returns held, Consistent s → Meets s label →
      label = .resolve call returns → s.calls call = some held → P held s.current)
    (good : ∀ s label s', Tracked P call s → step setups s label = some s' → Q s label)
    (run : Reaches (step setups) (start main contexts) history s)
    (met : ∀ taken ∈ history, Meets taken.1 taken.2) : ∀ taken ∈ history, Q taken.1 taken.2 := by
  have initial : Tracked P call (start main contexts : State α) := by
    refine ⟨consistent_start main contexts, ?_⟩
    intro held found
    simp [start] at found
  have preserved : ∀ (s : State α) (label : Label α) (s' : State α), Tracked P call s →
      Meets s label → step setups s label = some s' → Tracked P call s' := by
    intro s label s' tracked meets taken
    have effect := step_effect taken
    refine ⟨consistent_effect tracked.consistent effect, ?_⟩
    exact handing_effect mono tracked.hands effect fun returns held =>
      resolved s label returns held tracked.consistent meets
  exact run.guarded_steps initial preserved good met

theorem isolated_of_resolves (run : Reaches (step setups) (start main contexts) history s)
    (own : ∀ taken ∈ history, ResolvesOwn call taken.1 taken.2) :
    ∀ taken ∈ history, Isolated setups call taken.1 taken.2 := by
  refine tracked_run call (P := fun held context => ∀ var value, context var = some value →
    held.Own var value) ?_ ?_ ?_ run own
  · intro held held' grows context holds var value there
    exact grows_own grows (holds var value there)
  · intro s label returns held _ resolvesOwn resolves found
    exact resolvesOwn returns held resolves found
  · intro s label _ tracked _
    rw [isolated_iff tracked.consistent]
    intro s' held held' _ ends _ context returns done
    exact (tracked.hands held ends.before).kept context returns done

theorem determined_of_slot (run : Reaches (step setups) (start main contexts) history s)
    (own : ∀ taken ∈ history, InOwnSlot call taken.1 taken.2) :
    ∀ taken ∈ history, Determined setups call taken.1 taken.2 := by
  refine tracked_run call (P := fun held context => ∃ earlier, earlier <+: held.assigned ∧
    context = replay held.before earlier) ?_ ?_ ?_ run own
  · rintro held held' grows context ⟨earlier, before, rfl⟩
    exact ⟨earlier, before.trans grows.assigned, by rw [grows.before]⟩
  · intro s label returns held consistent inSlot resolves found
    refine ⟨held.assigned, List.prefix_rfl, ?_⟩
    rw [current_of_slot (inSlot returns resolves) found, consistent.copied call held found]
  · intro s label _ tracked _ s' held held' taken ends
    have effect := step_effect taken
    have after := ends_context tracked.consistent effect ends
    rcases QtFutures.items_cases held'.future with none | ⟨_, returns, done⟩
    · refine ⟨[], List.nil_prefix, ?_⟩
      rw [after, none]
      exact (setItems_same held.before).symm
    · have before := (ends_returned effect ends _ returns).mp done
      obtain ⟨earlier, recent, same⟩ := (tracked.hands held ends.before).kept _ returns before
      exact ⟨earlier, recent, by rw [after, same]⟩

/-- The calls leave their callers and the Qt thread alone exactly if every result comes with
values of its own call; so they do if they are resolved where only such values are current,
and what is resolved in its own slot depends on nothing else. -/
theorem caller_isolated_iff (run : Reaches (step setups) (start main contexts) history s)
    (call : Nat) :
    ((∀ taken ∈ history, Isolated setups call taken.1 taken.2) ↔
        ∀ taken ∈ history, BringsOwn setups call taken.1 taken.2) ∧
      ((∀ taken ∈ history, ResolvesOwn call taken.1 taken.2) →
        ∀ taken ∈ history, Isolated setups call taken.1 taken.2) ∧
      ((∀ taken ∈ history, InOwnSlot call taken.1 taken.2) →
        ∀ taken ∈ history, Isolated setups call taken.1 taken.2 ∧
          Determined setups call taken.1 taken.2) := by
  refine ⟨?_, isolated_of_resolves run, ?_⟩
  · have agree : ∀ earlier (s : State α) (label : Label α) (s' : State α),
        Reaches (step setups) (start main contexts) earlier s → step setups s label = some s' →
        (Isolated setups call s label ↔ BringsOwn setups call s label) :=
      fun _ _ _ _ before _ => isolated_iff (consistent_run before)
    exact run.forall_steps_congr agree
  · intro inSlot
    have resolves : ∀ taken ∈ history, ResolvesOwn call taken.1 taken.2 := by
      intro taken member
      obtain ⟨_, before, _⟩ := run.at_step member
      exact resolvesOwn_of_slot (consistent_run before) (inSlot taken member)
    intro taken member
    exact ⟨isolated_of_resolves run resolves taken member,
      determined_of_slot run inSlot taken member⟩

end signals

/-- The Qt thread is in a Koil of its own, as after `QtKoil.__enter__`. -/
def qtMain : Context := (Context.empty.set .globalKoil (.koil 7)).set .globalKoilLoop (.loop 7)

def callers (task : Nat) : Context :=
  ((Context.empty.set .globalKoil (.koil 1)).set .globalKoilLoop (.loop 1)).set (.user 0)
    (.user task)

def untimed (_ : Nat) : Setup := ⟨true, none⟩

def resolvedInSlot : List (Label Unit) :=
  [.acall 3 0, .awaits 0, .onCalled 0, .assign (.user 0) (some (.user 5)), .resolve 0 (), .leave,
    .callback 0, .callback 0]

theorem caller_isolated_iff_in_slot :
    ∃ (history : List (State Unit × Label Unit)) (s : State Unit),
      Reaches (step untimed) (start qtMain callers) history s ∧
      (s.tasks 3).context (.user 0) = some (.user 5) ∧
      (s.tasks 3).context .globalKoilLoop = some (.loop 1) ∧
      ∀ taken ∈ history, Isolated untimed 0 taken.1 taken.2 ∧
        Determined untimed 0 taken.1 taken.2 := by
  have initial : Reaches (step untimed) (start qtMain callers : State Unit) []
      (start qtMain callers) := .start
  have run := initial.follow resolvedInSlot rfl
  refine ⟨_, _, run, rfl, rfl, (caller_isolated_iff run 0).2.2 ?_⟩
  simp only [List.forall_mem_cons]
  -- the resolution is the fourth step from the end
  exact ⟨nofun, nofun, nofun, fun _ _ => rfl, nofun, nofun, nofun, nofun, nofun⟩

def resolvedElsewhere : List (Label Unit) :=
  [.acall 3 0, .acall 4 1, .awaits 0, .awaits 1, .onCalled 0, .leave, .onCalled 1, .resolve 0 (),
    .leave, .resolve 1 (), .callback 0, .callback 0, .callback 1, .callback 1]

/-- The first caller has the second one's value after its call, the second one the Koil of
the Qt thread. -/
theorem resolver_contaminates_caller :
    ∃ (history : List (State Unit × Label Unit)) (s : State Unit),
      Reaches (step untimed) (start qtMain callers) history s ∧
      (s.tasks 3).context (.user 0) = some (.user 4) ∧
      (s.tasks 4).context .globalKoilLoop = some (.loop 7) ∧
      ¬ (∀ taken ∈ history, Isolated untimed 0 taken.1 taken.2) ∧
      ¬ ∀ taken ∈ history, Isolated untimed 1 taken.1 taken.2 := by
  have initial : Reaches (step untimed) (start qtMain callers : State Unit) []
      (start qtMain callers) := .start
  have run := initial.follow resolvedElsewhere rfl
  refine ⟨_, _, run, rfl, rfl, ?_, ?_⟩
  · intro isolated
    have kept := isolated _ (.tail _ (.tail _ (.head _))) _ rfl
    have changed := kept.2 _ _ ⟨rfl, rfl, rfl, rfl⟩ (.user 0)
    rcases changed with same | ⟨value, _, assigned⟩
    · exact absurd same (by decide)
    · cases assigned
  · intro isolated
    have kept := isolated _ (.head _) _ rfl
    have changed := kept.2 _ _ ⟨rfl, rfl, rfl, rfl⟩ .globalKoilLoop
    rcases changed with same | ⟨value, _, assigned⟩
    · exact absurd same (by decide)
    · cases assigned

end QtContexts

end Koil
