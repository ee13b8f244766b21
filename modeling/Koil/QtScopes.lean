import Koil.QtEmissions
import Mathlib.Data.List.InsertIdx
import Mathlib.Data.List.Perm.Basic

/-! What the Contexts of emissions are for, and when they do it: each delivery has variables of
its own, which are gone when it is over, and `result()` hands over what the task has left. -/

namespace Koil.QtEmissions

open Contexts Runs

variable {V : Type}

/-- The state in which every event and every delivery has its variables to itself. -/
structure Spec (V : Type) where
  threads : Nat → Context
  taskVars : Nat → Context
  tasks : Nat → Task Context V
  queue : List (Event Context V)
  frames : List (Frame Context V)
  emitted : List (Nat × Signal V)
  calls : List Call

def innermost : List (Frame Context V) → Option Context
  | [] => none
  | frame :: frames => frame.event.scope.or (innermost frames)

def changeInnermost (change : Context → Context) :
    List (Frame Context V) → List (Frame Context V)
  | [] => []
  | frame :: frames =>
      match frame.event.scope with
      | some ctx =>
          { frame with event := { frame.event with scope := some (change ctx) } } :: frames
      | none => frame :: changeInnermost change frames

def Spec.current (s : Spec V) (thread : Nat) : Context :=
  if thread = qt then (innermost s.frames).getD (s.threads qt) else s.threads thread

def Spec.change (s : Spec V) (thread : Nat) (change : Context → Context) : Spec V :=
  if thread = qt ∧ (innermost s.frames).isSome = true then
    { s with frames := changeInnermost change s.frames }
  else { s with threads := Function.update s.threads thread (change (s.threads thread)) }

def Spec.setTask (s : Spec V) (run : Nat) (task : Task Context V) : Spec V :=
  { s with tasks := Function.update s.tasks run task }

def Spec.setVariables (s : Spec V) (run : Nat) (ctx : Context) : Spec V :=
  { s with taskVars := Function.update s.taskVars run ctx }

def Spec.emit (s : Spec V) (run : Nat) (signal : Signal V) (scope : Option Context) : Spec V :=
  { s with
    queue := s.queue ++ [⟨s.emitted.length, run, signal, scope⟩]
    emitted := s.emitted ++ [(run, signal)] }

def Spec.call (s : Spec V) (number slot : Nat) : Spec V :=
  { s with calls := s.calls ++ [⟨slot, number, s.current qt⟩] }

/-- The same steps on variables instead of references to them. -/
def Spec.step (setup : Setup) (s : Spec V) : Label V → Option (Spec V)
  | .assign thread var value => some (s.change thread fun ctx => Function.update ctx var value)
  | .submit thread run =>
      match (s.tasks run).work with
      | .absent =>
          some ((s.setVariables run (s.current thread)).setTask run ⟨.running, none, false⟩)
      | _ => none
  | .taskAssigns run var value =>
      match (s.tasks run).work with
      | .running => some (s.setVariables run (Function.update (s.taskVars run) var value))
      | _ => none
  | .yields run value =>
      match (s.tasks run).work, setup.kind run with
      | .running, .generator => some (s.emit run (.yielded value) (some (s.taskVars run)))
      | _, _ => none
  | .returns run value =>
      match (s.tasks run).work with
      | .running =>
          if value.isSome = (setup.kind run == .coroutine) then
            some (s.setTask run { s.tasks run with work := .returned value (s.taskVars run) })
          else none
      | _ => none
  | .reports run outcome =>
      match (s.tasks run).reported, report (setup.kind run) outcome (s.tasks run).work with
      | none, some (signal, scope) =>
          some ((s.setTask run { s.tasks run with reported := some outcome }).emit run signal scope)
      | _, _ => none
  | .resolves run =>
      match (s.tasks run).reported with
      | some _ => some (s.setTask run { s.tasks run with resolved := true })
      | none => none
  | .result thread run =>
      match s.tasks run with
      | ⟨.returned _ left, some .returned, true⟩ =>
          some (s.change thread fun ctx => ctx.setItems left)
      | _ => none
  | .dispatch position slots again =>
      match s.queue[position]? with
      | none => none
      | some event =>
          if event.mayRepeat again = false then none
          else
            match slots with
            | [] => some { s with queue := remaining s.queue position again }
            | slot :: slots =>
                some ({ s with
                  queue := remaining s.queue position again
                  frames := ⟨event, slot :: slots⟩ :: s.frames }.call event.number slot)
  | .slotReturns =>
      match s.frames with
      | [] => none
      | ⟨event, slots⟩ :: frames =>
          match slots.tail with
          | [] => some { s with frames := frames }
          | slot :: slots =>
              some ({ s with frames := ⟨event, slot :: slots⟩ :: frames }.call event.number slot)

/-! ### What a state of the machine stands for -/

def Event.read (contexts : Holder → Context) (event : Event Nat V) : Event Context V :=
  { event with scope := event.scope.map fun id => contexts (.copy id) }

def Frame.read (contexts : Holder → Context) (frame : Frame Nat V) : Frame Context V :=
  ⟨frame.event.read contexts, frame.slots⟩

def Work.read (left : Context) : Work Nat V → Work Context V
  | .absent => .absent
  | .running => .running
  | .returned value _ => .returned value left

def State.read (s : State V) : Spec V where
  threads thread := s.contexts (.thread thread)
  taskVars run := s.contexts (.task run)
  tasks run := { s.tasks run with work := (s.tasks run).work.read (s.contexts (.task run)) }
  queue := s.queue.map (Event.read s.contexts)
  frames := s.frames.map (Frame.read s.contexts)
  emitted := s.emitted
  calls := s.calls

def scopes (events : List (Event Nat V)) : List Nat := events.filterMap Event.scope

def State.scopes (s : State V) : List Nat :=
  QtEmissions.scopes (s.queue ++ s.frames.map Frame.event)

/-- No copy serves two deliveries. One that a result came with serves none before the result
is reported, and none at all if it is a generator's; until then it is what the task has left. -/
structure Private (setup : Setup) (s : State V) : Prop where
  once : s.scopes.Nodup
  made : ∀ id ∈ s.scopes, id < s.copies
  results : ∀ run value id, (s.tasks run).work = .returned value id → id < s.copies
  own : ∀ run run' value value' id, (s.tasks run).work = .returned value id →
    (s.tasks run').work = .returned value' id → run = run'
  untouched : ∀ run value id, (s.tasks run).work = .returned value id →
    (s.tasks run).reported = none ∨ setup.kind run = .generator →
    id ∉ s.scopes ∧ s.contexts (.copy id) = s.contexts (.task run)

theorem private_start (setup : Setup) (contexts : Nat → Context) :
    Private setup (start contexts : State V) where
  once := .nil
  made _ member := by cases member
  results _ _ _ returned := by cases returned
  own _ _ _ _ _ returned := by cases returned
  untouched _ _ _ returned := by cases returned

section reading

variable {contexts contexts' : Holder → Context}

theorem scopes_append (events later : List (Event Nat V)) :
    scopes (events ++ later) = scopes events ++ scopes later := List.filterMap_append

theorem mem_scopes {events : List (Event Nat V)} {event : Event Nat V} {id : Nat}
    (member : event ∈ events) (scope : event.scope = some id) : id ∈ scopes events :=
  List.mem_filterMap.mpr ⟨event, member, scope⟩

theorem read_events {events : List (Event Nat V)}
    (same : ∀ id ∈ scopes events, contexts (.copy id) = contexts' (.copy id)) :
    events.map (Event.read contexts) = events.map (Event.read contexts') := by
  refine List.map_congr_left fun event member => ?_
  cases scope : event.scope with
  | none => simp [Event.read, scope]
  | some id => simp [Event.read, scope, same id (mem_scopes member scope)]

theorem read_frames {frames : List (Frame Nat V)}
    (same : ∀ id ∈ scopes (frames.map Frame.event), contexts (.copy id) = contexts' (.copy id)) :
    frames.map (Frame.read contexts) = frames.map (Frame.read contexts') := by
  refine List.map_congr_left fun frame member => ?_
  have listed : frame.event ∈ frames.map Frame.event := List.mem_map_of_mem member
  cases scope : frame.event.scope with
  | none => simp [Frame.read, Event.read, scope]
  | some id => simp [Frame.read, Event.read, scope, same id (mem_scopes listed scope)]

theorem scopeOf_cases (frames : List (Frame Nat V)) :
    scopeOf frames = .thread qt ∧ scopes (frames.map Frame.event) = [] ∨
      ∃ id ∈ scopes (frames.map Frame.event), scopeOf frames = .copy id := by
  induction frames with
  | nil => exact .inl ⟨rfl, rfl⟩
  | cons frame frames ih =>
      cases scope : frame.event.scope with
      | some id => exact .inr ⟨id, by simp [scopes, scope], by simp [scopeOf, scope]⟩
      | none =>
          have same : scopes ((frame :: frames).map Frame.event) =
              scopes (frames.map Frame.event) := by simp [scopes, scope]
          have inner : scopeOf (frame :: frames) = scopeOf frames := by simp [scopeOf, scope]
          rw [same, inner]
          exact ih

theorem innermost_read (contexts : Holder → Context) (frames : List (Frame Nat V)) :
    innermost (frames.map (Frame.read contexts)) =
      match scopeOf frames with
      | .copy id => some (contexts (.copy id))
      | _ => none := by
  induction frames with
  | nil => rfl
  | cons frame frames ih =>
      cases scope : frame.event.scope with
      | some id => simp [innermost, Frame.read, Event.read, scopeOf, scope]
      | none => simpa [innermost, Frame.read, Event.read, scopeOf, scope] using ih

theorem changeInnermost_read (contexts : Holder → Context) {frames : List (Frame Nat V)}
    {id : Nat} (scope : scopeOf frames = .copy id) (once : (scopes (frames.map Frame.event)).Nodup)
    (change : Context → Context) :
    changeInnermost change (frames.map (Frame.read contexts)) =
      frames.map (Frame.read
        (Function.update contexts (.copy id) (change (contexts (.copy id))))) := by
  induction frames with
  | nil => cases scope
  | cons frame frames ih =>
      cases own : frame.event.scope with
      | some other =>
          have same : other = id := by simpa [scopeOf, own] using scope
          subst same
          have apart : other ∉ scopes (frames.map Frame.event) := by
            simp only [List.map_cons, scopes, List.filterMap_cons, own, List.nodup_cons] at once
            exact once.1
          have rest : frames.map (Frame.read contexts) =
              frames.map (Frame.read
                (Function.update contexts (.copy other) (change (contexts (.copy other))))) :=
            read_frames fun id member => by
              have differ : id ≠ other := fun same => apart (same ▸ member)
              simp [differ]
          simp only [List.map_cons, changeInnermost, ← rest]
          simp [Frame.read, Event.read, own]
      | none =>
          have inner : scopeOf frames = .copy id := by simpa [scopeOf, own] using scope
          have later : (scopes (frames.map Frame.event)).Nodup := by
            simpa [scopes, own] using once
          simp only [List.map_cons, changeInnermost, ih inner later]
          simp [Frame.read, Event.read, own]

end reading

section steps

variable {s : State V} {setup : Setup}

theorem State.scopes_eq (s : State V) :
    s.scopes = QtEmissions.scopes s.queue ++ QtEmissions.scopes (s.frames.map Frame.event) :=
  scopes_append ..

theorem mem_scopes_queue {id : Nat} (member : id ∈ scopes s.queue) : id ∈ s.scopes := by
  rw [s.scopes_eq]
  exact List.mem_append_left _ member

theorem mem_scopes_frames {id : Nat} (member : id ∈ scopes (s.frames.map Frame.event)) :
    id ∈ s.scopes := by
  rw [s.scopes_eq]
  exact List.mem_append_right _ member

theorem read_current (s : State V) (thread : Nat) : s.read.current thread = s.current thread := by
  unfold Spec.current State.current State.holder
  split
  · simp only [State.read, innermost_read]
    rcases scopeOf_cases s.frames with ⟨bare, -⟩ | ⟨id, -, scope⟩
    · rw [bare]
      rfl
    · rw [scope]
      rfl
  · rfl

theorem read_write_thread (s : State V) (thread : Nat) (ctx : Context) :
    (s.write (.thread thread) ctx).read =
      { s.read with threads := Function.update s.read.threads thread ctx } := by
  have queue : s.queue.map (Event.read (s.write (.thread thread) ctx).contexts) =
      s.queue.map (Event.read s.contexts) := read_events fun id _ => by simp [State.write]
  have frames : s.frames.map (Frame.read (s.write (.thread thread) ctx).contexts) =
      s.frames.map (Frame.read s.contexts) := read_frames fun id _ => by simp [State.write]
  simp only [State.read, State.write] at queue frames ⊢
  rw [queue, frames]
  congr 1
  funext other
  by_cases same : other = thread <;> simp [same]

theorem read_write_task {run : Nat} (live : ∀ value id, (s.tasks run).work ≠ .returned value id)
    (ctx : Context) : (s.write (.task run) ctx).read = s.read.setVariables run ctx := by
  have queue : s.queue.map (Event.read (s.write (.task run) ctx).contexts) =
      s.queue.map (Event.read s.contexts) := read_events fun id _ => by simp [State.write]
  have frames : s.frames.map (Frame.read (s.write (.task run) ctx).contexts) =
      s.frames.map (Frame.read s.contexts) := read_frames fun id _ => by simp [State.write]
  simp only [State.read, State.write, Spec.setVariables] at queue frames ⊢
  rw [queue, frames]
  congr 1
  · funext other
    by_cases same : other = run <;> simp [same]
  · funext other
    by_cases same : other = run
    · subst same
      cases work : (s.tasks other).work with
      | absent => rfl
      | running => rfl
      | returned value id => exact absurd work (live value id)
    · simp [same]

theorem read_setTask (s : State V) (run : Nat) (task : Task Nat V) :
    (s.setTask run task).read = s.read.setTask run
      { task with work := task.work.read (s.contexts (.task run)) } := by
  simp only [State.read, State.setTask, Spec.setTask]
  congr 1
  funext other
  by_cases same : other = run
  · subst same
    simp
  · simp [same]

theorem read_emit (s : State V) (run : Nat) (signal : Signal V) (scope : Option Nat) :
    (s.emit run signal scope).read =
      s.read.emit run signal (scope.map fun id => s.contexts (.copy id)) := by
  simp [State.read, State.emit, Spec.emit, Event.read]

theorem read_copy (made : ∀ id ∈ s.scopes, id < s.copies) (run : Nat) :
    (s.copy run).read = s.read := by
  have other : ∀ id ∈ s.scopes, (s.copy run).contexts (.copy id) = s.contexts (.copy id) := by
    intro id member
    have differ : id ≠ s.copies := Nat.ne_of_lt (made id member)
    simp [State.copy, State.write, differ]
  have queue : s.queue.map (Event.read (s.copy run).contexts) =
      s.queue.map (Event.read s.contexts) :=
    read_events fun id member => other id (mem_scopes_queue member)
  have frames : s.frames.map (Frame.read (s.copy run).contexts) =
      s.frames.map (Frame.read s.contexts) :=
    read_frames fun id member => other id (mem_scopes_frames member)
  simp only [State.read, State.copy, State.write] at queue frames ⊢
  rw [queue, frames]
  simp

theorem read_call (s : State V) (number slot : Nat) :
    (s.call number slot).read = s.read.call number slot := by
  have current := read_current s qt
  simp only [State.read, State.call, Spec.call] at current ⊢
  rw [← current]

theorem read_change (once : s.scopes.Nodup) (thread : Nat) (change : Context → Context) :
    (s.write (s.holder thread) (change (s.current thread))).read =
      s.read.change thread change := by
  have bare : s.holder thread = .thread thread →
      ¬ (thread = qt ∧ (innermost s.read.frames).isSome = true) →
      (s.write (s.holder thread) (change (s.current thread))).read =
        s.read.change thread change := by
    intro holder outside
    rw [State.current, holder, read_write_thread, Spec.change, if_neg outside]
    rfl
  by_cases main : thread = qt
  · subst main
    rcases scopeOf_cases s.frames with ⟨scope, -⟩ | ⟨id, member, scope⟩
    · refine bare (by simp [State.holder, scope]) ?_
      simp [State.read, innermost_read, scope]
    · have holder : s.holder qt = .copy id := by simp [State.holder, scope]
      have inside : qt = qt ∧ (innermost s.read.frames).isSome = true := by
        simp [State.read, innermost_read, scope]
      rw [s.scopes_eq] at once
      have framesOnce := (List.nodup_append.mp once).2.1
      have apart : id ∉ scopes s.queue :=
        fun queued => (List.nodup_append.mp once).2.2 id queued id member rfl
      have queue : s.queue.map (Event.read
          (Function.update s.contexts (.copy id) (change (s.contexts (.copy id))))) =
          s.queue.map (Event.read s.contexts) := read_events fun other queued => by
        have differ : other ≠ id := fun same => apart (same ▸ queued)
        simp [differ]
      have changed := changeInnermost_read s.contexts scope framesOnce change
      rw [State.current, holder, Spec.change, if_pos inside]
      simp only [State.read, State.write, queue, changed]
      simp
  · refine bare (by simp [State.holder, main]) ?_
    simp [main]

theorem holder_cases (s : State V) (thread : Nat) :
    s.holder thread = .thread thread ∨ ∃ id ∈ s.scopes, s.holder thread = .copy id := by
  unfold State.holder
  split
  · next main =>
      rcases scopeOf_cases s.frames with ⟨bare, -⟩ | ⟨id, member, scope⟩
      · exact .inl (main ▸ bare)
      · exact .inr ⟨id, mem_scopes_frames member, scope⟩
  · exact .inl rfl

theorem private_write (held : Private setup s) (thread : Nat) (ctx : Context) :
    Private setup (s.write (s.holder thread) ctx) := by
  refine { held with untouched := fun run value id returned own => ?_ }
  obtain ⟨apart, same⟩ := held.untouched run value id returned own
  refine ⟨apart, ?_⟩
  rcases holder_cases s thread with bare | ⟨other, member, scope⟩
  · simpa [State.write, bare] using same
  · have differ : id ≠ other := fun equal => apart (equal ▸ member)
    simpa [State.write, scope, differ] using same

theorem private_write_task (held : Private setup s) {run : Nat}
    (live : ∀ value id, (s.tasks run).work ≠ .returned value id) (ctx : Context) :
    Private setup (s.write (.task run) ctx) := by
  refine { held with untouched := fun other value id returned own => ?_ }
  obtain ⟨apart, same⟩ := held.untouched other value id returned own
  have differ : other ≠ run := fun equal => live value id (equal ▸ returned)
  exact ⟨apart, by simpa [State.write, differ] using same⟩

theorem private_copy (held : Private setup s) (run : Nat) : Private setup (s.copy run) where
  once := held.once
  made id member := Nat.lt_succ_of_lt (held.made id member)
  results run value id returned := Nat.lt_succ_of_lt (held.results run value id returned)
  own := held.own
  untouched other value id returned own := by
    obtain ⟨apart, same⟩ := held.untouched other value id returned own
    have differ : id ≠ s.copies := Nat.ne_of_lt (held.results other value id returned)
    exact ⟨apart, by simpa [State.copy, State.write, differ] using same⟩

theorem private_setTask (held : Private setup s) (run : Nat) {task : Task Nat V}
    (kept : ∀ value id, task.work = .returned value id →
      (s.tasks run).work = .returned value id ∧
        (task.reported = none → (s.tasks run).reported = none)) :
    Private setup (s.setTask run task) := by
  have before : ∀ other value id, ((s.setTask run task).tasks other).work = .returned value id →
      (s.tasks other).work = .returned value id ∧
        (((s.setTask run task).tasks other).reported = none → (s.tasks other).reported = none) := by
    intro other value id returned
    by_cases same : other = run
    · subst same
      simp only [State.setTask, Function.update_self] at returned ⊢
      exact kept value id returned
    · simp only [State.setTask, Function.update_of_ne same] at returned ⊢
      exact ⟨returned, fun none => none⟩
  exact {
    once := held.once
    made := held.made
    results := fun other value id returned =>
      held.results other value id (before other value id returned).1
    own := fun other other' value value' id returned returned' =>
      held.own other other' value value' id (before _ _ _ returned).1 (before _ _ _ returned').1
    untouched := fun other value id returned own => by
      obtain ⟨returned, reported⟩ := before other value id returned
      exact held.untouched other value id returned (own.imp_left reported) }

theorem private_returns (held : Private setup s) {run : Nat} (value : Option V)
    (running : (s.tasks run).work = .running) :
    Private setup
      ((s.copy run).setTask run { s.tasks run with work := .returned value s.copies }) := by
  have copied := private_copy held run
  have before : ∀ other value' id,
      (((s.copy run).setTask run { s.tasks run with work := .returned value s.copies }).tasks
        other).work = .returned value' id →
      other = run ∧ id = s.copies ∨ other ≠ run ∧ (s.tasks other).work = .returned value' id := by
    intro other value' id returned
    by_cases same : other = run
    · subst same
      simp only [State.setTask, Function.update_self, Work.returned.injEq] at returned
      exact .inl ⟨rfl, returned.2.symm⟩
    · simp only [State.setTask, Function.update_of_ne same] at returned
      exact .inr ⟨same, returned⟩
  refine ⟨copied.once, copied.made, ?_, ?_, ?_⟩
  · intro other value' id returned
    rcases before other value' id returned with ⟨-, rfl⟩ | ⟨-, returned⟩
    · exact Nat.lt_succ_self _
    · exact copied.results other value' id returned
  · intro other other' value' value'' id returned returned'
    rcases before other value' id returned with ⟨rfl, rfl⟩ | ⟨differ, returned⟩
    · rcases before other' value'' _ returned' with ⟨rfl, -⟩ | ⟨-, returned'⟩
      · rfl
      · exact absurd (held.results other' value'' _ returned') (Nat.lt_irrefl _)
    · rcases before other' value'' id returned' with ⟨-, rfl⟩ | ⟨-, returned'⟩
      · exact absurd (held.results other value' _ returned) (Nat.lt_irrefl _)
      · exact held.own other other' value' value'' id returned returned'
  · intro other value' id returned own
    rcases before other value' id returned with ⟨rfl, rfl⟩ | ⟨differ, returned⟩
    · exact ⟨fun member => Nat.lt_irrefl _ (held.made _ member),
        by simp [State.setTask, State.copy, State.write]⟩
    · refine copied.untouched other value' id returned ?_
      simpa [State.setTask, differ] using own

theorem scopes_emit (s : State V) (run : Nat) (signal : Signal V) (scope : Option Nat) :
    (s.emit run signal scope).scopes.Perm (scope.toList ++ s.scopes) := by
  have queue : QtEmissions.scopes (s.emit run signal scope).queue =
      QtEmissions.scopes s.queue ++ scope.toList := by
    rw [State.emit, scopes_append]
    cases scope <;> rfl
  have frames : (s.emit run signal scope).frames = s.frames := rfl
  rw [State.scopes_eq, State.scopes_eq, queue, frames, ← List.append_assoc]
  exact List.perm_append_comm.append_right _

theorem private_emit (held : Private setup s) (run : Nat) (signal : Signal V)
    {scope : Option Nat} (fresh : ∀ id, scope = some id → id ∉ s.scopes ∧ id < s.copies ∧
      ∀ other value, (s.tasks other).work = .returned value id →
        (s.tasks other).reported ≠ none ∧ setup.kind other ≠ .generator) :
    Private setup (s.emit run signal scope) := by
  have perm := scopes_emit s run signal scope
  have member : ∀ id, id ∈ (s.emit run signal scope).scopes ↔ scope = some id ∨ id ∈ s.scopes := by
    intro id
    rw [perm.mem_iff, List.mem_append, Option.mem_toList]
  refine ⟨?_, ?_, held.results, held.own, ?_⟩
  · rw [perm.nodup_iff]
    cases scope with
    | none => exact held.once
    | some id => exact List.nodup_cons.mpr ⟨(fresh id rfl).1, held.once⟩
  · intro id found
    rcases (member id).mp found with new | old
    · exact (fresh id new).2.1
    · exact held.made id old
  · intro other value id returned own
    obtain ⟨apart, same⟩ := held.untouched other value id returned own
    refine ⟨fun found => ?_, same⟩
    rcases (member id).mp found with new | old
    · obtain ⟨reported, kind⟩ := (fresh id new).2.2 other value returned
      exact own.elim reported kind
    · exact apart old

theorem private_deliver (held : Private setup s) {s' : State V}
    (contexts : s'.contexts = s.contexts) (copies : s'.copies = s.copies)
    (tasks : s'.tasks = s.tasks) (once : s'.scopes.Nodup)
    (fewer : ∀ id ∈ s'.scopes, id ∈ s.scopes) : Private setup s' where
  once := once
  made id member := copies ▸ held.made id (fewer id member)
  results := by
    rw [tasks, copies]
    exact held.results
  own := by
    rw [tasks]
    exact held.own
  untouched run value id returned own := by
    rw [tasks] at returned own
    obtain ⟨apart, same⟩ := held.untouched run value id returned own
    rw [contexts]
    exact ⟨fun member => apart (fewer id member), same⟩

theorem scopes_cons (event : Event Nat V) (events : List (Event Nat V)) :
    scopes (event :: events) = event.scope.toList ++ scopes events := by
  cases scope : event.scope <;> simp [scopes, scope]

theorem scopes_remaining {queue : List (Event Nat V)} {position : Nat} {event : Event Nat V}
    (due : queue[position]? = some event) {again : Bool} (may : event.mayRepeat again = true) :
    (event.scope.toList ++ scopes (remaining queue position again)).Perm (scopes queue) := by
  cases again with
  | true =>
      have bare : event.scope = none := by simpa [Event.mayRepeat] using may
      rw [bare]
      exact .refl _
  | false =>
      obtain ⟨bound, rfl⟩ := List.getElem?_eq_some_iff.mp due
      rw [← scopes_cons]
      exact (List.getElem_cons_eraseIdx_perm bound).filterMap _

theorem scopes_dispatch {position : Nat} {event : Event Nat V}
    (due : s.queue[position]? = some event) {again : Bool} (may : event.mayRepeat again = true)
    (slots : List Nat) :
    ({ s with
      queue := remaining s.queue position again
      frames := ⟨event, slots⟩ :: s.frames } : State V).scopes.Perm s.scopes := by
  rw [State.scopes_eq, State.scopes_eq, List.map_cons, scopes_cons, ← List.append_assoc]
  refine List.Perm.append_right _ (List.perm_append_comm.trans ?_)
  exact scopes_remaining due may

theorem scopes_drop (s : State V) (position : Nat) (again : Bool) :
    ({ s with queue := remaining s.queue position again } : State V).scopes.Sublist s.scopes := by
  rw [State.scopes_eq, State.scopes_eq]
  refine List.Sublist.append_right ?_ _
  unfold remaining
  split
  · exact .refl _
  · exact (List.eraseIdx_sublist ..).filterMap _

theorem scopes_pop {frame : Frame Nat V} {frames : List (Frame Nat V)}
    (innermost : s.frames = frame :: frames) :
    ({ s with frames := frames } : State V).scopes.Sublist s.scopes := by
  rw [State.scopes_eq, State.scopes_eq, innermost, List.map_cons, scopes_cons]
  exact (List.sublist_append_right ..).append_left _

theorem report_scope {C : Type} {kind : Kind} {outcome : Outcome} {work : Work C V}
    {signal : Signal V} {scope : C}
    (reports : report kind outcome work = some (signal, some scope)) :
    kind = .coroutine ∧ ∃ value, work = .returned value scope := by
  unfold report at reports
  split at reports
  · split at reports
    · cases reports
      exact ⟨rfl, _, rfl⟩
    · cases reports
    · cases reports
  all_goals cases reports

theorem private_reports (held : Private setup s) {run : Nat} {outcome : Outcome}
    {signal : Signal V} {scope : Option Nat} (unreported : (s.tasks run).reported = none)
    (reports : report (setup.kind run) outcome (s.tasks run).work = some (signal, scope)) :
    Private setup
      ((s.setTask run { s.tasks run with reported := some outcome }).emit run signal scope) := by
  have kept : Private setup (s.setTask run { s.tasks run with reported := some outcome }) :=
    private_setTask held run fun value id returned => ⟨returned, nofun⟩
  refine private_emit kept run signal fun id new => ?_
  subst new
  obtain ⟨coroutine, value, returned⟩ := report_scope reports
  obtain ⟨apart, -⟩ := held.untouched run value id returned (.inl unreported)
  refine ⟨apart, held.results run value id returned, fun other value' returned' => ?_⟩
  by_cases same : other = run
  · subst same
    simp [State.setTask, coroutine]
  · simp only [State.setTask, Function.update_of_ne same] at returned'
    exact absurd (held.own other run value' value id returned' returned) same

theorem dispatch_cases {s' : State V} {position : Nat} {slots : List Nat} {again : Bool}
    (taken : step setup s (.dispatch position slots again) = some s') :
    ∃ event, s.queue[position]? = some event ∧ event.mayRepeat again = true ∧
      (slots = [] ∧ s' = { s with queue := remaining s.queue position again } ∨
        ∃ slot later, slots = slot :: later ∧
          s' = ({ s with
            queue := remaining s.queue position again
            frames := ⟨event, slot :: later⟩ :: s.frames } : State V).call event.number slot) := by
  simp only [step] at taken
  split at taken
  · cases taken
  · next event due =>
      obtain ⟨may, taken⟩ := Option.ite_none_left_eq_some.mp taken
      refine ⟨event, due, by simpa using may, ?_⟩
      cases slots with
      | nil => exact .inl ⟨rfl, (Option.some.inj taken).symm⟩
      | cons slot later => exact .inr ⟨slot, later, rfl, (Option.some.inj taken).symm⟩

theorem private_assign {s' : State V} {thread : Nat} {var : Var} {value : Option Val}
    (held : Private setup s)
    (taken : step setup s (.assign thread var value) = some s') : Private setup s' := by
  cases taken
  exact private_write held thread _

theorem private_submit {s' : State V} {thread : Nat} {run : Nat} (held : Private setup s)
    (taken : step setup s (.submit thread run) = some s') : Private setup s' := by
  simp only [step] at taken
  split at taken
  · next absent =>
      cases taken
      have live : ∀ value id, (s.tasks run).work ≠ .returned value id := by simp [absent]
      exact private_setTask (private_write_task held live _) run nofun
  · cases taken

theorem private_taskAssigns {s' : State V} {run : Nat} {var : Var} {value : Option Val}
    (held : Private setup s)
    (taken : step setup s (.taskAssigns run var value) = some s') : Private setup s' := by
  simp only [step] at taken
  split at taken
  · next running =>
      cases taken
      exact private_write_task held (by simp [running]) _
  · cases taken

theorem private_yields {s' : State V} {run : Nat} {value : V} (held : Private setup s)
    (taken : step setup s (.yields run value) = some s') : Private setup s' := by
  simp only [step] at taken
  split at taken
  · next running generator =>
      cases taken
      have copied := private_copy held run
      refine private_emit copied run _ fun id new => ?_
      cases new
      refine ⟨fun member => Nat.lt_irrefl _ (held.made _ member), Nat.lt_succ_self _, ?_⟩
      intro other value returned
      exact absurd (held.results other value _ returned) (Nat.lt_irrefl _)
  · cases taken

theorem private_returns_step {s' : State V} {run : Nat} {value : Option V} (held : Private setup s)
    (taken : step setup s (.returns run value) = some s') : Private setup s' := by
  simp only [step] at taken
  split at taken
  · next running =>
      split at taken
      · cases taken
        exact private_returns held value running
      · cases taken
  · cases taken

theorem private_reports_step {s' : State V} {run : Nat} {outcome : Outcome} (held : Private setup s)
    (taken : step setup s (.reports run outcome) = some s') : Private setup s' := by
  simp only [step] at taken
  split at taken
  · next signal scope unreported reports =>
      cases taken
      exact private_reports held unreported reports
  · cases taken

theorem private_resolves {s' : State V} {run : Nat} (held : Private setup s)
    (taken : step setup s (.resolves run) = some s') : Private setup s' := by
  simp only [step] at taken
  split at taken
  · next outcome reported =>
      cases taken
      exact private_setTask held run fun value id returned => ⟨returned, fun none => none⟩
  · cases taken

theorem private_result {s' : State V} {thread : Nat} {run : Nat} (held : Private setup s)
    (taken : step setup s (.result thread run) = some s') : Private setup s' := by
  simp only [step] at taken
  split at taken
  · cases taken
    exact private_write held thread _
  · cases taken

theorem private_dispatch {s' : State V} {position : Nat} {slots : List Nat} {again : Bool}
    (held : Private setup s)
    (taken : step setup s (.dispatch position slots again) = some s') : Private setup s' := by
  obtain ⟨event, due, may, ⟨-, rfl⟩ | ⟨slot, later, -, rfl⟩⟩ := dispatch_cases taken
  · have fewer := scopes_drop s position again
    exact private_deliver held rfl rfl rfl (held.once.sublist fewer) fewer.subset
  · have same := scopes_dispatch due may (slot :: later)
    exact private_deliver held rfl rfl rfl (same.nodup_iff.mpr held.once) same.subset

theorem private_slotReturns {s' : State V} (held : Private setup s)
    (taken : step setup s .slotReturns = some s') : Private setup s' := by
  simp only [step] at taken
  split at taken
  · cases taken
  · next event slots frames running =>
      split at taken
      · cases taken
        have fewer := scopes_pop running
        exact private_deliver held rfl rfl rfl (held.once.sublist fewer) fewer.subset
      · next slot later left =>
          cases taken
          have same : ({ s with frames := ⟨event, slot :: later⟩ :: frames } :
              State V).scopes = s.scopes := by simp [State.scopes, running]
          exact private_deliver held rfl rfl rfl (same ▸ held.once) (same ▸ fun _ => id)

theorem private_step {s' : State V} {label : Label V} (held : Private setup s)
    (taken : step setup s label = some s') : Private setup s' := by
  cases label with
  | assign _ _ _ => exact private_assign held taken
  | submit _ _ => exact private_submit held taken
  | taskAssigns _ _ _ => exact private_taskAssigns held taken
  | yields _ _ => exact private_yields held taken
  | returns _ _ => exact private_returns_step held taken
  | reports _ _ => exact private_reports_step held taken
  | resolves _ => exact private_resolves held taken
  | result _ _ => exact private_result held taken
  | dispatch _ _ _ => exact private_dispatch held taken
  | slotReturns => exact private_slotReturns held taken

/-- The Context that `result()` finds has nothing to hand over but what the coroutine left:
where it is not the one of a generator, no slot has assigned in it what the caller would see. -/
def HandsOver (setup : Setup) (s : State V) : Label V → Prop
  | .result thread run =>
      setup.kind run = .coroutine → ∀ value id, (s.tasks run).work = .returned value id →
        (s.current thread).setItems (s.contexts (.copy id)) =
          (s.current thread).setItems (s.contexts (.task run))
  | _ => True

theorem read_tasks (s : State V) (run : Nat) :
    s.read.tasks run =
      { s.tasks run with work := (s.tasks run).work.read (s.contexts (.task run)) } := rfl

theorem innermost_change (change : Context → Context) (frames : List (Frame Context V)) :
    innermost (changeInnermost change frames) = (innermost frames).map change := by
  induction frames with
  | nil => rfl
  | cons frame frames ih =>
      cases scope : frame.event.scope with
      | some ctx => simp [changeInnermost, innermost, scope]
      | none => simp [changeInnermost, innermost, scope, ih]

theorem current_change (s : Spec V) (thread : Nat) (change : Context → Context) :
    (s.change thread change).current thread = change (s.current thread) := by
  by_cases main : thread = qt
  · subst main
    cases inner : innermost s.frames with
    | some ctx => simp [Spec.change, Spec.current, inner, innermost_change]
    | none => simp [Spec.change, Spec.current, inner]
  · simp [Spec.change, Spec.current, main]

theorem changeInnermost_congr {change change' : Context → Context}
    {frames : List (Frame Context V)} {ctx : Context} (inner : innermost frames = some ctx)
    (same : change ctx = change' ctx) :
    changeInnermost change frames = changeInnermost change' frames := by
  induction frames with
  | nil => rfl
  | cons frame frames ih =>
      cases scope : frame.event.scope with
      | some other =>
          have value : other = ctx := by simpa [innermost, scope] using inner
          simp [changeInnermost, scope, value, same]
      | none =>
          have later : innermost frames = some ctx := by simpa [innermost, scope] using inner
          simp [changeInnermost, scope, ih later]

theorem change_congr {s : Spec V} {thread : Nat} {change change' : Context → Context}
    (same : change (s.current thread) = change' (s.current thread)) :
    s.change thread change = s.change thread change' := by
  by_cases main : thread = qt
  · subst main
    cases inner : innermost s.frames with
    | some ctx =>
        have equal : change ctx = change' ctx := by simpa [Spec.current, inner] using same
        simp [Spec.change, inner, changeInnermost_congr inner equal]
    | none =>
        have equal : change (s.threads qt) = change' (s.threads qt) := by
          simpa [Spec.current, inner] using same
        simp [Spec.change, inner, equal]
  · have equal : change (s.threads thread) = change' (s.threads thread) := by
      simpa [Spec.current, main] using same
    simp [Spec.change, main, equal]

theorem change_eq_iff {s : Spec V} {thread : Nat} {change change' : Context → Context} :
    s.change thread change = s.change thread change' ↔
      change (s.current thread) = change' (s.current thread) := by
  refine ⟨fun same => ?_, change_congr⟩
  have shown := congrArg (Spec.current · thread) same
  simpa only [current_change] using shown

theorem report_read (kind : Kind) (outcome : Outcome) (work : Work Nat V) (left : Context) :
    report kind outcome (work.read left) =
      (report kind outcome work).map fun reported =>
        (reported.1, reported.2.map fun _ => left) := by
  cases work with
  | absent => cases outcome <;> rfl
  | running => cases outcome <;> rfl
  | returned value id =>
      cases outcome with
      | returned => cases kind <;> cases value <;> rfl
      | errored exc => rfl
      | cancelled => rfl

theorem mayRepeat_read (contexts : Holder → Context) (event : Event Nat V) (again : Bool) :
    (event.read contexts).mayRepeat again = event.mayRepeat again := by
  simp [Event.mayRepeat, Event.read]

theorem remaining_map {C C' : Type} (read : Event C V → Event C' V) (queue : List (Event C V))
    (position : Nat) (again : Bool) :
    remaining (queue.map read) position again = (remaining queue position again).map read := by
  unfold remaining
  split
  · rfl
  · exact List.eraseIdx_map ..

theorem read_assign {s' : State V} {thread : Nat} {var : Var} {value : Option Val}
    (held : Private setup s)
    (taken : step setup s (.assign thread var value) = some s') :
    Spec.step setup s.read (.assign thread var value) = some s'.read ↔
      HandsOver setup s (.assign thread var value) := by
  cases taken
  refine iff_of_true ?_ trivial
  simp only [Spec.step]
  rw [read_change held.once thread fun ctx => Function.update ctx var value]

theorem read_submit {s' : State V} {thread : Nat} {run : Nat}
    (taken : step setup s (.submit thread run) = some s') :
    Spec.step setup s.read (.submit thread run) = some s'.read ↔
      HandsOver setup s (.submit thread run) := by
  simp only [step] at taken
  split at taken
  · next absent =>
      cases taken
      refine iff_of_true ?_ trivial
      have live : ∀ value id, (s.tasks run).work ≠ .returned value id := by simp [absent]
      simp only [Spec.step, read_tasks, absent, Work.read]
      rw [read_setTask, read_write_task live, read_current]
      rfl
  · cases taken

theorem read_taskAssigns {s' : State V} {run : Nat} {var : Var} {value : Option Val}
    (taken : step setup s (.taskAssigns run var value) = some s') :
    Spec.step setup s.read (.taskAssigns run var value) = some s'.read ↔
      HandsOver setup s (.taskAssigns run var value) := by
  simp only [step] at taken
  split at taken
  · next running =>
      cases taken
      refine iff_of_true ?_ trivial
      simp only [Spec.step, read_tasks, running, Work.read]
      rw [read_write_task (by simp [running])]
      rfl
  · cases taken

theorem read_yields {s' : State V} {run : Nat} {value : V} (held : Private setup s)
    (taken : step setup s (.yields run value) = some s') :
    Spec.step setup s.read (.yields run value) = some s'.read ↔
      HandsOver setup s (.yields run value) := by
  simp only [step] at taken
  split at taken
  · next running generator =>
      cases taken
      refine iff_of_true ?_ trivial
      simp only [Spec.step, read_tasks, running, Work.read, generator]
      rw [read_emit, read_copy held.made]
      simp [State.copy, State.write, State.read]
  · cases taken

theorem read_returns {s' : State V} {run : Nat} {value : Option V} (held : Private setup s)
    (taken : step setup s (.returns run value) = some s') :
    Spec.step setup s.read (.returns run value) = some s'.read ↔
      HandsOver setup s (.returns run value) := by
  simp only [step] at taken
  split at taken
  · next running =>
      split at taken
      · next fits =>
          cases taken
          refine iff_of_true ?_ trivial
          simp only [Spec.step, read_tasks, running, Work.read, fits, if_true]
          rw [read_setTask, read_copy held.made]
          simp [State.copy, State.write, State.read, Work.read]
      · cases taken
  · cases taken

theorem read_reports {s' : State V} {run : Nat} {outcome : Outcome} (held : Private setup s)
    (taken : step setup s (.reports run outcome) = some s') :
    Spec.step setup s.read (.reports run outcome) = some s'.read ↔
      HandsOver setup s (.reports run outcome) := by
  simp only [step] at taken
  split at taken
  · next signal scope unreported reports =>
      cases taken
      refine iff_of_true ?_ trivial
      have reading : (scope.map fun _ => s.contexts (.task run)) =
          scope.map fun id => s.contexts (.copy id) := by
        cases scope with
        | none => rfl
        | some id =>
            obtain ⟨-, value, returned⟩ := report_scope reports
            have same := (held.untouched run value id returned (.inl unreported)).2
            simp [same]
      simp only [Spec.step, read_tasks, unreported, report_read, reports, Option.map_some]
      rw [read_emit, read_setTask, reading]
      rfl
  · cases taken

theorem read_resolves {s' : State V} {run : Nat}
    (taken : step setup s (.resolves run) = some s') :
    Spec.step setup s.read (.resolves run) = some s'.read ↔ HandsOver setup s (.resolves run) := by
  simp only [step] at taken
  split at taken
  · next outcome reported =>
      cases taken
      refine iff_of_true ?_ trivial
      simp only [Spec.step, read_tasks, reported]
      rw [read_setTask]
  · cases taken

theorem read_result {s' : State V} {thread : Nat} {run : Nat} (held : Private setup s)
    (taken : step setup s (.result thread run) = some s') :
    Spec.step setup s.read (.result thread run) = some s'.read ↔
      HandsOver setup s (.result thread run) := by
  simp only [step] at taken
  split at taken
  · next value newcontext task =>
      cases taken
      have work : (s.tasks run).work = .returned value newcontext := by rw [task]
      rw [read_change held.once thread fun ctx => ctx.setItems (s.contexts (.copy newcontext))]
      simp only [Spec.step, read_tasks, task, Work.read, Option.some.injEq, change_eq_iff,
        read_current, HandsOver]
      constructor
      · rintro same - other id returned
        cases returned
        exact same.symm
      · intro hands
        cases kind : setup.kind run with
        | coroutine => exact (hands kind value newcontext rfl).symm
        | generator =>
            rw [(held.untouched run value newcontext work (.inr kind)).2]
  · cases taken

theorem read_dispatch {s' : State V} {position : Nat} {slots : List Nat} {again : Bool}
    (taken : step setup s (.dispatch position slots again) = some s') :
    Spec.step setup s.read (.dispatch position slots again) = some s'.read ↔
      HandsOver setup s (.dispatch position slots again) := by
  obtain ⟨event, due, may, called⟩ := dispatch_cases taken
  refine iff_of_true ?_ trivial
  have due' : s.read.queue[position]? = some (event.read s.contexts) := by
    simp [State.read, due]
  have may' : (event.read s.contexts).mayRepeat again = true := by
    rwa [mayRepeat_read]
  have left : remaining s.read.queue position again =
      (remaining s.queue position again).map (Event.read s.contexts) := remaining_map ..
  rcases called with ⟨rfl, rfl⟩ | ⟨slot, later, rfl, rfl⟩
  · simp only [Spec.step, due', may', left]
    rfl
  · rw [read_call]
    simp only [Spec.step, due', may', left]
    rfl

theorem read_slotReturns {s' : State V}
    (taken : step setup s .slotReturns = some s') :
    Spec.step setup s.read .slotReturns = some s'.read ↔
      HandsOver setup s (.slotReturns : Label V) := by
  simp only [step] at taken
  split at taken
  · cases taken
  · next event slots frames running =>
      refine iff_of_true ?_ trivial
      have running' : s.read.frames =
          ⟨event.read s.contexts, slots⟩ :: frames.map (Frame.read s.contexts) := by
        simp [State.read, running, Frame.read]
      simp only [Spec.step, running']
      cases left : slots.tail with
      | nil =>
          simp only [left] at taken ⊢
          cases taken
          rfl
      | cons slot later =>
          simp only [left] at taken ⊢
          cases taken
          rw [read_call]
          rfl

theorem read_step {s' : State V} {label : Label V} (held : Private setup s)
    (taken : step setup s label = some s') :
    Spec.step setup s.read label = some s'.read ↔ HandsOver setup s label := by
  cases label with
  | assign _ _ _ => exact read_assign held taken
  | submit _ _ => exact read_submit taken
  | taskAssigns _ _ _ => exact read_taskAssigns taken
  | yields _ _ => exact read_yields held taken
  | returns _ _ => exact read_returns held taken
  | reports _ _ => exact read_reports held taken
  | resolves _ => exact read_resolves taken
  | result _ _ => exact read_result held taken
  | dispatch _ _ _ => exact read_dispatch taken
  | slotReturns => exact read_slotReturns taken

end steps

/-- In every run, each delivery has the variables of its own `yield` or `return`, what slots
assign in it is gone with it, and `result()` hands over what the coroutine has left, exactly as
long as no `result()` on a run of `async_to_qt` finds what a slot of `returned` has assigned. -/
theorem scopes_private_iff (setup : Setup) (contexts : Nat → Context)
    {history : List (State V × Label V)} {s : State V}
    (run : Reaches (step setup) (start contexts) history s) :
    Reaches (Spec.step setup) (start contexts : State V).read
        (history.map fun taken => (taken.1.read, taken.2)) s.read ↔
      ∀ taken ∈ history, HandsOver setup taken.1 taken.2 := by
  induction run with
  | start => exact iff_of_true .start nofun
  | @next history s s' label before taken ih =>
      have held : Private setup s :=
        before.invariant (private_start setup contexts) fun _ _ _ held taken =>
          private_step held taken
      rw [List.forall_mem_cons, ← ih, ← read_step held taken]
      constructor
      · rintro (_ | ⟨earlier, stepped⟩)
        exact ⟨stepped, earlier⟩
      · rintro ⟨stepped, earlier⟩
        exact earlier.next stepped

def oneCoroutine : Setup where
  kind _ := .coroutine

def bare : Nat → Context := fun _ => Context.empty

def fetched (assigns : List (Label Nat)) : List (Label Nat) :=
  [.submit qt 0, .returns 0 (some 5), .reports 0 .returned, .resolves 0, .dispatch 0 [0] false] ++
    assigns ++ [.slotReturns, .result 1 0]

def leaking : List (Label Nat) := fetched [.assign qt (.user 0) (some (.user 7))]

theorem scopes_private_iff_fetched : ∃ history s,
    Reaches (step oneCoroutine) (start bare) history s ∧
      s.current 1 (.user 0) = some (.user 7) ∧
      (Reaches (Spec.step oneCoroutine) (start bare : State Nat).read
          (history.map fun taken => (taken.1.read, taken.2)) s.read ↔
        ∀ taken ∈ history, HandsOver oneCoroutine taken.1 taken.2) := by
  have initial : Reaches (step oneCoroutine) (start bare : State Nat) [] (start bare) := .start
  have run := initial.follow leaking rfl
  exact ⟨_, _, run, rfl, scopes_private_iff oneCoroutine bare run⟩

/-- What the slot assigned comes to the thread that calls `result()`, and not to the Qt
thread. -/
example : (follow (step oneCoroutine) [] (start bare) leaking).map (fun followed =>
      (followed.2.current 1 (.user 0), followed.2.current qt (.user 0))) =
    some (some (.user 7), none) := by rfl

end Koil.QtEmissions
