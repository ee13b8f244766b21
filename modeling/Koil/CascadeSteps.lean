import Koil.CancelCascades

namespace Koil.CancelCascades

open Ranks Runs

def Job.hasEnded : Job → Bool
  | .ended _ => true
  | _ => false

/-- The task still awaits the call, has given up waiting for it, or the job has ended. -/
def Attended (task : Task) (callId : Nat) (call : Call) : Prop :=
  (∃ stage, task.coroutine = .awaits callId stage) ∨ callId ∈ task.abandoned ∨
    call.job.hasEnded = true

structure TaskOk (made : Nat) (calls : Nat → Option Call) (id : Nat) (task : Task) : Prop where
  made : id < made
  ambient : ∀ callId, task.ambient = some callId → callId < id ∧ ∃ call, calls callId = some call
  plain : task.stage = .plain → task.ambient = none
  awaits : ∀ callId stage, task.coroutine = .awaits callId stage →
    callId ∉ task.abandoned ∧ ∃ call, calls callId = some call ∧ call.caller = id ∧
      (stage = .thrown → task.asked = true) ∧ (stage = .handling → call.event ≠ .unset)
  abandoned : ∀ callId ∈ task.abandoned, ∃ call, calls callId = some call ∧ call.event ≠ .unset
  tidying : task.stage = .tidying → task.asked = true
  resolved : task.stage = .resolved →
    task.coroutine = .ended ∨ task.graceOver = true ∧ task.asked = true
  asked : task.asked = true → task.stage = .plain ∨ task.own ≠ .unset ∨ task.timedOut = true ∨
    ∃ callId call, task.ambient = some callId ∧ calls callId = some call ∧ call.event ≠ .unset

structure CallOk (made : Nat) (tasks : Nat → Option Task) (id : Nat) (call : Call) : Prop where
  made : id < made
  caller : call.caller < id
  attended : ∃ task, tasks call.caller = some task ∧ Attended task id call
  waiting : ∀ taskId, call.job = .waiting taskId →
    ∃ task, tasks taskId = some task ∧ task.ambient = some id
  collected : ∀ taskId ∈ call.collected,
    ∃ task, tasks taskId = some task ∧ task.ambient = some id ∧ task.stage = .resolved
  event : call.event ≠ .unset →
    (∃ task, tasks call.caller = some task ∧ task.asked = true) ∨ call.job = .ended true

structure Inv (s : State) : Prop where
  tasks : ∀ id task, s.tasks id = some task → TaskOk s.made s.calls id task
  calls : ∀ id call, s.calls id = some call → CallOk s.made s.tasks id call

/-- What no step takes back of a call. -/
structure CallLater (call call' : Call) : Prop where
  caller : call'.caller = call.caller
  event : call.event ≠ .unset → call'.event ≠ .unset

structure TaskLater (calls : Nat → Option Call) (task task' : Task) : Prop where
  ambient : task'.ambient = task.ambient
  resolved : task.stage = .resolved → task'.stage = .resolved
  asked : task.asked = true → task'.asked = true
  attended : ∀ id call, calls id = some call → Attended task id call → Attended task' id call

theorem CallLater.refl (call : Call) : CallLater call call := ⟨rfl, id⟩

theorem TaskLater.refl (calls : Nat → Option Call) (task : Task) : TaskLater calls task task :=
  ⟨rfl, id, id, fun _ _ _ => id⟩

theorem TaskOk.mono {made made' id : Nat} {calls calls' : Nat → Option Call} {task : Task}
    (held : TaskOk made calls id task) (le : made ≤ made')
    (later : ∀ callId call, calls callId = some call →
      ∃ call', calls' callId = some call' ∧ CallLater call call') :
    TaskOk made' calls' id task where
  made := held.made.trans_le le
  ambient callId submitted := by
    obtain ⟨before, call, found⟩ := held.ambient callId submitted
    obtain ⟨call', found', _⟩ := later callId call found
    exact ⟨before, call', found'⟩
  plain := held.plain
  awaits callId stage awaiting := by
    obtain ⟨kept, call, found, caller, thrown, handling⟩ := held.awaits callId stage awaiting
    obtain ⟨call', found', still⟩ := later callId call found
    exact ⟨kept, call', found', still.caller.trans caller, thrown,
      fun handled => still.event (handling handled)⟩
  abandoned callId member := by
    obtain ⟨call, found, event⟩ := held.abandoned callId member
    obtain ⟨call', found', still⟩ := later callId call found
    exact ⟨call', found', still.event event⟩
  tidying := held.tidying
  resolved := held.resolved
  asked cancelled := by
    rcases held.asked cancelled with plain | own | late | ⟨callId, call, submitted, found, event⟩
    · exact .inl plain
    · exact .inr (.inl own)
    · exact .inr (.inr (.inl late))
    · obtain ⟨call', found', still⟩ := later callId call found
      exact .inr (.inr (.inr ⟨callId, call', submitted, found', still.event event⟩))

theorem CallOk.mono {made made' id : Nat} {tasks tasks' : Nat → Option Task}
    {calls : Nat → Option Call} {call : Call} (held : CallOk made tasks id call)
    (found : calls id = some call) (le : made ≤ made')
    (later : ∀ taskId task, tasks taskId = some task →
      ∃ task', tasks' taskId = some task' ∧ TaskLater calls task task') :
    CallOk made' tasks' id call where
  made := held.made.trans_le le
  caller := held.caller
  attended := by
    obtain ⟨task, foundTask, attended⟩ := held.attended
    obtain ⟨task', found', still⟩ := later _ task foundTask
    exact ⟨task', found', still.attended id call found attended⟩
  waiting taskId waits := by
    obtain ⟨task, foundTask, submitted⟩ := held.waiting taskId waits
    obtain ⟨task', found', still⟩ := later taskId task foundTask
    exact ⟨task', found', still.ambient.trans submitted⟩
  collected taskId member := by
    obtain ⟨task, foundTask, submitted, resolved⟩ := held.collected taskId member
    obtain ⟨task', found', still⟩ := later taskId task foundTask
    exact ⟨task', found', still.ambient.trans submitted, still.resolved resolved⟩
  event cancelled := by
    rcases held.event cancelled with ⟨task, foundTask, asked⟩ | ended
    · obtain ⟨task', found', still⟩ := later _ task foundTask
      exact .inl ⟨task', found', still.asked asked⟩
    · exact .inr ended

variable {s s' : State} {id : Nat}

theorem Inv.setTask {task task' : Task} (held : Inv s) (found : s.tasks id = some task)
    (later : TaskLater s.calls task task') (ok : TaskOk s.made s.calls id task') :
    Inv (s.setTask id task') where
  tasks other task₁ found₁ := by
    by_cases same : other = id
    · subst same
      obtain rfl : task' = task₁ := by simpa [State.setTask] using found₁
      exact ok
    · exact held.tasks other task₁ (by simpa [State.setTask, same] using found₁)
  calls other call foundCall := by
    apply (held.calls other call foundCall).mono foundCall le_rfl
    intro taskId task₁ found₁
    by_cases same : taskId = id
    · subst same
      obtain rfl : task = task₁ := Option.some.inj (found.symm.trans found₁)
      exact ⟨task', by simp [State.setTask], later⟩
    · exact ⟨task₁, by simpa [State.setTask, same] using found₁, .refl _ _⟩

theorem Inv.setCall {call call' : Call} (held : Inv s) (found : s.calls id = some call)
    (later : CallLater call call') (ok : CallOk s.made s.tasks id call') :
    Inv (s.setCall id call') where
  tasks other task foundTask := by
    apply (held.tasks other task foundTask).mono le_rfl
    intro callId call₁ found₁
    by_cases same : callId = id
    · subst same
      obtain rfl : call = call₁ := Option.some.inj (found.symm.trans found₁)
      exact ⟨call', by simp [State.setCall], later⟩
    · exact ⟨call₁, by simpa [State.setCall, same] using found₁, .refl _⟩
  calls other call₁ found₁ := by
    by_cases same : other = id
    · subst same
      obtain rfl : call' = call₁ := by simpa [State.setCall] using found₁
      exact ok
    · exact held.calls other call₁ (by simpa [State.setCall, same] using found₁)

theorem Inv.task_ne_made (held : Inv s) {task : Task} (found : s.tasks id = some task) :
    id ≠ s.made := (held.tasks id task found).made.ne

theorem Inv.call_ne_made (held : Inv s) {call : Call} (found : s.calls id = some call) :
    id ≠ s.made := (held.calls id call found).made.ne

theorem Inv.create {ambient : Option Nat} {deadline : Bool} {stage : Stage} (held : Inv s)
    (submitted : ∀ callId, ambient = some callId → ∃ call, s.calls callId = some call)
    (begins : stage = .plain ∧ ambient = none ∨ stage = .racing) :
    Inv (s.create ambient deadline stage) where
  tasks other task found := by
    by_cases same : other = s.made
    · subst same
      obtain rfl : _ = task := by simpa [State.create, State.setTask] using found
      refine ⟨Nat.lt_succ_self _, ?_, ?_, ?_, ?_, ?_, ?_, ?_⟩
      · intro callId bound
        obtain ⟨call, foundCall⟩ := submitted callId bound
        exact ⟨(held.calls callId call foundCall).made, call, foundCall⟩
      · rintro rfl
        simpa using begins
      all_goals rcases begins with ⟨rfl, _⟩ | rfl <;> simp
    · have before : s.tasks other = some task := by
        simpa [State.create, State.setTask, same] using found
      exact (held.tasks other task before).mono (Nat.le_succ _)
        fun callId call foundCall => ⟨call, foundCall, .refl call⟩
  calls other call found := by
    apply (held.calls other call found).mono found (Nat.le_succ _)
    intro taskId task foundTask
    refine ⟨task, ?_, .refl _ _⟩
    simpa [State.create, State.setTask, held.task_ne_made foundTask] using foundTask

theorem Inv.runThreaded {task : Task} (held : Inv s) (found : s.tasks id = some task)
    (running : task.coroutine = .running) : Inv (s.runThreaded id task) := by
  have ok := held.tasks id task found
  have fresh : s.calls s.made = none := by
    cases foundCall : s.calls s.made with
    | none => rfl
    | some call => exact absurd rfl (held.call_ne_made foundCall)
  have newCall : (s.runThreaded id task).calls s.made = some ⟨id, .queued, .unset, []⟩ := by
    simp [State.runThreaded, State.setTask, State.setCall]
  have newTask : (s.runThreaded id task).tasks id = some (task.await s.made .shielded) := by
    simp [State.runThreaded, State.setTask]
  have callsLater : ∀ callId call, s.calls callId = some call →
      ∃ call', (s.runThreaded id task).calls callId = some call' ∧ CallLater call call' := by
    intro callId call foundCall
    refine ⟨call, ?_, .refl call⟩
    simpa [State.runThreaded, State.setTask, State.setCall, held.call_ne_made foundCall]
      using foundCall
  have tasksLater : ∀ taskId task₁, s.tasks taskId = some task₁ →
      ∃ task', (s.runThreaded id task).tasks taskId = some task' ∧
        TaskLater s.calls task₁ task' := by
    intro taskId task₁ found₁
    by_cases here : taskId = id
    · subst here
      obtain rfl : task = task₁ := Option.some.inj (found.symm.trans found₁)
      refine ⟨_, newTask, rfl, fun resolved => resolved, fun asked => asked, ?_⟩
      rintro callId call₁ _ (⟨stage, awaiting⟩ | rest)
      · rw [running] at awaiting
        cases awaiting
      · exact .inr rest
    · exact ⟨task₁, by simpa [State.runThreaded, State.setTask, State.setCall, here] using found₁,
        .refl _ _⟩
  constructor
  · intro other task₁ found₁
    by_cases same : other = id
    · subst same
      obtain rfl : task.await s.made .shielded = task₁ :=
        Option.some.inj (newTask.symm.trans found₁)
      have kept := ok.mono (Nat.le_succ s.made) callsLater
      refine ⟨kept.made, kept.ambient, kept.plain, ?_, kept.abandoned, kept.tidying, ?_, kept.asked⟩
      · intro callId stage awaiting
        cases awaiting
        refine ⟨?_, _, newCall, rfl, by simp, by simp⟩
        intro member
        obtain ⟨call, foundCall, _⟩ := ok.abandoned _ member
        rw [fresh] at foundCall
        cases foundCall
      · intro resolved
        rcases ok.resolved resolved with ended | forced
        · rw [running] at ended
          cases ended
        · exact .inr forced
    · have before : s.tasks other = some task₁ := by
        simpa [State.runThreaded, State.setTask, State.setCall, same] using found₁
      exact (held.tasks other task₁ before).mono (Nat.le_succ s.made) callsLater
  · intro other call foundCall
    by_cases same : other = s.made
    · subst same
      obtain rfl : (⟨id, .queued, .unset, []⟩ : Call) = call :=
        Option.some.inj (newCall.symm.trans foundCall)
      exact ⟨Nat.lt_succ_self _, ok.made, ⟨_, newTask, .inl ⟨.shielded, rfl⟩⟩, by simp, by simp,
        by simp⟩
    · have before : s.calls other = some call := by
        simpa [State.runThreaded, State.setTask, State.setCall, same] using foundCall
      exact (held.calls other call before).mono before (Nat.le_succ s.made) tasksLater

theorem TaskOk.forced {made : Nat} {calls : Nat → Option Call} {task : Task}
    (ok : TaskOk made calls id task) (busy : task.coroutine ≠ .ended)
    (resolved : task.stage = .resolved) : task.graceOver = true ∧ task.asked = true :=
  (ok.resolved resolved).resolve_left busy

section tasks

variable {made : Nat} {calls : Nat → Option Call} {task : Task}

theorem TaskOk.proceed (ok : TaskOk made calls id task) (busy : task.coroutine ≠ .ended)
    {coroutine : Coroutine} (idle : ∀ callId stage, coroutine ≠ .awaits callId stage) :
    TaskOk made calls id { task with coroutine := coroutine } where
  made := ok.made
  ambient := ok.ambient
  plain := ok.plain
  awaits callId stage awaiting := absurd awaiting (idle callId stage)
  abandoned := ok.abandoned
  tidying := ok.tidying
  resolved resolved := .inr (ok.forced busy resolved)
  asked := ok.asked

theorem TaskLater.proceed {coroutine : Coroutine}
    (left : ∀ callId stage call, task.coroutine = .awaits callId stage →
      calls callId = some call → call.job.hasEnded = true) :
    TaskLater calls task { task with coroutine := coroutine } where
  ambient := rfl
  resolved resolved := resolved
  asked asked := asked
  attended callId call found := by
    rintro (⟨stage, awaiting⟩ | rest)
    · exact .inr (.inr (left callId stage call awaiting found))
    · exact .inr rest

theorem TaskLater.await {callId : Nat} {stage : Await}
    (awaiting : task.coroutine = .awaits callId stage) (stage' : Await) :
    TaskLater calls task (task.await callId stage') where
  ambient := rfl
  resolved resolved := resolved
  asked asked := asked
  attended other call _ := by
    rintro (⟨at_, same⟩ | rest)
    · rw [awaiting] at same
      cases same
      exact .inl ⟨stage', rfl⟩
    · exact .inr rest

theorem TaskOk.await (ok : TaskOk made calls id task) {callId : Nat} {stage stage' : Await}
    (awaiting : task.coroutine = .awaits callId stage)
    (thrown : stage' = .thrown → task.asked = true)
    (handling : stage' = .handling → ∀ call, calls callId = some call → call.event ≠ .unset) :
    TaskOk made calls id (task.await callId stage') where
  made := ok.made
  ambient := ok.ambient
  plain := ok.plain
  awaits other at' same := by
    cases same
    obtain ⟨kept, call, found, caller, _⟩ := ok.awaits callId stage awaiting
    exact ⟨kept, call, found, caller, thrown, fun handled => handling handled call found⟩
  abandoned := ok.abandoned
  tidying := ok.tidying
  resolved resolved := .inr (ok.forced (by simp [awaiting]) resolved)
  asked := ok.asked

theorem TaskLater.abandon {callId : Nat} {stage : Await}
    (awaiting : task.coroutine = .awaits callId stage) :
    TaskLater calls task (task.abandon callId) where
  ambient := rfl
  resolved resolved := resolved
  asked asked := asked
  attended other call _ := by
    rintro (⟨at_, same⟩ | member | ended)
    · rw [awaiting] at same
      cases same
      exact .inr (.inl List.mem_cons_self)
    · exact .inr (.inl (List.mem_cons_of_mem _ member))
    · exact .inr (.inr ended)

theorem TaskOk.abandon (ok : TaskOk made calls id task) {callId : Nat}
    (awaiting : task.coroutine = .awaits callId .handling) :
    TaskOk made calls id (task.abandon callId) where
  made := ok.made
  ambient := ok.ambient
  plain := ok.plain
  awaits _ _ same := by cases same
  abandoned other member := by
    rcases List.mem_cons.mp member with rfl | member
    · obtain ⟨_, call, found, _, _, handling⟩ := ok.awaits other .handling awaiting
      exact ⟨call, found, handling rfl⟩
    · exact ok.abandoned other member
  tidying := ok.tidying
  resolved resolved := .inr (ok.forced (by simp [awaiting]) resolved)
  asked := ok.asked

theorem TaskLater.throw : TaskLater calls task task.throw := by
  unfold Task.throw
  split
  · next callId awaiting => exact .await awaiting .thrown
  · next callId awaiting => exact .abandon awaiting
  · exact .refl calls task

theorem TaskOk.throw (ok : TaskOk made calls id task) (asked : task.asked = true) :
    TaskOk made calls id task.throw := by
  unfold Task.throw
  split
  · next callId awaiting => exact ok.await awaiting (fun _ => asked) nofun
  · next callId awaiting => exact ok.abandon awaiting
  · exact ok

theorem TaskLater.trans {task' task'' : Task} (first : TaskLater calls task task')
    (next : TaskLater calls task' task'') : TaskLater calls task task'' where
  ambient := next.ambient.trans first.ambient
  resolved resolved := next.resolved (first.resolved resolved)
  asked asked := next.asked (first.asked asked)
  attended callId call found attended :=
    next.attended callId call found (first.attended callId call found attended)

theorem TaskLater.still {task' : Task} (ambient : task'.ambient = task.ambient)
    (resolved : task.stage = .resolved → task'.stage = .resolved)
    (asked : task.asked = true → task'.asked = true)
    (coroutine : task'.coroutine = task.coroutine) (abandoned : task'.abandoned = task.abandoned) :
    TaskLater calls task task' :=
  ⟨ambient, resolved, asked, fun _ _ _ => by simp [Attended, coroutine, abandoned]⟩

theorem TaskLater.resolve {graceOver : Bool} :
    TaskLater calls task { task with stage := .resolved, graceOver := graceOver } :=
  .still rfl (fun _ => rfl) id rfl rfl

theorem TaskOk.resolve (ok : TaskOk made calls id task) {graceOver : Bool}
    (submitted : task.stage ≠ .plain)
    (ended : task.coroutine = .ended ∨ graceOver = true ∧ task.asked = true) :
    TaskOk made calls id { task with stage := .resolved, graceOver := graceOver } where
  made := ok.made
  ambient := ok.ambient
  plain := nofun
  awaits := ok.awaits
  abandoned := ok.abandoned
  tidying := nofun
  resolved _ := ended
  asked asked := .inr ((ok.asked asked).resolve_left submitted)

theorem signal_ne_unset (event : Event) : event.signal ≠ .unset := by
  cases event <;> simp [Event.signal]

theorem TaskLater.cancel : TaskLater calls task task.cancel := by
  unfold Task.cancel
  split
  · exact .refl calls task
  · exact .still rfl id id rfl rfl

theorem TaskOk.cancel (ok : TaskOk made calls id task) : TaskOk made calls id task.cancel := by
  unfold Task.cancel
  split
  · exact ok
  · exact ⟨ok.made, ok.ambient, ok.plain, ok.awaits, ok.abandoned, ok.tidying, ok.resolved,
      fun _ => .inr (.inl (signal_ne_unset _))⟩

end tasks

theorem ambientSet_found {task : Task} (fired : s.ambientSet task = true) :
    ∃ callId call, task.ambient = some callId ∧ s.calls callId = some call ∧
      call.event = .set := by
  cases submitted : task.ambient with
  | none => simp [State.ambientSet, submitted] at fired
  | some callId =>
      cases found : s.calls callId with
      | none => simp [State.ambientSet, submitted, found] at fired
      | some call =>
          refine ⟨callId, call, rfl, found, ?_⟩
          simpa [State.ambientSet, submitted, found] using fired

theorem Inv.wake {task : Task} {timedOut : Bool} (held : Inv s) (found : s.tasks id = some task)
    (racing : task.stage = .racing) (isOver : s.raceOver task timedOut = true) :
    Inv (s.setTask id (task.wake timedOut)) := by
  have ok := held.tasks id task found
  unfold Task.wake
  split
  · next ended =>
      exact held.setTask found .resolve (ok.resolve (by simp [racing]) (.inl ended))
  · next busy =>
      have reason : task.own ≠ .unset ∨ timedOut = true ∨ ∃ callId call,
          task.ambient = some callId ∧ s.calls callId = some call ∧ call.event ≠ .unset := by
        simp only [State.raceOver, busy, Bool.or_eq_true, beq_iff_eq, false_or] at isOver
        rcases isOver with (own | ambient) | late
        · exact .inl (by simp [own])
        · obtain ⟨callId, call, submitted, foundCall, event⟩ := ambientSet_found ambient
          exact .inr (.inr ⟨callId, call, submitted, foundCall, by simp [event]⟩)
        · exact .inr (.inl late)
      let asked : Task := { task with asked := true, stage := .tidying, timedOut := timedOut }
      have later : TaskLater s.calls task asked :=
        .still rfl (by simp [racing]) (fun _ => rfl) rfl rfl
      have okAsked : TaskOk s.made s.calls id asked := by
        refine ⟨ok.made, ok.ambient, nofun, ?_, ok.abandoned, fun _ => rfl, nofun,
          fun _ => .inr reason⟩
        intro callId stage awaiting
        obtain ⟨kept, call, foundCall, caller, _, handling⟩ := ok.awaits callId stage awaiting
        exact ⟨kept, call, foundCall, caller, fun _ => rfl, handling⟩
      exact held.setTask found (later.trans .throw) (okAsked.throw rfl)

theorem Inv.signal {call : Call} (held : Inv s) (found : s.calls id = some call)
    (reason : (∃ task, s.tasks call.caller = some task ∧ task.asked = true) ∨
      call.job = .ended true) : Inv (s.setCall id call.signal) := by
  have ok := held.calls id call found
  refine held.setCall found ⟨rfl, fun _ => signal_ne_unset _⟩ ?_
  exact ⟨ok.made, ok.caller, ok.attended, ok.waiting, ok.collected, fun _ => reason⟩

theorem CallOk.proceed {made : Nat} {tasks : Nat → Option Task} {call : Call}
    (ok : CallOk made tasks id call) (busy : call.job.hasEnded = false) {job : Job}
    (waiting : ∀ taskId, job = .waiting taskId →
      ∃ task, tasks taskId = some task ∧ task.ambient = some id) :
    CallOk made tasks id { call with job := job } where
  made := ok.made
  caller := ok.caller
  attended := by
    obtain ⟨task, found, attended⟩ := ok.attended
    refine ⟨task, found, ?_⟩
    rcases attended with awaiting | member | ended
    · exact .inl awaiting
    · exact .inr (.inl member)
    · rw [busy] at ended
      cases ended
  waiting := waiting
  collected := ok.collected
  event cancelled := by
    left
    apply (ok.event cancelled).resolve_right
    intro ended
    simp [ended, Job.hasEnded] at busy

theorem onAwait_found {action : Task → Nat → Call → Await → Option State}
    (taken : s.onAwait id action = some s') :
    ∃ task callId call stage, s.tasks id = some task ∧ task.coroutine = .awaits callId stage ∧
      s.calls callId = some call ∧ action task callId call stage = some s' := by
  obtain ⟨task, found, taken⟩ := Option.bind_eq_some_iff.mp taken
  split at taken
  · next callId stage awaiting =>
      obtain ⟨call, foundCall, taken⟩ := Option.bind_eq_some_iff.mp taken
      exact ⟨task, callId, call, stage, found, awaiting, foundCall, taken⟩
  · cases taken

theorem Inv.handle {task : Task} {callId : Nat} {call : Call} {stage : Await} (held : Inv s)
    (found : s.tasks id = some task) (awaiting : task.coroutine = .awaits callId stage)
    (foundCall : s.calls callId = some call) (reason : task.asked = true ∨ call.job = .ended true) :
    Inv ((s.setCall callId call.signal).setTask id (task.await callId .handling)) := by
  have ok := held.tasks id task found
  obtain ⟨_, call', foundCall', caller, _⟩ := ok.awaits callId stage awaiting
  obtain rfl : call = call' := Option.some.inj (foundCall.symm.trans foundCall')
  have signalled : Inv (s.setCall callId call.signal) := by
    apply held.signal foundCall
    exact reason.imp_left fun asked => ⟨task, caller ▸ found, asked⟩
  have kept := signalled.tasks id task found
  have foundTask : (s.setCall callId call.signal).tasks id = some task := found
  apply signalled.setTask foundTask (.await awaiting .handling)
  refine kept.await awaiting nofun ?_
  intro _ other foundOther
  obtain rfl : call.signal = other := by simpa [State.setCall] using foundOther
  exact signal_ne_unset _

theorem inv_deliver {task : Task} {callId : Nat} {call : Call} {stage : Await} (held : Inv s)
    (found : s.tasks id = some task) (awaiting : task.coroutine = .awaits callId stage)
    (foundCall : s.calls callId = some call)
    (taken : s.deliver id task callId call stage call.job = some s') : Inv s' := by
  have ok := held.tasks id task found
  have goesOn : call.job.hasEnded = true →
      Inv (s.setTask id { task with coroutine := .running }) := by
    intro ended
    refine held.setTask found (.proceed ?_) (ok.proceed (by simp [awaiting]) nofun)
    intro other at' call' same found'
    rw [awaiting] at same
    cases same
    obtain rfl : call = call' := Option.some.inj (foundCall.symm.trans found')
    exact ended
  unfold State.deliver at taken
  split at taken
  · next ended =>
      cases taken
      exact held.handle found awaiting foundCall (.inr ended)
  · next ended =>
      cases taken
      exact goesOn (by simp [ended, Job.hasEnded])
  · next ended =>
      cases taken
      exact goesOn (by simp [ended, Job.hasEnded])
  · cases taken

theorem inv_createTask (held : Inv s) (taken : step s .createTask = some s') : Inv s' := by
  cases taken
  exact held.create nofun (.inl ⟨rfl, rfl⟩)

theorem inv_runThreaded {id : Nat} (held : Inv s)
    (taken : step s (.runThreaded id) = some s') : Inv s' := by
  obtain ⟨task, found, taken⟩ := Option.bind_eq_some_iff.mp taken
  obtain ⟨running, moved⟩ := Option.ite_none_right_eq_some.mp taken
  cases moved
  exact held.runThreaded found running

theorem inv_submit {worker : Option Nat} {deadline : Bool} (held : Inv s)
    (taken : step s (.submit worker deadline) = some s') : Inv s' := by
  cases worker with
  | none =>
      cases taken
      exact held.create nofun (.inr rfl)
  | some worker =>
      obtain ⟨call, found, taken⟩ := Option.bind_eq_some_iff.mp taken
      obtain ⟨_, moved⟩ := Option.ite_none_right_eq_some.mp taken
      cases moved
      apply held.create _ (.inr rfl)
      intro callId same
      cases same
      exact ⟨call, found⟩

theorem inv_result {callId : Nat} {id : Nat} (held : Inv s)
    (taken : step s (.result callId id) = some s') : Inv s' := by
  obtain ⟨call, found, taken⟩ := Option.bind_eq_some_iff.mp taken
  obtain ⟨task, foundTask, taken⟩ := Option.bind_eq_some_iff.mp taken
  obtain ⟨⟨running, submitted⟩, moved⟩ := Option.ite_none_right_eq_some.mp taken
  cases moved
  refine held.setCall found ⟨rfl, fun event => event⟩ ?_
  apply (held.calls callId call found).proceed (by simp [running, Job.hasEnded])
  intro taskId same
  cases same
  exact ⟨task, foundTask, submitted⟩

theorem inv_resultTimesOut {callId : Nat} (held : Inv s)
    (taken : step s (.resultTimesOut callId) = some s') : Inv s' := by
  obtain ⟨call, found, taken⟩ := Option.bind_eq_some_iff.mp taken
  split at taken
  · next id waiting =>
      obtain ⟨task, foundTask, taken⟩ := Option.bind_eq_some_iff.mp taken
      cases taken
      have resumed : Inv (s.setCall callId { call with job := .running }) := by
        refine held.setCall found ⟨rfl, fun event => event⟩ ?_
        exact (held.calls callId call found).proceed (by simp [waiting, Job.hasEnded]) nofun
      have ok := resumed.tasks id task foundTask
      exact resumed.setTask (show (s.setCall callId _).tasks id = some task from foundTask)
        .cancel ok.cancel
  · cases taken

theorem inv_cancelTask {id : Nat} (held : Inv s)
    (taken : step s (.cancelTask id) = some s') : Inv s' := by
  obtain ⟨task, found, taken⟩ := Option.bind_eq_some_iff.mp taken
  obtain ⟨⟨plain, _⟩, moved⟩ := Option.ite_none_right_eq_some.mp taken
  cases moved
  have ok := held.tasks id task found
  have okAsked : TaskOk s.made s.calls id { task with asked := true } := by
    refine ⟨ok.made, ok.ambient, ok.plain, ?_, ok.abandoned, fun _ => rfl, ?_,
      fun _ => .inl plain⟩
    · intro callId stage awaiting
      obtain ⟨kept, call, foundCall, caller, _, handling⟩ := ok.awaits callId stage awaiting
      exact ⟨kept, call, foundCall, caller, fun _ => rfl, handling⟩
    · simp [plain]
  have later : TaskLater s.calls task { task with asked := true } :=
    .still rfl (fun resolved => resolved) (fun _ => rfl) rfl rfl
  exact held.setTask found (later.trans .throw) (okAsked.throw rfl)

theorem inv_cancelFuture {id : Nat} (held : Inv s)
    (taken : step s (.cancelFuture id) = some s') : Inv s' := by
  obtain ⟨task, found, taken⟩ := Option.bind_eq_some_iff.mp taken
  obtain ⟨_, moved⟩ := Option.ite_none_left_eq_some.mp taken
  cases moved
  exact held.setTask found .cancel (held.tasks id task found).cancel

theorem inv_coroutineEnds {id : Nat} (held : Inv s)
    (taken : step s (.coroutineEnds id) = some s') : Inv s' := by
  obtain ⟨task, found, taken⟩ := Option.bind_eq_some_iff.mp taken
  obtain ⟨running, moved⟩ := Option.ite_none_right_eq_some.mp taken
  cases moved
  exact held.setTask found (.proceed (by simp [running]))
    ((held.tasks id task found).proceed (by simp [running]) nofun)

theorem inv_jobEnds {callId : Nat} {cancelled : Bool} (held : Inv s)
    (taken : step s (.jobEnds callId cancelled) = some s') : Inv s' := by
  obtain ⟨call, found, taken⟩ := Option.bind_eq_some_iff.mp taken
  obtain ⟨running, moved⟩ := Option.ite_none_right_eq_some.mp taken
  cases moved
  refine held.setCall found ⟨rfl, fun event => event⟩ ?_
  exact (held.calls callId call found).proceed (by simp [running, Job.hasEnded]) nofun

theorem inv_jobStarts {callId : Nat} (held : Inv s)
    (taken : step s (.jobStarts callId) = some s') : Inv s' := by
  obtain ⟨call, found, taken⟩ := Option.bind_eq_some_iff.mp taken
  obtain ⟨⟨queued, _⟩, moved⟩ := Option.ite_none_right_eq_some.mp taken
  cases moved
  refine held.setCall found ⟨rfl, fun event => event⟩ ?_
  exact (held.calls callId call found).proceed (by simp [queued, Job.hasEnded]) nofun

theorem inv_expire {id : Nat} (held : Inv s) (taken : step s (.expire id) = some s') : Inv s' := by
  obtain ⟨task, callId, call, stage, found, awaiting, foundCall, taken⟩ := onAwait_found taken
  obtain ⟨rfl, moved⟩ := Option.ite_none_right_eq_some.mp taken
  cases moved
  exact held.setTask found (.abandon awaiting) ((held.tasks id task found).abandon awaiting)

theorem inv_graceOver {id : Nat} (held : Inv s)
    (taken : step s (.graceOver id) = some s') : Inv s' := by
  obtain ⟨task, found, taken⟩ := Option.bind_eq_some_iff.mp taken
  obtain ⟨⟨tidying, _⟩, moved⟩ := Option.ite_none_right_eq_some.mp taken
  cases moved
  have ok := held.tasks id task found
  exact held.setTask found .resolve
    (ok.resolve (by simp [tidying]) (.inr ⟨rfl, ok.tidying tidying⟩))

theorem inv_wakes {id : Nat} {timedOut : Bool} (held : Inv s)
    (taken : step s (.wakes id timedOut) = some s') : Inv s' := by
  obtain ⟨task, found, taken⟩ := Option.bind_eq_some_iff.mp taken
  obtain ⟨⟨racing, _, isOver⟩, moved⟩ := Option.ite_none_right_eq_some.mp taken
  cases moved
  exact held.wake found racing isOver

theorem inv_tidied {id : Nat} (held : Inv s) (taken : step s (.tidied id) = some s') : Inv s' := by
  obtain ⟨task, found, taken⟩ := Option.bind_eq_some_iff.mp taken
  obtain ⟨⟨tidying, ended⟩, moved⟩ := Option.ite_none_right_eq_some.mp taken
  cases moved
  exact held.setTask found .resolve
    ((held.tasks id task found).resolve (by simp [tidying]) (.inl ended))

theorem inv_handle {id : Nat} (held : Inv s) (taken : step s (.handle id) = some s') : Inv s' := by
  obtain ⟨task, callId, call, stage, found, awaiting, foundCall, taken⟩ := onAwait_found taken
  obtain ⟨rfl, moved⟩ := Option.ite_none_right_eq_some.mp taken
  cases moved
  obtain ⟨_, _, _, _, thrown, _⟩ := (held.tasks id task found).awaits callId .thrown awaiting
  exact held.handle found awaiting foundCall (.inl (thrown rfl))

theorem inv_setEvent {callId : Nat} (held : Inv s)
    (taken : step s (.setEvent callId) = some s') : Inv s' := by
  obtain ⟨call, found, taken⟩ := Option.bind_eq_some_iff.mp taken
  obtain ⟨queued, moved⟩ := Option.ite_none_right_eq_some.mp taken
  cases moved
  have ok := held.calls callId call found
  refine held.setCall found ⟨rfl, fun _ => nofun⟩ ?_
  exact ⟨ok.made, ok.caller, ok.attended, ok.waiting, ok.collected,
    fun _ => ok.event (by simp [queued])⟩

theorem inv_setOwn {id : Nat} (held : Inv s) (taken : step s (.setOwn id) = some s') : Inv s' := by
  obtain ⟨task, found, taken⟩ := Option.bind_eq_some_iff.mp taken
  obtain ⟨queued, moved⟩ := Option.ite_none_right_eq_some.mp taken
  cases moved
  have ok := held.tasks id task found
  refine held.setTask found
    (.still rfl (fun resolved => resolved) (fun asked => asked) rfl rfl) ?_
  exact ⟨ok.made, ok.ambient, ok.plain, ok.awaits, ok.abandoned, ok.tidying, ok.resolved,
    fun _ => .inr (.inl nofun)⟩

theorem inv_delivered {id : Nat} (held : Inv s)
    (taken : step s (.deliver id) = some s') : Inv s' := by
  obtain ⟨task, callId, call, stage, found, awaiting, foundCall, taken⟩ := onAwait_found taken
  exact inv_deliver held found awaiting foundCall taken

theorem inv_resumes {callId : Nat} (held : Inv s)
    (taken : step s (.resumes callId) = some s') : Inv s' := by
  obtain ⟨call, found, taken⟩ := Option.bind_eq_some_iff.mp taken
  split at taken
  · next id waiting =>
      obtain ⟨task, foundTask, taken⟩ := Option.bind_eq_some_iff.mp taken
      obtain ⟨resolved, moved⟩ := Option.ite_none_right_eq_some.mp taken
      cases moved
      have ok := held.calls callId call found
      have resumed : CallOk s.made s.tasks callId { call with job := .running } :=
        ok.proceed (by simp [waiting, Job.hasEnded]) nofun
      refine held.setCall found ⟨rfl, fun event => event⟩ ?_
      refine ⟨resumed.made, resumed.caller, resumed.attended, nofun, ?_, resumed.event⟩
      intro taskId member
      rcases List.mem_cons.mp member with rfl | member
      · obtain ⟨task', found', submitted⟩ := ok.waiting taskId waiting
        obtain rfl : task = task' := Option.some.inj (foundTask.symm.trans found')
        exact ⟨task, foundTask, submitted, resolved⟩
      · exact ok.collected taskId member
  · cases taken

theorem inv_step {label : Label} (held : Inv s) (taken : step s label = some s') : Inv s' := by
  cases label with
  | createTask => exact inv_createTask held taken
  | runThreaded _ => exact inv_runThreaded held taken
  | submit _ _ => exact inv_submit held taken
  | result _ _ => exact inv_result held taken
  | resultTimesOut _ => exact inv_resultTimesOut held taken
  | cancelTask _ => exact inv_cancelTask held taken
  | cancelFuture _ => exact inv_cancelFuture held taken
  | coroutineEnds _ => exact inv_coroutineEnds held taken
  | jobEnds _ _ => exact inv_jobEnds held taken
  | jobStarts _ => exact inv_jobStarts held taken
  | expire _ => exact inv_expire held taken
  | graceOver _ => exact inv_graceOver held taken
  | wakes _ _ => exact inv_wakes held taken
  | tidied _ => exact inv_tidied held taken
  | handle _ => exact inv_handle held taken
  | setEvent _ => exact inv_setEvent held taken
  | setOwn _ => exact inv_setOwn held taken
  | deliver _ => exact inv_delivered held taken
  | resumes _ => exact inv_resumes held taken

theorem inv_start : Inv start := ⟨nofun, nofun⟩

theorem inv_run {history : List (State × Label)} (run : Reaches step start history s) : Inv s :=
  run.invariant inv_start fun _ _ _ held taken => inv_step held taken

end Koil.CancelCascades
