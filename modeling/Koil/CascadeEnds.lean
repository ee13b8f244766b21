import Koil.CascadeSteps

/-! How a cancellation ends: what is left beneath a cancelled call once all is at rest,
how soon that is, and where cancellations come from. -/

namespace Koil.CancelCascades

open Ranks Runs

variable {s s' : State} {id : Nat} {call : Call} {task : Task}

theorem setTask_rank_lt {task' : Task} (held : Inv s) (found : s.tasks id = some task)
    (lower : task'.rank < task.rank) : (s.setTask id task').rank < s.rank := by
  have member : id ∈ Finset.range s.made := Finset.mem_range.mpr (held.tasks id task found).made
  have tasks := total_update_lt member found lower
  simp only [State.rank, State.setTask]
  omega

theorem setCall_rank_lt {call' : Call} (held : Inv s) (found : s.calls id = some call)
    (lower : call'.rank < call.rank) : (s.setCall id call').rank < s.rank := by
  have member : id ∈ Finset.range s.made := Finset.mem_range.mpr (held.calls id call found).made
  have calls := total_update_lt member found lower
  simp only [State.rank, State.setCall]
  omega

theorem signal_rank_le (event : Event) : event.signal.rank ≤ event.rank := by
  cases event <;> simp [Event.signal, Event.rank]

theorem await_rank_lt {callId : Nat} {task' : Task} (held : Inv s)
    (found : s.tasks id = some task) (foundCall : s.calls callId = some call)
    (lower : task'.rank < task.rank) :
    ((s.setCall callId call.signal).setTask id task').rank < s.rank := by
  have member : id ∈ Finset.range s.made := Finset.mem_range.mpr (held.tasks id task found).made
  have tasks := total_update_lt member found lower
  have event : call.signal.rank ≤ call.rank := Nat.add_le_add_right (signal_rank_le call.event) _
  have calls : total Call.rank (Finset.range s.made)
      (Function.update s.calls callId (some call.signal)) ≤
        total Call.rank (Finset.range s.made) s.calls := total_update_le foundCall event
  simp only [State.rank, State.setTask, State.setCall]
  omega

theorem cancel_rank_le (task : Task) : task.cancel.rank ≤ task.rank := by
  unfold Task.cancel
  split
  · exact le_rfl
  · have own := signal_rank_le task.own
    simp only [Task.rank]
    omega

theorem throw_coroutine_rank_le (task : Task) :
    task.throw.coroutine.rank ≤ task.coroutine.rank := by
  unfold Task.throw
  split
  · next awaiting => simp [Task.await, awaiting, Coroutine.rank]
  · next awaiting => simp [Task.abandon, awaiting, Coroutine.rank]
  · exact le_rfl

theorem throw_stage (task : Task) : task.throw.stage = task.stage ∧ task.throw.own = task.own := by
  unfold Task.throw
  split <;> exact ⟨rfl, rfl⟩

theorem wake_rank_lt (racing : task.stage = .racing) (timedOut : Bool) :
    (task.wake timedOut).rank < task.rank := by
  unfold Task.wake
  split
  · simp [Task.rank, racing, Stage.rank]
  · have coroutine := throw_coroutine_rank_le
      { task with asked := true, stage := .tidying, timedOut := timedOut }
    have same := throw_stage { task with asked := true, stage := .tidying, timedOut := timedOut }
    simp only [Task.rank, same.1, same.2, racing, Stage.rank]
    simp only at coroutine
    omega

theorem coroutine_rank_lt {coroutine : Coroutine} (lower : coroutine.rank < task.coroutine.rank) :
    { task with coroutine := coroutine : Task }.rank < task.rank := by
  simp only [Task.rank]
  omega

theorem job_rank_lt {job : Job} (lower : job.rank < call.job.rank) :
    { call with job := job : Call }.rank < call.rank := by
  simp only [Call.rank]
  omega

theorem timeout_rank_lt {callId : Nat} (held : Inv s) (found : s.calls callId = some call)
    (waiting : call.job = .waiting id) (foundTask : s.tasks id = some task) :
    ((s.setCall callId { call with job := .running }).setTask id task.cancel).rank < s.rank := by
  have member : callId ∈ Finset.range s.made :=
    Finset.mem_range.mpr (held.calls callId call found).made
  have lower : { call with job := .running : Call }.rank < call.rank :=
    job_rank_lt (by simp [waiting, Job.rank])
  have calls := total_update_lt member found lower
  have tasks : total Task.rank (Finset.range s.made)
      (Function.update s.tasks id (some task.cancel)) ≤
        total Task.rank (Finset.range s.made) s.tasks :=
    total_update_le foundTask (cancel_rank_le task)
  simp only [State.rank, State.setTask, State.setCall]
  omega

theorem deliver_rank_lt {callId : Nat} {stage : Await} (held : Inv s)
    (found : s.tasks id = some task) (awaiting : task.coroutine = .awaits callId stage)
    (foundCall : s.calls callId = some call)
    (taken : s.deliver id task callId call stage call.job = some s') : s'.rank < s.rank := by
  unfold State.deliver at taken
  split at taken
  · cases taken
    exact await_rank_lt held found foundCall
      (coroutine_rank_lt (by simp [awaiting, Coroutine.rank]))
  · cases taken
    exact setTask_rank_lt held found (coroutine_rank_lt (by simp [awaiting, Coroutine.rank]))
  · cases taken
    exact setTask_rank_lt held found (coroutine_rank_lt (by simp [awaiting, Coroutine.rank]))
  · cases taken

theorem resultTimesOut_lowers {callId : Nat} (held : Inv s)
    (taken : step s (.resultTimesOut callId) = some s') : s'.rank < s.rank := by
  obtain ⟨call, found, taken⟩ := Option.bind_eq_some_iff.mp taken
  split at taken
  · next id waiting =>
      obtain ⟨task, foundTask, taken⟩ := Option.bind_eq_some_iff.mp taken
      cases taken
      exact timeout_rank_lt held found waiting foundTask
  · cases taken

theorem coroutineEnds_lowers {id : Nat} (held : Inv s)
    (taken : step s (.coroutineEnds id) = some s') : s'.rank < s.rank := by
  obtain ⟨task, found, taken⟩ := Option.bind_eq_some_iff.mp taken
  obtain ⟨running, moved⟩ := Option.ite_none_right_eq_some.mp taken
  cases moved
  exact setTask_rank_lt held found (coroutine_rank_lt (by simp [running, Coroutine.rank]))

theorem jobEnds_lowers {callId : Nat} {cancelled : Bool} (held : Inv s)
    (taken : step s (.jobEnds callId cancelled) = some s') : s'.rank < s.rank := by
  obtain ⟨call, found, taken⟩ := Option.bind_eq_some_iff.mp taken
  obtain ⟨running, moved⟩ := Option.ite_none_right_eq_some.mp taken
  cases moved
  exact setCall_rank_lt held found (job_rank_lt (by simp [running, Job.rank]))

theorem jobStarts_lowers {callId : Nat} (held : Inv s)
    (taken : step s (.jobStarts callId) = some s') : s'.rank < s.rank := by
  obtain ⟨call, found, taken⟩ := Option.bind_eq_some_iff.mp taken
  obtain ⟨⟨queued, _⟩, moved⟩ := Option.ite_none_right_eq_some.mp taken
  cases moved
  exact setCall_rank_lt held found (job_rank_lt (by simp [queued, Job.rank]))

theorem expire_lowers {id : Nat} (held : Inv s)
    (taken : step s (.expire id) = some s') : s'.rank < s.rank := by
  obtain ⟨task, callId, call, stage, found, awaiting, foundCall, taken⟩ := onAwait_found taken
  obtain ⟨rfl, moved⟩ := Option.ite_none_right_eq_some.mp taken
  cases moved
  apply setTask_rank_lt held found
  simp [Task.abandon, Task.rank, awaiting, Coroutine.rank]

theorem graceOver_lowers {id : Nat} (held : Inv s)
    (taken : step s (.graceOver id) = some s') : s'.rank < s.rank := by
  obtain ⟨task, found, taken⟩ := Option.bind_eq_some_iff.mp taken
  obtain ⟨⟨tidying, _⟩, moved⟩ := Option.ite_none_right_eq_some.mp taken
  cases moved
  apply setTask_rank_lt held found
  simp [Task.rank, tidying, Stage.rank]

theorem wakes_lowers {id : Nat} {timedOut : Bool} (held : Inv s)
    (taken : step s (.wakes id timedOut) = some s') : s'.rank < s.rank := by
  obtain ⟨task, found, taken⟩ := Option.bind_eq_some_iff.mp taken
  obtain ⟨⟨racing, _⟩, moved⟩ := Option.ite_none_right_eq_some.mp taken
  cases moved
  exact setTask_rank_lt held found (wake_rank_lt racing timedOut)

theorem tidied_lowers {id : Nat} (held : Inv s)
    (taken : step s (.tidied id) = some s') : s'.rank < s.rank := by
  obtain ⟨task, found, taken⟩ := Option.bind_eq_some_iff.mp taken
  obtain ⟨⟨tidying, _⟩, moved⟩ := Option.ite_none_right_eq_some.mp taken
  cases moved
  apply setTask_rank_lt held found
  simp [Task.rank, tidying, Stage.rank]

theorem handle_lowers {id : Nat} (held : Inv s)
    (taken : step s (.handle id) = some s') : s'.rank < s.rank := by
  obtain ⟨task, callId, call, stage, found, awaiting, foundCall, taken⟩ := onAwait_found taken
  obtain ⟨rfl, moved⟩ := Option.ite_none_right_eq_some.mp taken
  cases moved
  exact await_rank_lt held found foundCall
    (coroutine_rank_lt (by simp [awaiting, Coroutine.rank]))

theorem setEvent_lowers {callId : Nat} (held : Inv s)
    (taken : step s (.setEvent callId) = some s') : s'.rank < s.rank := by
  obtain ⟨call, found, taken⟩ := Option.bind_eq_some_iff.mp taken
  obtain ⟨queued, moved⟩ := Option.ite_none_right_eq_some.mp taken
  cases moved
  apply setCall_rank_lt held found
  simp [Call.rank, queued, Event.rank]

theorem setOwn_lowers {id : Nat} (held : Inv s)
    (taken : step s (.setOwn id) = some s') : s'.rank < s.rank := by
  obtain ⟨task, found, taken⟩ := Option.bind_eq_some_iff.mp taken
  obtain ⟨queued, moved⟩ := Option.ite_none_right_eq_some.mp taken
  cases moved
  apply setTask_rank_lt held found
  simp [Task.rank, queued, Event.rank]

theorem deliver_lowers {id : Nat} (held : Inv s)
    (taken : step s (.deliver id) = some s') : s'.rank < s.rank := by
  obtain ⟨task, callId, call, stage, found, awaiting, foundCall, taken⟩ := onAwait_found taken
  exact deliver_rank_lt held found awaiting foundCall taken

theorem resumes_lowers {callId : Nat} (held : Inv s)
    (taken : step s (.resumes callId) = some s') : s'.rank < s.rank := by
  obtain ⟨call, found, taken⟩ := Option.bind_eq_some_iff.mp taken
  split at taken
  · next id waiting =>
      obtain ⟨task, foundTask, taken⟩ := Option.bind_eq_some_iff.mp taken
      obtain ⟨_, moved⟩ := Option.ite_none_right_eq_some.mp taken
      cases moved
      apply setCall_rank_lt held found
      simp [Call.rank, waiting, Job.rank]
  · cases taken

theorem settles_rank_lt {label : Label} (held : Inv s) (settles : label.settles = true)
    (taken : step s label = some s') : s'.rank < s.rank := by
  cases label with
  | createTask | runThreaded _ | submit _ _ | result _ _ | cancelTask _ | cancelFuture _ =>
      cases settles
  | resultTimesOut _ => exact resultTimesOut_lowers held taken
  | coroutineEnds _ => exact coroutineEnds_lowers held taken
  | jobEnds _ _ => exact jobEnds_lowers held taken
  | jobStarts _ => exact jobStarts_lowers held taken
  | expire _ => exact expire_lowers held taken
  | graceOver _ => exact graceOver_lowers held taken
  | wakes _ _ => exact wakes_lowers held taken
  | tidied _ => exact tidied_lowers held taken
  | handle _ => exact handle_lowers held taken
  | setEvent _ => exact setEvent_lowers held taken
  | setOwn _ => exact setOwn_lowers held taken
  | deliver _ => exact deliver_lowers held taken
  | resumes _ => exact resumes_lowers held taken

section rest

/-- The await of a call is in the handler, and its job neither has ended nor is revoked. -/
structure Waits (s : State) (id : Nat) (task : Task) (callId : Nat) : Prop where
  found : s.tasks id = some task
  awaiting : task.coroutine = .awaits callId .handling
  later : id < callId
  cancelled : ∃ call, s.calls callId = some call ∧ call.event = .set ∧ call.caller = id ∧
    call.job.hasEnded = false ∧ s.revoked callId call = false

theorem AtRest.event_set (rest : AtRest s) (found : s.calls id = some call)
    (signalled : call.event ≠ .unset) : call.event = .set := by
  have idle := rest.due (.setEvent id) rfl
  cases event : call.event with
  | unset => exact absurd event signalled
  | queued => simp [step, State.onCall, found, event] at idle
  | set => rfl

theorem AtRest.ended_or_waits (rest : AtRest s) (held : Inv s) (found : s.tasks id = some task)
    (asked : task.asked = true) : task.coroutine = .ended ∨ ∃ callId, Waits s id task callId := by
  have ok := held.tasks id task found
  obtain ⟨notRunning, notShielded⟩ := rest.heeded id task found asked
  cases coroutine : task.coroutine with
  | running => exact absurd coroutine notRunning
  | ended => exact .inl rfl
  | awaits callId stage =>
      right
      obtain ⟨kept, call, foundCall, caller, _, handling⟩ := ok.awaits callId stage coroutine
      have okCall := held.calls callId call foundCall
      cases stage with
      | shielded => exact absurd coroutine (notShielded callId)
      | thrown =>
          have idle := rest.due (.handle id) rfl
          simp [step, State.onAwait, State.onTask, State.onCall, found, coroutine, foundCall]
            at idle
      | handling =>
          refine ⟨callId, found, coroutine, caller ▸ okCall.caller, call, foundCall,
            rest.event_set foundCall (handling rfl), caller, ?_, ?_⟩
          · have idle := rest.due (.deliver id) rfl
            cases job : call.job with
            | ended cancelled =>
                simp [step, State.onAwait, State.onTask, State.onCall, found, coroutine,
                  foundCall, State.deliver, job] at idle
            | queued | running | waiting => rfl
          · simp [State.revoked, caller, found, kept]

theorem AtRest.not_racing (rest : AtRest s) (found : s.tasks id = some task) {callId : Nat}
    (submitted : task.ambient = some callId) (foundCall : s.calls callId = some call)
    (cancelled : call.event = .set) : task.stage ≠ .racing := by
  intro racing
  have idle := rest.due (.wakes id false) rfl
  have fired : s.ambientSet task = true := by
    simp [State.ambientSet, submitted, foundCall, cancelled]
  simp [step, State.onTask, found, racing, State.raceOver, fired] at idle

/-- At rest, what was submitted under a set event, or has been waited for, is over, unless
it is kept waiting for a call. -/
theorem AtRest.over_or_waits (rest : AtRest s) (held : Inv s) (found : s.tasks id = some task)
    {callId : Nat} (submitted : task.ambient = some callId)
    (foundCall : s.calls callId = some call)
    (bound : call.event = .set ∨ task.stage = .resolved) :
    (task.coroutine = .ended ∧ task.stage = .resolved) ∨ ∃ other, Waits s id task other := by
  have ok := held.tasks id task found
  have raced : task.stage ≠ .racing := by
    rcases bound with cancelled | resolved
    · exact rest.not_racing found submitted foundCall cancelled
    · simp [resolved]
  cases stage : task.stage with
  | plain =>
      have none := ok.plain stage
      rw [submitted] at none
      cases none
  | racing => exact absurd stage raced
  | tidying =>
      refine (rest.ended_or_waits held found (ok.tidying stage)).imp_left ?_
      intro ended
      have idle := rest.due (.tidied id) rfl
      simp [step, State.onTask, found, stage, ended] at idle
  | resolved =>
      rcases ok.resolved stage with ended | ⟨_, asked⟩
      · exact .inl ⟨ended, rfl⟩
      · exact (rest.ended_or_waits held found asked).imp_left fun ended => ⟨ended, rfl⟩

/-- At rest, the function of a cancelled call is over or deaf, unless a task of its own
keeps it waiting. -/
theorem AtRest.call_over (rest : AtRest s) (held : Inv s) (found : s.calls id = some call)
    (cancelled : call.event = .set)
    (free : ∀ taskId task, s.tasks taskId = some task → task.ambient = some id →
      ∀ callId, ¬ Waits s taskId task callId) : Over s (.call id) ∨ Deaf s id := by
  have ok := held.calls id call found
  have same : ∀ call', s.calls id = some call' → call' = call :=
    fun call' found' => Option.some.inj (found'.symm.trans found)
  cases job : call.job with
  | queued =>
      cases revoked : s.revoked id call with
      | true =>
          left
          intro call' found'
          rw [same call' found']
          exact .inr ⟨job, revoked⟩
      | false => exact .inr ⟨call, found, cancelled, .inr ⟨job, revoked⟩⟩
  | running => exact .inr ⟨call, found, cancelled, .inl job⟩
  | waiting taskId =>
      obtain ⟨task, foundTask, submitted⟩ := ok.waiting taskId job
      rcases rest.over_or_waits held foundTask submitted found (.inl cancelled) with
        ⟨_, resolved⟩ | ⟨other, waits⟩
      · have idle := rest.due (.resumes id) rfl
        simp [step, State.onCall, State.onTask, found, job, foundTask, resolved] at idle
      · exact absurd waits (free taskId task foundTask submitted other)
  | ended cancelled =>
      left
      intro call' found'
      rw [same call' found']
      exact .inl ⟨cancelled, job⟩

theorem AtRest.called (rest : AtRest s) (held : Inv s) (found : s.calls id = some call)
    (above : Over s (.task call.caller)) : call.event = .set ∨ Over s (.call id) := by
  obtain ⟨task, foundTask, attended⟩ := (held.calls id call found).attended
  rcases attended with ⟨stage, awaiting⟩ | abandoned | ended
  · have isOver := (above task foundTask).1
    rw [awaiting] at isOver
    cases isOver
  · obtain ⟨call', found', signalled⟩ :=
      (held.tasks call.caller task foundTask).abandoned id abandoned
    obtain rfl : call = call' := Option.some.inj (found.symm.trans found')
    exact .inl (rest.event_set found signalled)
  · right
    intro call' found'
    obtain rfl : call = call' := Option.some.inj (found.symm.trans found')
    cases job : call.job with
    | ended cancelled => exact .inl ⟨cancelled, rfl⟩
    | queued | running | waiting => simp [job, Job.hasEnded] at ended

/-- As far as a cancellation follows what a call has started: to the tasks that its function
submitted, if its event was set or their results were collected, and so on. -/
inductive Pursued (s : State) (id : Nat) : Node → Prop
  | self : Pursued s id (.call id)
  | task {callId taskId : Nat} {call : Call} {task : Task} (above : Pursued s id (.call callId))
      (found : s.calls callId = some call) (foundTask : s.tasks taskId = some task)
      (submitted : task.ambient = some callId)
      (bound : call.event = .set ∨ taskId ∈ call.collected) : Pursued s id (.task taskId)
  | call {taskId callId : Nat} {call : Call} (above : Pursued s id (.task taskId))
      (found : s.calls callId = some call) (called : call.caller = taskId) :
      Pursued s id (.call callId)

theorem Pursued.trans {middle : Nat} {node : Node} (first : Pursued s id (.call middle))
    (next : Pursued s middle node) : Pursued s id node := by
  induction next with
  | self => exact first
  | task _ found foundTask submitted bound ih => exact .task ih found foundTask submitted bound
  | call _ found called ih => exact .call ih found called

theorem Waits.not_over {callId : Nat} (waits : Waits s id task callId) :
    ¬ Over s (.call callId) := by
  intro isOver
  obtain ⟨call, found, _, _, busy, awaited⟩ := waits.cancelled
  rcases isOver call found with ⟨cancelled, ended⟩ | ⟨_, revoked⟩
  · simp [ended, Job.hasEnded] at busy
  · simp [awaited] at revoked

theorem Waits.pursued {top callId : Nat} (waits : Waits s id task callId)
    (above : Pursued s top (.task id)) : Pursued s top (.call callId) := by
  obtain ⟨call, found, _, caller, _⟩ := waits.cancelled
  exact .call above found caller

/-- Where no call that a cancellation follows is deaf, its function is over. The induction is
on the calls made after this one. -/
theorem AtRest.heard_over (rest : AtRest s) (held : Inv s) (found : s.calls id = some call)
    (cancelled : call.event = .set)
    (heard : ∀ callId, Pursued s id (.call callId) → ¬ Deaf s callId) : Over s (.call id) := by
  induction left : s.made - id using Nat.strongRecOn generalizing id call with
  | _ left ih =>
      apply (rest.call_over held found cancelled ?_).resolve_right (heard id .self)
      intro taskId task foundTask submitted callId waits
      obtain ⟨call', found', set, _⟩ := waits.cancelled
      have below : Pursued s id (.call callId) :=
        waits.pursued (.task .self found foundTask submitted (.inl cancelled))
      have earlier : id < callId :=
        ((held.tasks taskId task foundTask).ambient id submitted).1.trans waits.later
      have made : callId < s.made := (held.calls callId call' found').made
      have isOver : Over s (.call callId) := ih (s.made - callId) (by omega) found' set
        (fun other pursued => heard other (below.trans pursued)) rfl
      exact waits.not_over isOver

theorem AtRest.pursued_over (rest : AtRest s) (held : Inv s) (found : s.calls id = some call)
    (cancelled : call.event = .set)
    (free : ∀ taskId task callId, Pursued s id (.task taskId) → ¬ Waits s taskId task callId)
    {node : Node} (pursued : Pursued s id node) :
    Over s node ∨ ∃ callId, node = .call callId ∧ Deaf s callId := by
  have overCall : ∀ callId call, Pursued s id (.call callId) → s.calls callId = some call →
      call.event = .set → Over s (.call callId) ∨ Deaf s callId := by
    intro callId call above found set
    apply rest.call_over held found set
    intro taskId task foundTask submitted other
    exact free taskId task other (.task above found foundTask submitted (.inl set))
  induction pursued with
  | self => exact (overCall id call .self found cancelled).imp_right fun deaf => ⟨id, rfl, deaf⟩
  | @task callId taskId call task above foundCall foundTask submitted bound ih =>
      left
      intro task' found'
      obtain rfl : task = task' := Option.some.inj (foundTask.symm.trans found')
      have resolved : call.event = .set ∨ task.stage = .resolved := by
        refine bound.imp_right fun member => ?_
        obtain ⟨task', found', _, resolved⟩ :=
          (held.calls callId call foundCall).collected taskId member
        rwa [← Option.some.inj (foundTask.symm.trans found')] at resolved
      apply (rest.over_or_waits held foundTask submitted foundCall resolved).resolve_right
      rintro ⟨other, waits⟩
      exact free taskId task other (.task above foundCall foundTask submitted bound) waits
  | @call taskId callId call above foundCall called ih =>
      subst called
      have overTask : Over s (.task call.caller) := by
        apply ih.resolve_right
        rintro ⟨_, same, _⟩
        cases same
      rcases rest.called held foundCall overTask with set | isOver
      · exact (overCall callId call (.call above foundCall rfl) foundCall set).imp_right
          fun deaf => ⟨callId, rfl, deaf⟩
      · exact .inl isOver

theorem Pursued.under {node : Node} (pursued : Pursued s id node) : Under s (.call id) node := by
  induction pursued with
  | self => exact .self
  | task _ _ foundTask submitted _ ih => exact .task ih foundTask submitted
  | call _ found called ih => exact .call ih found called

theorem Inv.revoked_event (held : Inv s) (found : s.calls id = some call)
    (revoked : s.revoked id call = true) : call.event ≠ .unset := by
  obtain ⟨task, foundTask, -⟩ := (held.calls id call found).attended
  have abandoned : id ∈ task.abandoned := by simpa [State.revoked, foundTask] using revoked
  obtain ⟨call', found', event⟩ := (held.tasks call.caller task foundTask).abandoned id abandoned
  obtain rfl : call = call' := Option.some.inj (found.symm.trans found')
  exact event

theorem AtRest.pursued_or_strays (rest : AtRest s) (held : Inv s)
    (over_or_deaf : ∀ node, Pursued s id node →
      Over s node ∨ ∃ callId, node = .call callId ∧ Deaf s callId)
    {node : Node} (under : Under s (.call id) node) : Pursued s id node ∨ Strays s id node := by
  induction under with
  | self => exact .inl .self
  | @task callId taskId task above found submitted ih =>
      obtain ⟨-, call, foundCall⟩ := (held.tasks taskId task found).ambient callId submitted
      rcases ih with pursued | ⟨left, behind, started, below⟩
      · by_cases bound : call.event = .set ∨ taskId ∈ call.collected
        · exact .inl (.task pursued foundCall found submitted bound)
        · obtain ⟨unset, uncollected⟩ := not_or.mp bound
          have ended : ∃ cancelled, call.job = .ended cancelled := by
            rcases over_or_deaf _ pursued with isOver | ⟨_, same, deaf⟩
            · exact (isOver call foundCall).resolve_right fun ⟨_, revoked⟩ =>
                unset (rest.event_set foundCall (held.revoked_event foundCall revoked))
            · cases same
              obtain ⟨call', found', set, -⟩ := deaf
              obtain rfl : call = call' := Option.some.inj (foundCall.symm.trans found')
              exact absurd set unset
          exact .inr ⟨taskId, ⟨task, callId, call, found, submitted, foundCall, unset, ended,
            uncollected⟩, .task above found submitted, .self⟩
      · exact .inr ⟨left, behind, started, .task below found submitted⟩
  | @call taskId callId call above found called ih =>
      rcases ih with pursued | ⟨left, behind, started, below⟩
      · exact .inl (.call pursued found called)
      · exact .inr ⟨left, behind, started, .call below found called⟩

end rest

/-- Once nothing new is started the system comes to rest within a number of steps fixed
beforehand, and then all that a cancelled call has started is over, to whatever depth and
however the steps were interleaved, where no function ignores its event: but for what was
left behind by functions that had ended before. -/
theorem cancellation_completes {before history : List (State × Label)}
    (run : Reaches step start before s) (settling : Reaches step s history s')
    (settles : ∀ taken ∈ history, taken.2.settles = true) :
    history.length ≤ s.rank ∧
      ∀ id call, s'.calls id = some call → call.event = .set → AtRest s' →
        (∀ callId, Under s' (.call id) (.call callId) → ¬ Deaf s' callId) →
        ∀ node, Under s' (.call id) node → Over s' node ∨ Strays s' id node := by
  have held : Inv s := inv_run run
  constructor
  · have bounded := length_add_rank_le State.rank held
      (fun _ _ _ held _ taken => inv_step held taken)
      (fun _ _ _ held settles taken => settles_rank_lt held settles taken) settling settles
    omega
  · intro id call found cancelled rest heard node under
    have held' : Inv s' := inv_run (run.trans settling)
    have over_or_deaf : ∀ node, Pursued s' id node →
        Over s' node ∨ ∃ callId, node = .call callId ∧ Deaf s' callId := by
      intro node pursued
      refine rest.pursued_over held' found cancelled ?_ pursued
      intro taskId task callId above waits
      have below := waits.pursued above
      obtain ⟨call', found', set, _⟩ := waits.cancelled
      exact waits.not_over (rest.heard_over held' found' set
        fun other pursued => heard other (below.trans pursued).under)
    refine (rest.pursued_or_strays held' over_or_deaf under).imp_left fun pursued => ?_
    apply (over_or_deaf node pursued).resolve_right
    rintro ⟨callId, rfl, deaf⟩
    exact heard callId under deaf

/-- Where functions do ignore their events, the bounded waits of the handlers free all the
rest: with these over, only the functions themselves are left running, and what was left
behind. -/
theorem deaf_functions_left {history : List (State × Label)} (run : Reaches step start history s)
    (rest : AtRest s) (timedOut : TimedOut s) (found : s.calls id = some call)
    (cancelled : call.event = .set) {node : Node} (under : Under s (.call id) node) :
    Over s node ∨ (∃ callId, node = .call callId ∧ Deaf s callId) ∨ Strays s id node := by
  have held : Inv s := inv_run run
  have over_or_deaf : ∀ node, Pursued s id node →
      Over s node ∨ ∃ callId, node = .call callId ∧ Deaf s callId := by
    intro node pursued
    refine rest.pursued_over held found cancelled ?_ pursued
    intro taskId task callId _ waits
    obtain ⟨call', found', _⟩ := waits.cancelled
    have expires := timedOut taskId
    simp [step, State.onAwait, State.onTask, State.onCall, waits.found, waits.awaiting, found']
      at expires
  rcases rest.pursued_or_strays held over_or_deaf under with pursued | strays
  · exact (over_or_deaf node pursued).imp_right .inl
  · exact .inr (.inr strays)

/-- At any time: what a function that has ended waited for, and did not give up, is over,
with all that was waited for beneath it. -/
theorem awaited_over {history : List (State × Label)} (run : Reaches step start history s)
    (found : s.calls id = some call) (ended : call.job.hasEnded = true) {node : Node}
    (awaited : Awaited s id node) : Over s node := by
  have held : Inv s := inv_run run
  have callOver : ∀ callId call, s.calls callId = some call → call.job.hasEnded = true →
      Over s (.call callId) := by
    intro callId call found ended call' found'
    obtain rfl : call = call' := Option.some.inj (found.symm.trans found')
    cases job : call.job with
    | ended cancelled => exact .inl ⟨cancelled, rfl⟩
    | queued | running | waiting => simp [job, Job.hasEnded] at ended
  induction awaited with
  | self => exact callOver id call found ended
  | @task callId taskId call task _ foundCall foundTask collected inTime _ =>
      intro task' found'
      obtain rfl : task = task' := Option.some.inj (foundTask.symm.trans found')
      obtain ⟨task', found', _, resolved⟩ :=
        (held.calls callId call foundCall).collected taskId collected
      obtain rfl : task = task' := Option.some.inj (foundTask.symm.trans found')
      rcases (held.tasks taskId task foundTask).resolved resolved with isOver | ⟨late, _⟩
      · exact ⟨isOver, resolved⟩
      · rw [inTime] at late
        cases late
  | @call taskId callId task call _ foundTask foundCall called kept ih =>
      subst called
      obtain ⟨task', found', attended⟩ := (held.calls callId call foundCall).attended
      obtain rfl : task = task' := Option.some.inj (foundTask.symm.trans found')
      rcases attended with ⟨stage, awaiting⟩ | abandoned | isOver
      · have left := (ih task foundTask).1
        rw [awaiting] at left
        cases left
      · exact absurd abandoned kept
      · exact callOver callId call foundCall isOver

/-- No cancellation comes from nowhere: an event is set, and a task asked to cancel, only
where the call, or something it is part of, was cancelled or has timed out, or a function
ended with a CancelledError. The induction goes up to what was made before. -/
theorem cancellation_has_origin {history : List (State × Label)}
    (run : Reaches step start history s) :
    (∀ id call, s.calls id = some call → call.event ≠ .unset → Origin s (.call id)) ∧
      ∀ id task, s.tasks id = some task → task.asked = true → Origin s (.task id) := by
  have held : Inv s := inv_run run
  have both : ∀ id, (∀ call, s.calls id = some call → call.event ≠ .unset → Origin s (.call id)) ∧
      ∀ task, s.tasks id = some task → task.asked = true → Origin s (.task id) := by
    intro id
    induction id using Nat.strongRecOn with
    | _ id ih =>
        constructor
        · intro call found signalled
          have ok := held.calls id call found
          rcases ok.event signalled with ⟨task, foundTask, asked⟩ | ended
          · exact .caller found ((ih call.caller ok.caller).2 task foundTask asked)
          · exact .itself found ended
        · intro task found asked
          have ok := held.tasks id task found
          rcases ok.asked asked with
            plain | own | late | ⟨callId, call, submitted, foundCall, event⟩
          · exact .cancelledTask found plain asked
          · exact .cancelledFuture found own
          · exact .deadline found late
          · have before := (ok.ambient callId submitted).1
            exact .ambient found submitted ((ih callId before).1 call foundCall event)
  exact ⟨fun id => (both id).1, fun id => (both id).2⟩

section instances

def dueLabels (id : Nat) : List Label :=
  [.wakes id false, .tidied id, .handle id, .setEvent id, .setOwn id, .deliver id, .resumes id]

def Task.heeds (task : Task) : Bool :=
  !task.asked || match task.coroutine with
    | .running => false
    | .awaits _ .shielded => false
    | _ => true

def State.atRest (s : State) : Bool :=
  (List.range s.made).all fun id =>
    (dueLabels id).all (fun label => (step s label).isNone) && (s.tasks id).all Task.heeds

theorem Inv.no_task (held : Inv s) (late : s.made ≤ id) : s.tasks id = none := by
  cases found : s.tasks id with
  | none => rfl
  | some task => exact absurd (held.tasks id task found).made (not_lt.mpr late)

theorem Inv.no_call (held : Inv s) (late : s.made ≤ id) : s.calls id = none := by
  cases found : s.calls id with
  | none => rfl
  | some call => exact absurd (held.calls id call found).made (not_lt.mpr late)

theorem atRest_of_computed {history : List (State × Label)} (run : Reaches step start history s)
    (computed : s.atRest = true) : AtRest s := by
  have held : Inv s := inv_run run
  simp only [State.atRest, List.all_eq_true, List.mem_range, Bool.and_eq_true,
    Option.isNone_iff_eq_none] at computed
  have due : ∀ id, ∀ label ∈ dueLabels id, step s label = none := by
    intro id label member
    by_cases made : id < s.made
    · exact (computed id made).1 label member
    · simp only [dueLabels, List.mem_cons, List.not_mem_nil, or_false] at member
      have task := held.no_task (not_lt.mp made)
      have call := held.no_call (not_lt.mp made)
      rcases member with rfl | rfl | rfl | rfl | rfl | rfl | rfl <;>
        simp [step, State.onTask, State.onCall, State.onAwait, task, call]
  constructor
  · intro label isDue
    cases label with
    | wakes id timedOut =>
        cases timedOut with
        | false => exact due id _ (by simp [dueLabels])
        | true => cases isDue
    | tidied id | handle id | setEvent id | setOwn id | deliver id | resumes id =>
        exact due id _ (by simp [dueLabels])
    | _ => cases isDue
  · intro id task found asked
    have made : id < s.made := (held.tasks id task found).made
    have heeds := (computed id made).2
    rw [found, Option.all_some, Task.heeds, asked] at heeds
    cases coroutine : task.coroutine with
    | running => simp [coroutine] at heeds
    | ended => simp
    | awaits call stage => cases stage <;> simp [coroutine] at heeds ⊢

theorem not_deaf_of_computed {history : List (State × Label)} (run : Reaches step start history s)
    (heard : ∀ callId < s.made, ¬ Deaf s callId) (callId : Nat) : ¬ Deaf s callId := by
  intro deaf
  have ⟨call, found, _⟩ := deaf
  exact heard callId ((inv_run run).calls callId call found).made deaf

theorem timedOut_of_computed {history : List (State × Label)} (run : Reaches step start history s)
    (expired : ∀ id < s.made, (step s (.expire id)).isNone = true) : TimedOut s := by
  intro id
  by_cases made : id < s.made
  · exact Option.isNone_iff_eq_none.mp (expired id made)
  · have task := (inv_run run).no_task (not_lt.mp made)
    simp [step, State.onAwait, State.onTask, task]

def State.after (s : State) (labels : List Label) : State :=
  ((follow step [] s labels).map Prod.snd).getD s

/-- A task awaits `run_threaded`, whose function runs a coroutine that awaits `run_threaded`,
and the outer event has just been set by a cancellation of the task. -/
def cancelling : List Label :=
  [.createTask, .runThreaded 0, .jobStarts 1, .submit (some 1) false, .result 1 2, .runThreaded 2,
    .jobStarts 3, .cancelTask 0, .handle 0, .setEvent 1]

def polling : List Label :=
  [.wakes 2 false, .handle 2, .setEvent 3, .jobEnds 3 false, .deliver 2, .coroutineEnds 2,
    .tidied 2, .resumes 1, .jobEnds 1 false, .deliver 0, .coroutineEnds 0]

def ignoring : List Label :=
  [.wakes 2 false, .handle 2, .setEvent 3, .expire 2, .coroutineEnds 2, .tidied 2, .resumes 1,
    .jobEnds 1 false, .deliver 0, .coroutineEnds 0]

def cancelled : State := start.after cancelling

def polled : State := cancelled.after polling

def ignored : State := cancelled.after ignoring

theorem cancelled_reached : ∃ history, Reaches step start history cancelled :=
  ⟨_, Reaches.start.follow cancelling rfl⟩

theorem polled_settles : ∃ history, Reaches step cancelled history polled ∧
    ∀ taken ∈ history, taken.2.settles = true :=
  ⟨_, followed_run step cancelled
    (show ∀ label ∈ polling, label.settles = true by simp [polling, Label.settles]) rfl⟩

theorem cancellation_completes_nested :
    ∃ history, Reaches step cancelled history polled ∧ history.length ≤ cancelled.rank ∧
      ∀ node, Under polled (.call 1) node → Over polled node ∨ Strays polled 1 node := by
  obtain ⟨before, run⟩ := cancelled_reached
  obtain ⟨history, settling, settles⟩ := polled_settles
  have completes := cancellation_completes run settling settles
  have rest : AtRest polled := atRest_of_computed (run.trans settling) (by decide)
  have heard : ∀ id, ¬ Deaf polled id := not_deaf_of_computed (run.trans settling) (by decide)
  exact ⟨history, settling, completes.1, completes.2 1 _ rfl rfl rest fun callId _ => heard callId⟩

def forgetting : List Label :=
  [.createTask, .runThreaded 0, .jobStarts 1, .submit (some 1) false, .result 1 2, .runThreaded 2,
    .jobStarts 3, .submit (some 3) false, .jobEnds 3 false, .cancelTask 0, .handle 0, .setEvent 1]

example : Strays (start.after forgetting) 1 (.task 4) := by
  have outer : Under (start.after forgetting) (.call 1) (.task 2) := .task .self rfl rfl
  exact ⟨4, ⟨_, 3, _, rfl, rfl, rfl, by decide, ⟨false, rfl⟩, by decide⟩,
    .task (.call outer rfl rfl) rfl rfl, .self⟩

theorem deaf_function_left_alone :
    (Over ignored (.call 1) ∨ Strays ignored 1 (.call 1)) ∧
      (Over ignored (.task 2) ∨ Strays ignored 1 (.task 2)) ∧ Deaf ignored 3 := by
  obtain ⟨before, run⟩ := cancelled_reached
  have reached : Reaches step start _ ignored := run.follow ignoring rfl
  have rest : AtRest ignored := atRest_of_computed reached (by decide)
  have timedOut : TimedOut ignored := timedOut_of_computed reached (by decide)
  have outer : ignored.calls 1 = some ⟨0, .ended false, .set, [2]⟩ := rfl
  have left : ∀ {node}, Under ignored (.call 1) node → Over ignored node ∨
      (∃ callId, node = .call callId ∧ Deaf ignored callId) ∨ Strays ignored 1 node :=
    fun under => deaf_functions_left reached rest timedOut outer rfl under
  have inner : Under ignored (.call 1) (.task 2) := .task .self rfl rfl
  refine ⟨(left .self).imp_right (Or.resolve_left · ?_),
    (left inner).imp_right (Or.resolve_left · ?_), by decide⟩
  · rintro ⟨_, same, deaf⟩
    cases same
    exact absurd deaf (by decide)
  · rintro ⟨_, same, _⟩
    cases same

theorem awaited_over_nested : Over polled (.call 3) := by
  obtain ⟨before, run⟩ := cancelled_reached
  obtain ⟨history, settling, _⟩ := polled_settles
  have inner : Awaited polled 1 (.task 2) := .task .self rfl rfl (.head _) rfl
  have outer : polled.calls 1 = some ⟨0, .ended false, .set, [2]⟩ := rfl
  exact awaited_over (run.trans settling) outer rfl (.call inner rfl rfl rfl List.not_mem_nil)

theorem cancellation_has_origin_nested : Origin polled (.call 3) := by
  obtain ⟨before, run⟩ := cancelled_reached
  obtain ⟨history, settling, _⟩ := polled_settles
  exact (cancellation_has_origin (run.trans settling)).1 3 _ rfl (fun same => by cases same)

end instances

end Koil.CancelCascades
