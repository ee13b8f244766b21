import Koil.Ranks
import Mathlib.Data.List.Basic
import Mathlib.Logic.Function.Basic

/-! Calls nested in one another: coroutines that await `run_threaded`, whose functions
submit coroutines to the loop again, and how a cancellation goes down through them.

All calls and tasks belong to one loop, which is not shut down. What coroutines and
functions do, and when, is open; a coroutine awaits one call at a time. -/

namespace Koil.CancelCascades

open Ranks Runs

inductive Event
  | unset
  | queued
  | set
  deriving DecidableEq, Repr

/-- What the function of a `run_threaded` call does: it waits in the `result()` of a
future, or it has ended, with what asyncio takes for a CancelledError or not. -/
inductive Job
  | queued
  | running
  | waiting (task : Nat)
  | ended (cancelled : Bool)
  deriving DecidableEq, Repr

/-- Where the await of a call is: at the shield, there with a CancelledError on its way to
it, or in the `wait_for` of the handler. -/
inductive Await
  | shielded
  | thrown
  | handling
  deriving DecidableEq, Repr

inductive Coroutine
  | running
  | awaits (call : Nat) (stage : Await)
  | ended
  deriving DecidableEq, Repr

/-- A task of user code's own, or the work task of a submission: its race, the loop over
the losers, and its future resolved. -/
inductive Stage
  | plain
  | racing
  | tidying
  | resolved
  deriving DecidableEq, Repr

/-- A `run_threaded` call: the task that awaits it, its job and cancel event, and the
futures of which its function has got the result. -/
structure Call where
  caller : Nat
  job : Job
  event : Event
  collected : List Nat
  deriving DecidableEq, Repr

/-- A task: the call whose event was ambient at its submission, whether it has a deadline,
its own cancel event, whether it was asked to cancel, and the calls that it no longer
waits for although their jobs had not ended. -/
structure Task where
  ambient : Option Nat
  deadline : Bool
  own : Event
  asked : Bool
  coroutine : Coroutine
  abandoned : List Nat
  stage : Stage
  timedOut : Bool
  graceOver : Bool
  deriving DecidableEq, Repr

/-- Calls and tasks are numbered in the order in which they are made. -/
structure State where
  made : Nat
  calls : Nat → Option Call
  tasks : Nat → Option Task

def start : State := ⟨0, fun _ => none, fun _ => none⟩

/-- What user code does on the loop and in the pool, what the pool and the timers do, and
what the loop and the waiting threads do once it is due. -/
inductive Label
  | createTask
  | runThreaded (task : Nat)
  | submit (worker : Option Nat) (deadline : Bool)
  | result (call task : Nat)
  | resultTimesOut (call : Nat)
  | cancelTask (task : Nat)
  | cancelFuture (task : Nat)
  | coroutineEnds (task : Nat)
  | jobEnds (call : Nat) (cancelled : Bool)
  | jobStarts (call : Nat)
  | expire (call : Nat)
  | graceOver (task : Nat)
  | wakes (task : Nat) (timedOut : Bool)
  | tidied (task : Nat)
  | handle (task : Nat)
  | setEvent (call : Nat)
  | setOwn (task : Nat)
  | deliver (task : Nat)
  | resumes (call : Nat)
  deriving DecidableEq, Repr

def State.setCall (s : State) (id : Nat) (call : Call) : State :=
  { s with calls := Function.update s.calls id (some call) }

def State.setTask (s : State) (id : Nat) (task : Task) : State :=
  { s with tasks := Function.update s.tasks id (some task) }

def Event.signal : Event → Event
  | .unset => .queued
  | event => event

def Task.await (task : Task) (call : Nat) (stage : Await) : Task :=
  { task with coroutine := .awaits call stage }

def Task.abandon (task : Task) (call : Nat) : Task :=
  { task with coroutine := .running, abandoned := call :: task.abandoned }

/-- A CancelledError for the task: it reaches the await of a call, ends the handler's
wait, or is left to the coroutine's own code. -/
def Task.throw (task : Task) : Task :=
  match task.coroutine with
  | .awaits call .shielded => task.await call .thrown
  | .awaits call .handling => task.abandon call
  | _ => task

def Task.cancel (task : Task) : Task :=
  if task.stage = .resolved then task else { task with own := task.own.signal }

def Call.signal (call : Call) : Call := { call with event := call.event.signal }

def State.ambientSet (s : State) (task : Task) : Bool :=
  (task.ambient.bind s.calls).any (·.event == .set)

def State.raceOver (s : State) (task : Task) (timedOut : Bool) : Bool :=
  task.coroutine == .ended || task.own == .set || s.ambientSet task || timedOut

def Task.wake (task : Task) (timedOut : Bool) : Task :=
  if task.coroutine = .ended then { task with stage := .resolved }
  else { task with asked := true, stage := .tidying, timedOut := timedOut }.throw

/-- The task no longer waits for the job of its call, which is cancelled if still queued. -/
def State.revoked (s : State) (id : Nat) (call : Call) : Bool :=
  (s.tasks call.caller).any (·.abandoned.contains id)

/-- The loop has the end of the awaited job. A CancelledError takes the way of a
cancellation. -/
def State.deliver (s : State) (id : Nat) (task : Task) (callId : Nat) (call : Call) :
    Await → Job → Option State
  | .shielded, .ended true =>
      some ((s.setCall callId call.signal).setTask id (task.await callId .handling))
  | .shielded, .ended false => some (s.setTask id { task with coroutine := .running })
  | .handling, .ended _ => some (s.setTask id { task with coroutine := .running })
  | _, _ => none

def State.runThreaded (s : State) (id : Nat) (task : Task) : State :=
  { (s.setCall s.made ⟨id, .queued, .unset, []⟩).setTask id (task.await s.made .shielded) with
    made := s.made + 1 }

def State.create (s : State) (ambient : Option Nat) (deadline : Bool) (stage : Stage) : State :=
  { s.setTask s.made ⟨ambient, deadline, .unset, false, .running, [], stage, false, false⟩ with
    made := s.made + 1 }

def State.onTask (s : State) (id : Nat) (action : Task → Option State) : Option State :=
  (s.tasks id).bind action

def State.onCall (s : State) (id : Nat) (action : Call → Option State) : Option State :=
  (s.calls id).bind action

def State.onAwait (s : State) (id : Nat)
    (action : Task → Nat → Call → Await → Option State) : Option State :=
  s.onTask id fun task =>
    match task.coroutine with
    | .awaits callId stage => s.onCall callId fun call => action task callId call stage
    | _ => none

/-- `run_async_sharing_context` refuses where the ambient event is set. A function waits
only for the futures of its own submissions. -/
def step (s : State) : Label → Option State
  | .createTask => some (s.create none false .plain)
  | .runThreaded id => s.onTask id fun task =>
      if task.coroutine = .running then some (s.runThreaded id task) else none
  | .submit none deadline => some (s.create none deadline .racing)
  | .submit (some worker) deadline => s.onCall worker fun call =>
      if call.job = .running ∧ call.event ≠ .set then
        some (s.create (some worker) deadline .racing)
      else none
  | .result callId id => s.onCall callId fun call => s.onTask id fun task =>
      if call.job = .running ∧ task.ambient = some callId then
        some (s.setCall callId { call with job := .waiting id })
      else none
  | .resultTimesOut callId => s.onCall callId fun call =>
      match call.job with
      | .waiting id => s.onTask id fun task =>
          some ((s.setCall callId { call with job := .running }).setTask id task.cancel)
      | _ => none
  | .cancelTask id => s.onTask id fun task =>
      if task.stage = .plain ∧ task.coroutine ≠ .ended then
        some (s.setTask id { task with asked := true }.throw)
      else none
  | .cancelFuture id => s.onTask id fun task =>
      if task.stage = .plain then none else some (s.setTask id task.cancel)
  | .coroutineEnds id => s.onTask id fun task =>
      if task.coroutine = .running then some (s.setTask id { task with coroutine := .ended })
      else none
  | .jobEnds callId cancelled => s.onCall callId fun call =>
      if call.job = .running then some (s.setCall callId { call with job := .ended cancelled })
      else none
  | .jobStarts callId => s.onCall callId fun call =>
      if call.job = .queued ∧ s.revoked callId call = false then
        some (s.setCall callId { call with job := .running })
      else none
  | .expire id => s.onAwait id fun task callId _ stage =>
      if stage = .handling then some (s.setTask id (task.abandon callId)) else none
  | .graceOver id => s.onTask id fun task =>
      if task.stage = .tidying ∧ task.timedOut = true then
        some (s.setTask id { task with stage := .resolved, graceOver := true })
      else none
  | .wakes id timedOut => s.onTask id fun task =>
      if task.stage = .racing ∧ (timedOut = true → task.deadline = true) ∧
          s.raceOver task timedOut = true then
        some (s.setTask id (task.wake timedOut))
      else none
  | .tidied id => s.onTask id fun task =>
      if task.stage = .tidying ∧ task.coroutine = .ended then
        some (s.setTask id { task with stage := .resolved })
      else none
  | .handle id => s.onAwait id fun task callId call stage =>
      if stage = .thrown then
        some ((s.setCall callId call.signal).setTask id (task.await callId .handling))
      else none
  | .setEvent callId => s.onCall callId fun call =>
      if call.event = .queued then some (s.setCall callId { call with event := .set }) else none
  | .setOwn id => s.onTask id fun task =>
      if task.own = .queued then some (s.setTask id { task with own := .set }) else none
  | .deliver id => s.onAwait id fun task callId call stage =>
      s.deliver id task callId call stage call.job
  | .resumes callId => s.onCall callId fun call =>
      match call.job with
      | .waiting id => s.onTask id fun task =>
          if task.stage = .resolved then
            some (s.setCall callId
              { call with job := .running, collected := id :: call.collected })
          else none
      | _ => none

/-- What the loop, or a thread that waits for a future, does at once when it can. -/
def Label.isDue : Label → Bool
  | .wakes _ timedOut => !timedOut
  | .tidied _ | .handle _ | .setEvent _ | .setOwn _ | .deliver _ | .resumes _ => true
  | _ => false

/-- What starts nothing new: steps that are due, timers and timeouts, and the ends of what
user code is doing. -/
def Label.settles : Label → Bool
  | .createTask | .runThreaded _ | .submit _ _ | .result _ _ => false
  | .cancelTask _ | .cancelFuture _ => false
  | _ => true

/-- Nothing that is due is left to do, and coroutines that were asked to cancel have ended,
but for those which koil keeps waiting for a call. -/
structure AtRest (s : State) : Prop where
  due : ∀ label, label.isDue = true → step s label = none
  heeded : ∀ id task, s.tasks id = some task → task.asked = true →
    task.coroutine ≠ .running ∧ ∀ call, task.coroutine ≠ .awaits call .shielded

/-- The time of all waits that are bounded is over. -/
def TimedOut (s : State) : Prop := ∀ id, step s (.expire id) = none

/-- The event of the call is set, and still its function runs or is about to. -/
def Deaf (s : State) (id : Nat) : Prop :=
  ∃ call, s.calls id = some call ∧ call.event = .set ∧
    (call.job = .running ∨ call.job = .queued ∧ s.revoked id call = false)

instance (s : State) (id : Nat) : Decidable (Deaf s id) :=
  decidable_of_iff
    ((s.calls id).any (fun call => call.event == .set &&
      (call.job == .running || call.job == .queued && !s.revoked id call)) = true)
    (by simp [Deaf, Option.any_eq_true_iff_get, Option.eq_some_iff_get_eq])

inductive Node
  | call (id : Nat)
  | task (id : Nat)
  deriving DecidableEq, Repr

/-- What a call has started: the tasks that its function submitted, the calls that these
await or awaited, and so on. -/
inductive Under (s : State) (root : Node) : Node → Prop
  | self : Under s root root
  | task {callId taskId : Nat} {task : Task} (above : Under s root (.call callId))
      (found : s.tasks taskId = some task) (submitted : task.ambient = some callId) :
      Under s root (.task taskId)
  | call {taskId callId : Nat} {call : Call} (above : Under s root (.task taskId))
      (found : s.calls callId = some call) (called : call.caller = taskId) :
      Under s root (.call callId)

/-- A submission that nobody looks after: its function has ended without its result, before
its event was set. -/
def LeftBehind (s : State) (taskId : Nat) : Prop :=
  ∃ task callId call, s.tasks taskId = some task ∧ task.ambient = some callId ∧
    s.calls callId = some call ∧ call.event ≠ .set ∧ (∃ cancelled, call.job = .ended cancelled) ∧
    taskId ∉ call.collected

/-- Such a submission of the call's, or what that has started. -/
def Strays (s : State) (id : Nat) (node : Node) : Prop :=
  ∃ taskId, LeftBehind s taskId ∧ Under s (.call id) (.task taskId) ∧
    Under s (.task taskId) node

/-- A function that has ended or is not going to start, or a coroutine that has ended and
whose future is resolved. -/
def Over (s : State) : Node → Prop
  | .call id => ∀ call, s.calls id = some call →
      (∃ cancelled, call.job = .ended cancelled) ∨
        call.job = .queued ∧ s.revoked id call = true
  | .task id => ∀ task, s.tasks id = some task → task.coroutine = .ended ∧ task.stage = .resolved

/-- What a call has started and waited for to the end: neither the wait for a future nor
that for a job was given up. -/
inductive Awaited (s : State) (id : Nat) : Node → Prop
  | self : Awaited s id (.call id)
  | task {callId taskId : Nat} {call : Call} {task : Task} (above : Awaited s id (.call callId))
      (found : s.calls callId = some call) (foundTask : s.tasks taskId = some task)
      (collected : taskId ∈ call.collected) (inTime : task.graceOver = false) :
      Awaited s id (.task taskId)
  | call {taskId callId : Nat} {task : Task} {call : Call} (above : Awaited s id (.task taskId))
      (foundTask : s.tasks taskId = some task) (found : s.calls callId = some call)
      (called : call.caller = taskId) (kept : callId ∉ task.abandoned) :
      Awaited s id (.call callId)

/-- Where a cancellation comes from: `cancel()` of a task or a future, a deadline, a
function's own end with a CancelledError, or any of these in what the call is part of. -/
inductive Origin (s : State) : Node → Prop
  | cancelledTask {id : Nat} {task : Task} (found : s.tasks id = some task)
      (plain : task.stage = .plain) (asked : task.asked = true) : Origin s (.task id)
  | cancelledFuture {id : Nat} {task : Task} (found : s.tasks id = some task)
      (own : task.own ≠ .unset) : Origin s (.task id)
  | deadline {id : Nat} {task : Task} (found : s.tasks id = some task)
      (timedOut : task.timedOut = true) : Origin s (.task id)
  | ambient {id callId : Nat} {task : Task} (found : s.tasks id = some task)
      (submitted : task.ambient = some callId) (above : Origin s (.call callId)) :
      Origin s (.task id)
  | itself {id : Nat} {call : Call} (found : s.calls id = some call)
      (ended : call.job = .ended true) : Origin s (.call id)
  | caller {id : Nat} {call : Call} (found : s.calls id = some call)
      (above : Origin s (.task call.caller)) : Origin s (.call id)

/-- The rank of an event, a job and a coroutine: how many steps are left before them. -/
def Event.rank : Event → Nat
  | .unset => 2
  | .queued => 1
  | .set => 0

def Job.rank : Job → Nat
  | .queued => 3
  | .waiting _ => 2
  | .running => 1
  | .ended _ => 0

def Coroutine.rank : Coroutine → Nat
  | .awaits _ .shielded => 4
  | .awaits _ .thrown => 3
  | .awaits _ .handling => 2
  | .running => 1
  | .ended => 0

def Stage.rank : Stage → Nat
  | .racing => 2
  | .tidying => 1
  | _ => 0

def Call.rank (call : Call) : Nat := call.event.rank + call.job.rank

def Task.rank (task : Task) : Nat := task.own.rank + task.coroutine.rank + task.stage.rank

def State.rank (s : State) : Nat :=
  total Call.rank (Finset.range s.made) s.calls + total Task.rank (Finset.range s.made) s.tasks

end Koil.CancelCascades
