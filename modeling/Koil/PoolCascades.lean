import Koil.Runs
import Mathlib.Algebra.BigOperators.Group.Finset.Basic
import Mathlib.Algebra.Order.BigOperators.Group.Finset
import Mathlib.Data.Fintype.Basic

/-! Cascades on a loop's default thread pool: `run_threaded` workers that call `unkoil`
on coroutines that await `run_threaded` again.

A job keeps its thread until its function returns, also while it blocks in `unkoil`.
Queued jobs start in the order of their submission, each on a thread that is idle. -/

namespace Koil.PoolCascades

open Runs

mutual

/-- The coroutines that a worker's function runs through `unkoil`, one after the other.
A function that raises makes no further calls. -/
inductive SyncFunc where
  | returns
  | unkoil (coro : Coro) (rest : SyncFunc)

/-- What a coroutine awaits, one after the other: a function through `run_threaded`, or two
coroutines at once, which both end before it goes on. -/
inductive Coro where
  | returns
  | runThreaded (func : SyncFunc) (rest : Coro)
  | gather (first second rest : Coro)

end

mutual

/-- How many jobs are nested in one another at the deepest point, the function's own one
among them. -/
def SyncFunc.depth : SyncFunc → Nat
  | .returns => 1
  | .unkoil coro rest => max (coro.depth + 1) rest.depth

def Coro.depth : Coro → Nat
  | .returns => 0
  | .runThreaded func rest => max func.depth rest.depth
  | .gather first second rest => max (max first.depth second.depth) rest.depth

end

mutual

/-- How many threads can be blocked at once by what the function calls, its own one among them:
what goes on at the same time adds up. -/
def SyncFunc.holds : SyncFunc → Nat
  | .returns => 0
  | .unkoil coro rest => max (if coro.depth = 0 then 0 else coro.holds + 1) rest.holds

def Coro.holds : Coro → Nat
  | .returns => 0
  | .runThreaded func rest => max func.holds rest.holds
  | .gather first second rest => max (first.holds + second.holds) rest.holds

end

/-- What runs or waits in a cascade: a job of `run_in_executor` that has not started, a function
on its thread, one that is blocked in `unkoil`, a coroutine on the loop, and one that awaits a
job, or two coroutines. -/
inductive Node where
  | queued (func : SyncFunc)
  | worker (thread : Nat) (func : SyncFunc)
  | unkoil (thread : Nat) (inner : Node) (rest : SyncFunc)
  | coroutine (coro : Coro)
  | awaiting (job : Node) (rest : Coro)
  | gathering (first second : Node) (rest : Coro)

inductive Turn
  | inner
  | first
  | second
  deriving DecidableEq

abbrev Path := List Turn

def Node.get : Node → Path → Option Node
  | node, [] => some node
  | .unkoil _ inner _, .inner :: path => inner.get path
  | .awaiting job _, .inner :: path => job.get path
  | .gathering first _ _, .first :: path => first.get path
  | .gathering _ second _, .second :: path => second.get path
  | _, _ => none

def Node.put : Node → Path → Node → Node
  | _, [], new => new
  | .unkoil thread inner rest, .inner :: path, new => .unkoil thread (inner.put path new) rest
  | .awaiting job rest, .inner :: path, new => .awaiting (job.put path new) rest
  | .gathering first second rest, .first :: path, new =>
      .gathering (first.put path new) second rest
  | .gathering first second rest, .second :: path, new =>
      .gathering first (second.put path new) rest
  | node, _, _ => node

@[simp] theorem Node.put_nil (node new : Node) : node.put [] new = new := by
  cases node <;> rfl

inductive Effect
  | silent
  | submits
  | frees (thread : Nat)

def Node.advance : Node → Option (Node × Effect)
  | .coroutine (.runThreaded func rest) => some (.awaiting (.queued func) rest, .submits)
  | .coroutine (.gather first second rest) =>
      some (.gathering (.coroutine first) (.coroutine second) rest, .silent)
  | .worker thread (.unkoil coro rest) => some (.unkoil thread (.coroutine coro) rest, .silent)
  | .unkoil thread (.coroutine .returns) rest => some (.worker thread rest, .silent)
  | .awaiting (.worker thread .returns) rest => some (.coroutine rest, .frees thread)
  | .gathering (.coroutine .returns) (.coroutine .returns) rest => some (.coroutine rest, .silent)
  | _ => none

/-- Each cascade, the executor's queue, which names the place of each job, and the threads
without a job. -/
structure State (ι : Type) where
  trees : ι → Node
  queue : List (ι × Path)
  idle : List Nat

inductive Label (ι : Type) where
  /-- What runs at a place of a cascade makes its next call or returns. -/
  | advance (cascade : ι) (path : Path)
  /-- An idle thread takes the first job of the queue. -/
  | take (thread : Nat)

section transitions

variable {ι : Type} [DecidableEq ι]

def State.put (s : State ι) (cascade : ι) (path : Path) (node : Node) : State ι :=
  { s with trees := Function.update s.trees cascade ((s.trees cascade).put path node) }

def State.advance (s : State ι) (cascade : ι) (path : Path) : Option (State ι) :=
  match (s.trees cascade).get path with
  | none => none
  | some node =>
      match node.advance with
      | none => none
      | some (after, .silent) => some (s.put cascade path after)
      | some (after, .submits) =>
          some { s.put cascade path after with queue := s.queue ++ [(cascade, path ++ [.inner])] }
      | some (after, .frees thread) =>
          some { s.put cascade path after with idle := thread :: s.idle }

def State.take (s : State ι) (thread : Nat) : Option (State ι) :=
  match s.queue with
  | [] => none
  | (cascade, path) :: queue =>
      match (s.trees cascade).get path with
      | some (.queued func) =>
          some { s.put cascade path (.worker thread func) with
            queue := queue
            idle := s.idle.erase thread }
      | _ => none

def step (s : State ι) : Label ι → Option (State ι)
  | .advance cascade path => s.advance cascade path
  | .take thread => if thread ∈ s.idle then s.take thread else none

end transitions

/-- A pool of `n` threads without a job, and the cascades as tasks of the loop. -/
def start {ι : Type} (n : Nat) (cascades : ι → Coro) : State ι :=
  ⟨fun cascade => .coroutine (cascades cascade), [], List.range n⟩

def Node.above : Node → Path → List Nat
  | .unkoil thread inner _, .inner :: path => thread :: inner.above path
  | .awaiting job _, .inner :: path => job.above path
  | .gathering first _ _, .first :: path => first.above path
  | .gathering _ second _, .second :: path => second.above path
  | _, _ => []

/-- The thread is blocked in `unkoil`, and what it waits for waits, over any number of
calls, for a job that is still queued. -/
def State.Blocked {ι : Type} (s : State ι) (thread : Nat) : Prop :=
  ∃ cascade path func, (cascade, path) ∈ s.queue ∧
    (s.trees cascade).get path = some (.queued func) ∧ thread ∈ (s.trees cascade).above path

def State.Deadlocked {ι : Type} (s : State ι) (n : Nat) : Prop :=
  ∀ thread < n, s.Blocked thread

def Node.threads : Node → List Nat
  | .queued _ | .coroutine _ => []
  | .worker thread _ => [thread]
  | .unkoil thread inner _ => thread :: inner.threads
  | .awaiting job _ => job.threads
  | .gathering first second _ => first.threads ++ second.threads

mutual

theorem SyncFunc.depth_pos : (func : SyncFunc) → 0 < func.depth
  | .returns => Nat.one_pos
  | .unkoil _ rest => lt_max_of_lt_right rest.depth_pos

theorem SyncFunc.depth_le : (func : SyncFunc) → func.depth ≤ func.holds + 1
  | .returns => Nat.le_refl 1
  | .unkoil coro rest => by
      have inner := coro.depth_le
      have later := rest.depth_le
      rw [SyncFunc.depth, SyncFunc.holds]
      split <;> omega

theorem Coro.depth_le : (coro : Coro) → coro.depth ≤ coro.holds + 1
  | .returns => Nat.zero_le _
  | .runThreaded func rest => by
      have inner := func.depth_le
      have later := rest.depth_le
      rw [Coro.depth, Coro.holds]
      omega
  | .gather first second rest => by
      have inner := first.depth_le
      have inner' := second.depth_le
      have later := rest.depth_le
      rw [Coro.depth, Coro.holds]
      omega

theorem SyncFunc.holds_lt : (func : SyncFunc) → 0 < func.holds → 1 < func.depth
  | .returns, held => absurd held (Nat.lt_irrefl 0)
  | .unkoil coro rest, held => by
      have later := rest.holds_lt
      rw [SyncFunc.holds] at held
      rw [SyncFunc.depth]
      split at held <;> omega

theorem Coro.holds_lt : (coro : Coro) → 0 < coro.holds → 0 < coro.depth
  | .returns, held => held
  | .runThreaded func rest, _ => lt_max_of_lt_left func.depth_pos
  | .gather first second rest, held => by
      have inner := first.holds_lt
      have inner' := second.holds_lt
      have later := rest.holds_lt
      rw [Coro.holds] at held
      rw [Coro.depth]
      omega

end

section bound

def Node.calls : Node → Bool
  | .queued _ => true
  | .worker _ func => 1 < func.depth
  | .unkoil _ inner rest => inner.calls || 1 < rest.depth
  | .coroutine coro => 0 < coro.depth
  | .awaiting job rest => job.calls || 0 < rest.depth
  | .gathering first second rest => first.calls || second.calls || 0 < rest.depth

/-- How many threads can be blocked here at once, now or later. -/
def Node.holds : Node → Nat
  | .queued func | .worker _ func => func.holds
  | .unkoil _ inner rest => max (if inner.calls then inner.holds + 1 else 0) rest.holds
  | .coroutine coro => coro.holds
  | .awaiting job rest => max job.holds rest.holds
  | .gathering first second rest => max (first.holds + second.holds) rest.holds

def Node.waits : Node → Bool
  | .queued _ => true
  | .worker _ _ | .coroutine _ => false
  | .unkoil _ inner _ => inner.waits
  | .awaiting job _ => job.waits
  | .gathering first second _ => first.waits || second.waits

def Node.blocked : Node → List Nat
  | .queued _ | .worker _ _ | .coroutine _ => []
  | .unkoil thread inner _ => if inner.waits then thread :: inner.blocked else []
  | .awaiting job _ => job.blocked
  | .gathering first second _ => first.blocked ++ second.blocked

theorem Node.calls_of_waits {node : Node} (waits : node.waits = true) : node.calls = true := by
  induction node with
  | queued func => rfl
  | worker thread func => cases waits
  | coroutine coro => cases waits
  | unkoil thread inner rest ih => simp [calls, ih waits]
  | awaiting job rest ih => simp [calls, ih waits]
  | gathering first second rest ih ih' =>
      rw [Node.waits, Bool.or_eq_true] at waits
      rcases waits with here | here
      · simp [calls, ih here]
      · simp [calls, ih' here]

theorem Node.blocked_le (node : Node) : node.blocked.length ≤ node.holds := by
  induction node with
  | queued func => exact Nat.zero_le _
  | worker thread func => exact Nat.zero_le _
  | coroutine coro => exact Nat.zero_le _
  | unkoil thread inner rest ih =>
      cases waits : inner.waits with
      | false => simp [blocked, waits]
      | true =>
          have calls := inner.calls_of_waits waits
          simp only [blocked, waits, if_true, List.length_cons, holds, calls]
          omega
  | awaiting job rest ih => exact le_max_of_le_left ih
  | gathering first second rest ih ih' =>
      rw [blocked, List.length_append, holds]
      omega

theorem Node.waits_of_get {node : Node} {path : Path} {func : SyncFunc}
    (found : node.get path = some (.queued func)) : node.waits = true := by
  fun_induction Node.get node path with
  | case1 node =>
      obtain rfl := Option.some.inj found
      rfl
  | case2 thread inner rest path ih => exact ih found
  | case3 job rest path ih => exact ih found
  | case4 first second rest path ih => simp [Node.waits, ih found]
  | case5 first second rest path ih => simp [Node.waits, ih found]
  | case6 => cases found

theorem Node.mem_blocked {node : Node} {path : Path} {func : SyncFunc} {thread : Nat}
    (found : node.get path = some (.queued func)) (above : thread ∈ node.above path) :
    thread ∈ node.blocked := by
  fun_induction Node.get node path with
  | case1 node =>
      obtain rfl := Option.some.inj found
      cases above
  | case2 other inner rest path ih =>
      rw [Node.blocked, if_pos (Node.waits_of_get found), List.mem_cons]
      exact (List.mem_cons.mp above).imp_right (ih found)
  | case3 job rest path ih => exact ih found above
  | case4 first second rest path ih => exact List.mem_append_left _ (ih found above)
  | case5 first second rest path ih => exact List.mem_append_right _ (ih found above)
  | case6 => cases found

structure Node.Shrinks (after before : Node) : Prop where
  calls : after.calls = true → before.calls = true
  holds : after.holds ≤ before.holds

theorem Node.advance_shrinks {node after : Node} {effect : Effect}
    (taken : node.advance = some (after, effect)) : after.Shrinks node := by
  unfold Node.advance at taken
  split at taken
  · cases taken
    exact ⟨fun _ => by simp [Node.calls, Coro.depth, SyncFunc.depth_pos], le_rfl⟩
  · cases taken
    refine ⟨fun calls => ?_, le_rfl⟩
    simpa [Node.calls, Coro.depth, or_assoc] using calls
  · next thread coro rest =>
      cases taken
      refine ⟨fun calls => by simpa [Node.calls, SyncFunc.depth] using calls, ?_⟩
      have called : (Node.coroutine coro).calls = !decide (coro.depth = 0) := by
        simp [Node.calls, Nat.pos_iff_ne_zero]
      simp only [Node.holds, SyncFunc.holds, called]
      by_cases silent : coro.depth = 0 <;> simp [silent]
  · cases taken
    exact ⟨fun calls => Bool.or_eq_true_iff.mpr (.inr calls), le_max_right ..⟩
  · cases taken
    exact ⟨fun calls => Bool.or_eq_true_iff.mpr (.inr calls), le_max_right ..⟩
  · cases taken
    exact ⟨fun calls => Bool.or_eq_true_iff.mpr (.inr calls), le_max_right ..⟩
  · cases taken

theorem Node.put_shrinks {node old new : Node} {path : Path} (found : node.get path = some old)
    (shrinks : new.Shrinks old) : (node.put path new).Shrinks node := by
  fun_induction Node.get node path with
  | case1 node =>
      obtain rfl := Option.some.inj found
      rw [Node.put_nil]
      exact shrinks
  | case2 thread inner rest path ih =>
      obtain ⟨calls, holds⟩ := ih found
      rw [Node.put]
      constructor
      · simp only [Node.calls, Bool.or_eq_true]
        exact Or.imp_left calls
      · rw [Node.holds, Node.holds]
        cases now : (inner.put path new).calls with
        | false => simp
        | true => simp only [if_true, calls now]; omega
  | case3 job rest path ih =>
      obtain ⟨calls, holds⟩ := ih found
      rw [Node.put]
      refine ⟨?_, max_le_max_right _ holds⟩
      simp only [Node.calls, Bool.or_eq_true]
      exact Or.imp_left calls
  | case4 first second rest path ih =>
      obtain ⟨calls, holds⟩ := ih found
      rw [Node.put]
      refine ⟨?_, max_le_max_right _ (Nat.add_le_add_right holds _)⟩
      simp only [Node.calls, Bool.or_eq_true]
      exact Or.imp_left (Or.imp_left calls)
  | case5 first second rest path ih =>
      obtain ⟨calls, holds⟩ := ih found
      rw [Node.put]
      refine ⟨?_, max_le_max_right _ (Nat.add_le_add_left holds _)⟩
      simp only [Node.calls, Bool.or_eq_true]
      exact Or.imp_left (Or.imp_right calls)
  | case6 => cases found

theorem Node.put_threads {node old new : Node} {path : Path} (found : node.get path = some old)
    (thread : Nat) :
    (thread ∈ node.threads → thread ∈ old.threads ∨ thread ∈ (node.put path new).threads) ∧
      (thread ∈ new.threads → thread ∈ (node.put path new).threads) := by
  fun_induction Node.get node path with
  | case1 node =>
      obtain rfl := Option.some.inj found
      rw [Node.put_nil]
      exact ⟨.inl, id⟩
  | case2 other inner rest path ih =>
      obtain ⟨kept, added⟩ := ih found
      simp only [Node.put, Node.threads, List.mem_cons]
      tauto
  | case3 job rest path ih => exact ih found
  | case4 first second rest path ih =>
      obtain ⟨kept, added⟩ := ih found
      simp only [Node.put, Node.threads, List.mem_append]
      tauto
  | case5 first second rest path ih =>
      obtain ⟨kept, added⟩ := ih found
      simp only [Node.put, Node.threads, List.mem_append]
      tauto
  | case6 => cases found

variable {ι : Type} {s s' : State ι}

/-- No thread is lost, and no cascade can block more threads than at its start. -/
structure Inv (n : Nat) (cascades : ι → Coro) (s : State ι) : Prop where
  holds : ∀ cascade, (s.trees cascade).holds ≤ (cascades cascade).holds
  kept : ∀ thread < n, thread ∈ s.idle ∨ ∃ cascade, thread ∈ (s.trees cascade).threads

theorem inv_start (n : Nat) (cascades : ι → Coro) : Inv n cascades (start n cascades) :=
  ⟨fun _ => le_rfl, fun _ bound => .inl (List.mem_range.mpr bound)⟩

theorem Inv.deadlocked_le [Fintype ι] {n : Nat} {cascades : ι → Coro}
    (held : Inv n cascades s) (deadlocked : s.Deadlocked n) :
    n ≤ ∑ cascade, (cascades cascade).holds := by
  classical
  have covered : Finset.range n ⊆
      Finset.univ.biUnion fun cascade => (s.trees cascade).blocked.toFinset := by
    intro thread bound
    obtain ⟨cascade, path, func, _, found, above⟩ := deadlocked thread (Finset.mem_range.mp bound)
    have waits := Node.mem_blocked found above
    exact Finset.mem_biUnion.mpr ⟨cascade, Finset.mem_univ cascade, List.mem_toFinset.mpr waits⟩
  calc n = (Finset.range n).card := (Finset.card_range n).symm
    _ ≤ _ := Finset.card_le_card covered
    _ ≤ ∑ cascade, (s.trees cascade).blocked.toFinset.card := Finset.card_biUnion_le
    _ ≤ ∑ cascade, (cascades cascade).holds :=
      Finset.sum_le_sum fun cascade _ =>
        (List.toFinset_card_le _).trans ((s.trees cascade).blocked_le.trans (held.holds cascade))

variable [DecidableEq ι]

theorem Node.advance_threads {node after : Node} {effect : Effect}
    (taken : node.advance = some (after, effect)) (thread : Nat) (busy : thread ∈ node.threads) :
    effect = .frees thread ∨ thread ∈ after.threads := by
  unfold Node.advance at taken
  split at taken
  · cases busy
  · cases busy
  · cases taken
    exact .inr busy
  · cases taken
    exact .inr (by simpa [Node.threads] using busy)
  · cases taken
    exact .inl (by rw [List.mem_singleton.mp busy])
  · cases busy
  · cases taken

/-- A step puts a new part in a place of one cascade, which can block no more threads than the
one before, and loses no thread. -/
structure Moved (s s' : State ι) (cascade : ι) (path : Path) (old new : Node) : Prop where
  found : (s.trees cascade).get path = some old
  trees : s'.trees = Function.update s.trees cascade ((s.trees cascade).put path new)
  shrinks : new.Shrinks old
  kept : ∀ thread, thread ∈ s.idle ∨ thread ∈ old.threads → thread ∈ s'.idle ∨ thread ∈ new.threads

theorem advance_moved {cascade : ι} {path : Path} (taken : s.advance cascade path = some s') :
    ∃ old new, Moved s s' cascade path old new := by
  unfold State.advance at taken
  cases found : (s.trees cascade).get path with
  | none => simp [found] at taken
  | some old =>
      simp only [found] at taken
      cases advanced : old.advance with
      | none => simp [advanced] at taken
      | some result =>
          obtain ⟨new, effect⟩ := result
          have shrinks := Node.advance_shrinks advanced
          have threads := Node.advance_threads advanced
          simp only [advanced] at taken
          cases effect with
          | silent =>
              cases taken
              exact ⟨old, new, found, rfl, shrinks, fun thread before =>
                before.imp id fun busy => (threads thread busy).resolve_left nofun⟩
          | submits =>
              cases taken
              exact ⟨old, new, found, rfl, shrinks, fun thread before =>
                before.imp id fun busy => (threads thread busy).resolve_left nofun⟩
          | frees freed =>
              cases taken
              refine ⟨old, new, found, rfl, shrinks, fun thread before => ?_⟩
              rcases before with idle | busy
              · exact .inl (List.mem_cons_of_mem _ idle)
              · refine (threads thread busy).imp_left fun same => ?_
                obtain rfl := Effect.frees.inj same
                exact List.mem_cons_self

theorem take_moved {thread : Nat} (taken : s.take thread = some s') :
    ∃ cascade path old new, Moved s s' cascade path old new := by
  unfold State.take at taken
  cases queued : s.queue with
  | nil => simp [queued] at taken
  | cons job queue =>
      obtain ⟨cascade, path⟩ := job
      simp only [queued] at taken
      split at taken
      · next func found =>
          cases taken
          refine ⟨cascade, path, .queued func, .worker thread func, found, rfl,
            ⟨fun _ => rfl, le_rfl⟩, fun other before => ?_⟩
          have idle := before.resolve_right List.not_mem_nil
          by_cases same : other = thread
          · exact .inr (List.mem_singleton.mpr same)
          · exact .inl ((List.mem_erase_of_ne same).mpr idle)
      · cases taken

theorem step_moved {label : Label ι} (taken : step s label = some s') :
    ∃ cascade path old new, Moved s s' cascade path old new := by
  cases label with
  | advance cascade path =>
      obtain ⟨old, new, moved⟩ := advance_moved taken
      exact ⟨cascade, path, old, new, moved⟩
  | take thread =>
      obtain ⟨_, taken⟩ := Option.ite_none_right_eq_some.mp taken
      exact take_moved taken

theorem inv_step {n : Nat} {cascades : ι → Coro} {label : Label ι} (held : Inv n cascades s)
    (taken : step s label = some s') : Inv n cascades s' := by
  obtain ⟨moved, path, old, new, move⟩ := step_moved taken
  constructor
  · intro cascade
    rw [move.trees]
    by_cases same : cascade = moved
    · subst same
      rw [Function.update_self]
      exact (Node.put_shrinks move.found move.shrinks).holds.trans (held.holds cascade)
    · rw [Function.update_of_ne same]
      exact held.holds cascade
  · intro thread bound
    rw [move.trees]
    have threads := @Node.put_threads (s.trees moved) old new path move.found thread
    have moves : thread ∈ s.idle ∨ thread ∈ old.threads →
        thread ∈ s'.idle ∨ ∃ cascade, thread ∈
          (Function.update s.trees moved ((s.trees moved).put path new) cascade).threads := by
      intro before
      refine (move.kept thread before).imp_right fun busy => ⟨moved, ?_⟩
      rw [Function.update_self]
      exact threads.2 busy
    rcases held.kept thread bound with idle | ⟨cascade, busy⟩
    · exact moves (.inl idle)
    · by_cases same : cascade = moved
      · subst same
        rcases threads.1 busy with here | kept
        · exact moves (.inr here)
        · exact .inr ⟨cascade, by rwa [Function.update_self]⟩
      · exact .inr ⟨cascade, by rwa [Function.update_of_ne same]⟩

end bound

end Koil.PoolCascades
