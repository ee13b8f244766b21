import Koil.PoolCascades

namespace Koil.PoolCascades

open Runs

/-- What is around a place: the calls that wait for it, and what goes on beside it. -/
inductive Caller where
  | unkoil (thread : Nat) (rest : SyncFunc)
  | awaiting (rest : Coro)
  | left (beside : Node) (rest : Coro)
  | right (beside : Node) (rest : Coro)

def Caller.plug : Caller → Node → Node
  | .unkoil thread rest, inner => .unkoil thread inner rest
  | .awaiting rest, job => .awaiting job rest
  | .left beside rest, node => .gathering node beside rest
  | .right beside rest, node => .gathering beside node rest

def Caller.turn : Caller → Turn
  | .unkoil _ _ | .awaiting _ => .inner
  | .left _ _ => .first
  | .right _ _ => .second

/-- The cascade around a place, the innermost caller first, and the way to it. -/
def plug : List Caller → Node → Node
  | [], node => node
  | caller :: callers, node => plug callers (caller.plug node)

def pathOf : List Caller → Path
  | [] => []
  | caller :: callers => pathOf callers ++ [caller.turn]

theorem get_plug (callers : List Caller) (node : Node) (path : Path) :
    (plug callers node).get (pathOf callers ++ path) = node.get path := by
  induction callers generalizing node path with
  | nil => rfl
  | cons caller callers ih =>
      rw [plug, pathOf, List.append_assoc, ih]
      cases caller <;> rfl

theorem put_plug (callers : List Caller) (node new : Node) (path : Path) :
    (plug callers node).put (pathOf callers ++ path) new = plug callers (node.put path new) := by
  induction callers generalizing node path with
  | nil => rfl
  | cons caller callers ih =>
      rw [plug, pathOf, List.append_assoc, ih]
      cases caller <;> rfl

@[simp] theorem Node.get_nil (node : Node) : node.get [] = some node := by
  cases node <;> rfl

def Node.poised : Node → List Path
  | .coroutine (.runThreaded _ _) => [[]]
  | .coroutine _ | .queued _ | .worker _ _ => []
  | .unkoil _ inner _ | .awaiting inner _ => inner.poised.map (.inner :: ·)
  | .gathering first second _ =>
      first.poised.map (.first :: ·) ++ second.poised.map (.second :: ·)

/-- Every thread is blocked above a coroutine that is about to await `run_threaded`. -/
def Node.Ready (node : Node) : Prop :=
  ∀ thread ∈ node.threads, ∃ path ∈ node.poised, thread ∈ node.above path

theorem ready_unkoil {inner : Node} (ready : inner.Ready) (poised : inner.poised ≠ [])
    (thread : Nat) (rest : SyncFunc) :
    (Node.unkoil thread inner rest).Ready ∧ (Node.unkoil thread inner rest).poised ≠ [] := by
  refine ⟨fun other busy => ?_, by simpa [Node.poised] using poised⟩
  rcases List.mem_cons.mp busy with rfl | below
  · obtain ⟨path, member⟩ := List.exists_mem_of_ne_nil _ poised
    exact ⟨.inner :: path, List.mem_map_of_mem member, List.mem_cons_self⟩
  · obtain ⟨path, member, above⟩ := ready other below
    exact ⟨.inner :: path, List.mem_map_of_mem member, List.mem_cons_of_mem _ above⟩

theorem ready_awaiting {job : Node} (ready : job.Ready) (poised : job.poised ≠ []) (rest : Coro) :
    (Node.awaiting job rest).Ready ∧ (Node.awaiting job rest).poised ≠ [] := by
  refine ⟨fun other busy => ?_, by simpa [Node.poised] using poised⟩
  obtain ⟨path, member, above⟩ := ready other busy
  exact ⟨.inner :: path, List.mem_map_of_mem member, above⟩

theorem ready_gathering {first second : Node} (ready : first.Ready) (ready' : second.Ready)
    (poised : first.poised ≠ [] ∨ second.poised ≠ []) (rest : Coro) :
    (Node.gathering first second rest).Ready ∧
      (Node.gathering first second rest).poised ≠ [] := by
  refine ⟨fun other busy => ?_, ?_⟩
  · rcases List.mem_append.mp busy with below | below
    · obtain ⟨path, member, above⟩ := ready other below
      exact ⟨.first :: path, List.mem_append_left _ (List.mem_map_of_mem member), above⟩
    · obtain ⟨path, member, above⟩ := ready' other below
      exact ⟨.second :: path, List.mem_append_right _ (List.mem_map_of_mem member), above⟩
  · simpa [Node.poised, or_iff_not_imp_left] using poised

theorem ready_coroutine (coro : Coro) : (Node.coroutine coro).Ready :=
  fun _ busy => absurd busy List.not_mem_nil

section leads

variable {ι : Type} [DecidableEq ι] (trees : ι → Node) (cascade : ι)

def stateWith (tree : Node) (queue : List (ι × Path)) (idle : List Nat) : State ι :=
  ⟨Function.update trees cascade tree, queue, idle⟩

variable (callers : List Caller) {node after : Node}

theorem put_stateWith (new : Node) (queue : List (ι × Path)) (idle : List Nat) :
    (stateWith trees cascade (plug callers node) queue idle).put cascade (pathOf callers) new =
      stateWith trees cascade (plug callers new) queue idle := by
  have same := put_plug callers node new []
  rw [List.append_nil, Node.put_nil] at same
  simp [stateWith, State.put, same]

theorem get_stateWith (queue : List (ι × Path)) (idle : List Nat) :
    ((stateWith trees cascade (plug callers node) queue idle).trees cascade).get
      (pathOf callers) = some node := by
  have same := get_plug callers node []
  rw [List.append_nil, Node.get_nil] at same
  simpa [stateWith] using same

theorem leads_silent (taken : node.advance = some (after, .silent)) (queue : List (ι × Path))
    (idle : List Nat) :
    Leads step (stateWith trees cascade (plug callers node) queue idle)
      (stateWith trees cascade (plug callers after) queue idle) := by
  refine .of_step (.advance cascade (pathOf callers)) ?_
  simp only [step, State.advance, get_stateWith, taken, put_stateWith]

theorem leads_submit (func : SyncFunc) (rest : Coro) (queue : List (ι × Path))
    (idle : List Nat) :
    Leads step
      (stateWith trees cascade (plug callers (.coroutine (.runThreaded func rest))) queue idle)
      (stateWith trees cascade (plug callers (.awaiting (.queued func) rest))
        (queue ++ [(cascade, pathOf callers ++ [.inner])]) idle) := by
  refine .of_step (.advance cascade (pathOf callers)) ?_
  simp only [step, State.advance, get_stateWith, Node.advance, put_stateWith]
  rfl

theorem leads_take (func : SyncFunc) (thread : Nat) (idle : List Nat) :
    Leads step
      (stateWith trees cascade (plug callers (.queued func)) [(cascade, pathOf callers)]
        (thread :: idle))
      (stateWith trees cascade (plug callers (.worker thread func)) [] idle) := by
  refine .of_step (.take thread) ?_
  have found := get_plug callers (.queued func) []
  have put := put_plug callers (.queued func) (.worker thread func) []
  rw [List.append_nil] at found put
  simp [step, State.take, stateWith, State.put, found, put]

theorem leads_return (thread : Nat) (rest : Coro) (queue : List (ι × Path)) (idle : List Nat) :
    Leads step
      (stateWith trees cascade (plug callers (.awaiting (.worker thread .returns) rest)) queue idle)
      (stateWith trees cascade (plug callers (.coroutine rest)) queue (thread :: idle)) := by
  refine .of_step (.advance cascade (pathOf callers)) ?_
  simp only [step, State.advance, get_stateWith, Node.advance, put_stateWith]
  rfl

theorem leads_runThreaded (func : SyncFunc) (rest : Coro) (thread : Nat) (idle : List Nat) :
    Leads step
      (stateWith trees cascade (plug callers (.coroutine (.runThreaded func rest))) []
        (thread :: idle))
      (stateWith trees cascade (plug (.awaiting rest :: callers) (.worker thread func)) []
        idle) :=
  (leads_submit trees cascade callers func rest [] _).trans
    (leads_take trees cascade (.awaiting rest :: callers) func thread idle)

mutual

theorem SyncFunc.completes : (func : SyncFunc) → (callers : List Caller) → (thread : Nat) →
    (idle : List Nat) → func.depth ≤ idle.length + 1 → ∃ idle',
      Leads step (stateWith trees cascade (plug callers (.worker thread func)) [] idle)
        (stateWith trees cascade (plug callers (.worker thread .returns)) [] idle') ∧
      idle'.length = idle.length
  | .returns, _, _, idle, _ => ⟨idle, .refl _, rfl⟩
  | .unkoil coro rest, callers, thread, idle, enough => by
      obtain ⟨enoughCoro, enoughRest⟩ := max_le_iff.mp enough
      have called := leads_silent trees cascade callers
        (rfl : (Node.worker thread (.unkoil coro rest)).advance = some (_, .silent)) [] idle
      obtain ⟨idle₁, ended, same⟩ := coro.completes (.unkoil thread rest :: callers) idle
        (Nat.le_of_succ_le_succ enoughCoro)
      have returned := leads_silent trees cascade callers
        (rfl : (Node.unkoil thread (.coroutine .returns) rest).advance = some (_, .silent)) [] idle₁
      obtain ⟨idle₂, finished, same'⟩ := rest.completes callers thread idle₁ (by omega)
      exact ⟨idle₂, called.trans (ended.trans (returned.trans finished)), same'.trans same⟩

theorem Coro.completes : (coro : Coro) → (callers : List Caller) → (idle : List Nat) →
    coro.depth ≤ idle.length → ∃ idle',
      Leads step (stateWith trees cascade (plug callers (.coroutine coro)) [] idle)
        (stateWith trees cascade (plug callers (.coroutine .returns)) [] idle') ∧
      idle'.length = idle.length
  | .returns, _, idle, _ => ⟨idle, .refl _, rfl⟩
  | .runThreaded func rest, callers, idle, enough => by
      obtain ⟨enoughFunc, enoughRest⟩ := max_le_iff.mp enough
      have positive := func.depth_pos
      obtain _ | ⟨thread, idle₀⟩ := idle
      · exact absurd (positive.trans_le enoughFunc) (Nat.lt_irrefl 0)
      have started := leads_runThreaded trees cascade callers func rest thread idle₀
      obtain ⟨idle₁, ended, same⟩ :=
        func.completes (.awaiting rest :: callers) thread idle₀ enoughFunc
      have returned := leads_return trees cascade callers thread rest [] idle₁
      have freed : (thread :: idle₁).length = (thread :: idle₀).length := congrArg (· + 1) same
      obtain ⟨idle₂, finished, same'⟩ := rest.completes callers (thread :: idle₁) (by omega)
      exact ⟨idle₂, started.trans (ended.trans (returned.trans finished)), same'.trans freed⟩
  | .gather first second rest, callers, idle, enough => by
      obtain ⟨enoughBoth, enoughRest⟩ := max_le_iff.mp enough
      obtain ⟨enoughFirst, enoughSecond⟩ := max_le_iff.mp enoughBoth
      have forked := leads_silent trees cascade callers
        (rfl : (Node.coroutine (.gather first second rest)).advance = some (_, .silent)) [] idle
      obtain ⟨idle₁, ended, same⟩ :=
        first.completes (.left (.coroutine second) rest :: callers) idle enoughFirst
      obtain ⟨idle₂, ended', same'⟩ :=
        second.completes (.right (.coroutine .returns) rest :: callers) idle₁ (by omega)
      have joined := leads_silent trees cascade callers
        (rfl : (Node.gathering (.coroutine .returns) (.coroutine .returns) rest).advance =
          some (_, .silent)) [] idle₂
      obtain ⟨idle₃, finished, same''⟩ := rest.completes callers idle₂ (by omega)
      exact ⟨idle₃, forked.trans (ended.trans (ended'.trans (joined.trans finished))),
        same''.trans (same'.trans same)⟩

end

/-- From here the cascade can go down until it has blocked so many more threads, and is about to
submit the jobs that they wait for. -/
def Descends (callers : List Caller) (node : Node) (idle : List Nat) (more : Nat) : Prop :=
  ∃ down idle', Leads step (stateWith trees cascade (plug callers node) [] idle)
      (stateWith trees cascade (plug callers down) [] idle') ∧
    down.Ready ∧ down.poised ≠ [] ∧ idle'.length + more = idle.length

variable {trees cascade} {callers}

theorem Descends.of_leads {idle idle' : List Nat} {more : Nat}
    (led : Leads step (stateWith trees cascade (plug callers node) [] idle)
      (stateWith trees cascade (plug callers after) [] idle'))
    (same : idle'.length = idle.length)
    (descends : Descends trees cascade callers after idle' more) :
    Descends trees cascade callers node idle more := by
  obtain ⟨down, idle'', led', ready, poised, left⟩ := descends
  exact ⟨down, idle'', led.trans led', ready, poised, left.trans same⟩

theorem descends_gathering {first second rest : Coro} {idle : List Nat} {more : Nat}
    (calls : first.depth ≠ 0 ∨ second.depth ≠ 0) (few : more ≤ first.holds + second.holds)
    (enough : more ≤ idle.length)
    (goesFirst : ∀ callers idle more, 0 < first.depth → more ≤ first.holds → more ≤ idle.length →
      Descends trees cascade callers (.coroutine first) idle more)
    (goesSecond : ∀ callers idle more, 0 < second.depth → more ≤ second.holds →
      more ≤ idle.length → Descends trees cascade callers (.coroutine second) idle more) :
    Descends trees cascade callers (.gathering (.coroutine first) (.coroutine second) rest) idle
      more := by
  have quiet := first.holds_lt
  have quiet' := second.holds_lt
  -- the first goes as far as it can
  obtain ⟨down, idle₁, led, ready, poised, left⟩ : ∃ down idle₁,
      Leads step (stateWith trees cascade
          (plug (.left (.coroutine second) rest :: callers) (.coroutine first)) [] idle)
        (stateWith trees cascade (plug (.left (.coroutine second) rest :: callers) down) [] idle₁) ∧
      down.Ready ∧ (first.depth ≠ 0 → down.poised ≠ []) ∧
      idle₁.length + min more first.holds = idle.length := by
    by_cases silent : first.depth = 0
    · exact ⟨_, idle, .refl _, ready_coroutine first, fun calls => absurd silent calls, by omega⟩
    · obtain ⟨down, idle₁, led, ready, poised, left⟩ :=
        goesFirst (.left (.coroutine second) rest :: callers) idle (min more first.holds)
          (by omega) (by omega) (by omega)
      exact ⟨down, idle₁, led, ready, fun _ => poised, left⟩
  obtain ⟨down', idle₂, led', ready', poised', left'⟩ : ∃ down' idle₂,
      Leads step (stateWith trees cascade
          (plug (.right down rest :: callers) (.coroutine second)) [] idle₁)
        (stateWith trees cascade (plug (.right down rest :: callers) down') [] idle₂) ∧
      down'.Ready ∧ (second.depth ≠ 0 → down'.poised ≠ []) ∧
      idle₂.length + (more - min more first.holds) = idle₁.length := by
    by_cases silent : second.depth = 0
    · exact ⟨_, idle₁, .refl _, ready_coroutine second, fun calls => absurd silent calls,
        by omega⟩
    · obtain ⟨down', idle₂, led', ready', poised', left'⟩ :=
        goesSecond (.right down rest :: callers) idle₁ (more - min more first.holds)
          (by omega) (by omega) (by omega)
      exact ⟨down', idle₂, led', ready', fun _ => poised', left'⟩
  obtain ⟨both, some_⟩ := ready_gathering ready ready' (calls.imp poised poised') rest
  exact ⟨_, idle₂, led.trans led', both, some_, by omega⟩

mutual

/-- A function goes down until its cascade has blocked as many more threads as asked, its own
one and others. What it calls before it can complete is completed. -/
theorem SyncFunc.descends : (func : SyncFunc) → (callers : List Caller) → (thread : Nat) →
    (idle : List Nat) → (more : Nat) → more + 1 ≤ func.holds → more ≤ idle.length →
    Descends trees cascade callers (.worker thread func) idle more
  | .returns, _, _, _, _, few, _ => absurd few (Nat.not_succ_le_zero _)
  | .unkoil coro rest, callers, thread, idle, more, few, enough => by
      have called := leads_silent trees cascade callers
        (rfl : (Node.worker thread (.unkoil coro rest)).advance = some (_, .silent)) [] idle
      have deep := coro.depth_le
      have quiet := coro.holds_lt
      rw [SyncFunc.holds] at few
      by_cases below : 0 < coro.depth ∧ more ≤ coro.holds
      · obtain ⟨down, idle', led, ready, poised, left⟩ :=
          coro.descends (.unkoil thread rest :: callers) idle more below.1 below.2 enough
        obtain ⟨ready, poised⟩ := ready_unkoil ready poised thread rest
        exact ⟨_, idle', called.trans led, ready, poised, left⟩
      · have fewRest : more + 1 ≤ rest.holds := by
          split at few <;> omega
        obtain ⟨idle₁, ended, same⟩ :=
          coro.completes trees cascade (.unkoil thread rest :: callers) idle (by omega)
        have returned := leads_silent trees cascade callers
          (rfl : (Node.unkoil thread (.coroutine .returns) rest).advance = some (_, .silent)) []
          idle₁
        exact .of_leads (called.trans (ended.trans returned)) same
          (rest.descends callers thread idle₁ more fewRest (by omega))

theorem Coro.descends : (coro : Coro) → (callers : List Caller) → (idle : List Nat) →
    (more : Nat) → 0 < coro.depth → more ≤ coro.holds → more ≤ idle.length →
    Descends trees cascade callers (.coroutine coro) idle more
  | .returns, _, _, _, calls, _, _ => absurd calls (Nat.lt_irrefl 0)
  | .runThreaded func rest, callers, idle, more, _, few, enough => by
      obtain _ | fewer := more
      · exact ⟨_, idle, .refl _, ready_coroutine _, List.cons_ne_nil _ _, rfl⟩
      obtain _ | ⟨thread, idle₀⟩ := idle
      · cases enough
      have started := leads_runThreaded trees cascade callers func rest thread idle₀
      have length : (thread :: idle₀).length = idle₀.length + 1 := rfl
      rw [Coro.holds] at few
      by_cases below : fewer + 1 ≤ func.holds
      · obtain ⟨down, idle', led, ready, poised, left⟩ :=
          func.descends (.awaiting rest :: callers) thread idle₀ fewer below (by omega)
        obtain ⟨ready, poised⟩ := ready_awaiting ready poised rest
        exact ⟨_, idle', started.trans led, ready, poised, by omega⟩
      · have deep := func.depth_le
        have fewRest : fewer + 1 ≤ rest.holds := by omega
        obtain ⟨idle₁, ended, same⟩ :=
          func.completes trees cascade (.awaiting rest :: callers) thread idle₀ (by omega)
        have returned := leads_return trees cascade callers thread rest [] idle₁
        exact .of_leads (started.trans (ended.trans returned)) (congrArg (· + 1) same)
          (rest.descends callers (thread :: idle₁) (fewer + 1)
            (rest.holds_lt (Nat.lt_of_lt_of_le (Nat.succ_pos _) fewRest)) fewRest
            (by rw [List.length_cons]; omega))
  | .gather first second rest, callers, idle, more, calls, few, enough => by
      have forked := leads_silent trees cascade callers
        (rfl : (Node.coroutine (.gather first second rest)).advance = some (_, .silent)) [] idle
      rw [Coro.holds] at few
      rw [Coro.depth] at calls
      by_cases below : (first.depth ≠ 0 ∨ second.depth ≠ 0) ∧ more ≤ first.holds + second.holds
      · exact .of_leads forked rfl (descends_gathering below.1 below.2 enough
          (fun callers idle more => first.descends callers idle more)
          fun callers idle more => second.descends callers idle more)
      · have deep := first.depth_le
        have deep' := second.depth_le
        have quiet := first.holds_lt
        have quiet' := second.holds_lt
        have later := rest.holds_lt
        obtain ⟨idle₁, ended, same⟩ :=
          first.completes trees cascade (.left (.coroutine second) rest :: callers) idle (by omega)
        obtain ⟨idle₂, ended', same'⟩ := second.completes trees cascade
          (.right (.coroutine .returns) rest :: callers) idle₁ (by omega)
        have joined := leads_silent trees cascade callers
          (rfl : (Node.gathering (.coroutine .returns) (.coroutine .returns) rest).advance =
            some (_, .silent)) [] idle₂
        exact .of_leads (forked.trans (ended.trans (ended'.trans joined))) (same'.trans same)
          (rest.descends callers idle₂ more (by omega) (by omega) (by omega))

end

end leads

section deadlock

def Node.submitAll : Node → Node
  | .coroutine (.runThreaded func rest) => .awaiting (.queued func) rest
  | .unkoil thread inner rest => .unkoil thread inner.submitAll rest
  | .awaiting job rest => .awaiting job.submitAll rest
  | .gathering first second rest => .gathering first.submitAll second.submitAll rest
  | node => node

theorem Node.submitAll_get {node : Node} {path : Path} (poised : path ∈ node.poised) :
    (∃ func, node.submitAll.get (path ++ [.inner]) = some (.queued func)) ∧
      node.submitAll.above (path ++ [.inner]) = node.above path := by
  induction node generalizing path with
  | queued func => cases poised
  | worker thread func => cases poised
  | coroutine coro =>
      cases coro with
      | returns => cases poised
      | gather first second rest => cases poised
      | runThreaded func rest =>
          obtain rfl := List.mem_singleton.mp poised
          exact ⟨⟨func, rfl⟩, rfl⟩
  | unkoil thread inner rest ih =>
      obtain ⟨path, member, rfl⟩ := List.mem_map.mp poised
      exact ⟨(ih member).1, congrArg (thread :: ·) (ih member).2⟩
  | awaiting job rest ih =>
      obtain ⟨path, member, rfl⟩ := List.mem_map.mp poised
      exact ih member
  | gathering first second rest ih ih' =>
      rcases List.mem_append.mp poised with here | here
      · obtain ⟨path, member, rfl⟩ := List.mem_map.mp here
        exact ih member
      · obtain ⟨path, member, rfl⟩ := List.mem_map.mp here
        exact ih' member

variable {ι : Type} [DecidableEq ι]

theorem leads_submitAll (trees : ι → Node) (cascade : ι) (node : Node) (callers : List Caller)
    (queue : List (ι × Path)) (idle : List Nat) :
    Leads step (stateWith trees cascade (plug callers node) queue idle)
      (stateWith trees cascade (plug callers node.submitAll)
        (queue ++ node.poised.map fun path => (cascade, pathOf callers ++ (path ++ [.inner])))
        idle) := by
  induction node generalizing callers queue with
  | queued func => simpa [Node.submitAll, Node.poised] using Leads.refl _
  | worker thread func => simpa [Node.submitAll, Node.poised] using Leads.refl _
  | coroutine coro =>
      cases coro with
      | returns => simpa [Node.submitAll, Node.poised] using Leads.refl _
      | gather first second rest => simpa [Node.submitAll, Node.poised] using Leads.refl _
      | runThreaded func rest =>
          simpa [Node.submitAll, Node.poised] using
            leads_submit trees cascade callers func rest queue idle
  | unkoil thread inner rest ih =>
      simpa [Node.submitAll, Node.poised, plug, Caller.plug, pathOf, Caller.turn,
        Function.comp_def] using
        ih (.unkoil thread rest :: callers) queue
  | awaiting job rest ih =>
      simpa [Node.submitAll, Node.poised, plug, Caller.plug, pathOf, Caller.turn,
        Function.comp_def] using
        ih (.awaiting rest :: callers) queue
  | gathering first second rest ih ih' =>
      have one := ih (.left second rest :: callers) queue
      have two := ih' (.right first.submitAll rest :: callers)
        (queue ++ first.poised.map fun path =>
          (cascade, pathOf (.left second rest :: callers) ++ (path ++ [.inner])))
      simpa [Node.submitAll, Node.poised, plug, Caller.plug, pathOf, Caller.turn,
        Function.comp_def] using
        one.trans two

theorem all_descend (cascades : ι → Coro) (members : Finset ι) (idle : List Nat) (more : Nat)
    (few : more ≤ ∑ cascade ∈ members, (cascades cascade).holds) (enough : more ≤ idle.length) :
    ∃ trees idle', Leads step (⟨fun cascade => .coroutine (cascades cascade), [], idle⟩)
        (⟨trees, [], idle'⟩ : State ι) ∧ idle'.length + more = idle.length ∧
      (∀ cascade, (trees cascade).Ready) ∧
      ∀ cascade ∉ members, trees cascade = .coroutine (cascades cascade) := by
  induction members using Finset.induction_on generalizing more with
  | empty =>
      refine ⟨_, idle, .refl _, ?_, fun cascade => ready_coroutine _, fun _ _ => rfl⟩
      rw [Finset.sum_empty] at few
      omega
  | insert cascade members absent ih =>
      rw [Finset.sum_insert absent] at few
      by_cases fewer : more ≤ ∑ cascade ∈ members, (cascades cascade).holds
      · obtain ⟨trees, idle', led, left, ready, untouched⟩ := ih more fewer enough
        refine ⟨trees, idle', led, left, ready, fun other out => untouched other ?_⟩
        exact fun inside => out (Finset.mem_insert_of_mem inside)
      · obtain ⟨trees, idle₁, led, left, ready, untouched⟩ := ih _ le_rfl (by omega)
        have now : (⟨trees, [], idle₁⟩ : State ι) =
            stateWith trees cascade (plug [] (.coroutine (cascades cascade))) [] idle₁ := by
          rw [stateWith, plug, ← untouched cascade absent, Function.update_eq_self]
        obtain ⟨down, idle', descended, here, _, left'⟩ : Descends trees cascade []
            (.coroutine (cascades cascade)) idle₁
            (more - ∑ cascade ∈ members, (cascades cascade).holds) :=
          (cascades cascade).descends [] idle₁ _ ((cascades cascade).holds_lt (by omega))
            (by omega) (by omega)
        refine ⟨_, idle', (now ▸ led).trans descended, by omega, fun other => ?_,
          fun other out => ?_⟩
        · by_cases same : other = cascade
          · subst same
            simpa [plug] using here
          · simpa [same] using ready other
        · obtain ⟨ne, outside⟩ := not_or.mp (Finset.mem_insert.not.mp out)
          simpa [ne] using untouched other outside

/-- Every coroutine that is about to await `run_threaded` submits its job, which stays in
the queue. -/
theorem all_submit (members : Finset ι) (trees : ι → Node) (idle : List Nat) :
    ∃ trees' queue, Leads step (⟨trees, [], idle⟩ : State ι) ⟨trees', queue, idle⟩ ∧
      (∀ cascade ∈ members, trees' cascade = (trees cascade).submitAll ∧
        ∀ path ∈ (trees cascade).poised, (cascade, path ++ [.inner]) ∈ queue) ∧
      ∀ cascade ∉ members, trees' cascade = trees cascade := by
  induction members using Finset.induction_on with
  | empty => exact ⟨trees, [], .refl _, fun _ absent => absurd absent (Finset.notMem_empty _),
      fun _ _ => rfl⟩
  | insert cascade members absent ih =>
      obtain ⟨trees', queue, led, submitted, untouched⟩ := ih
      have now : (⟨trees', queue, idle⟩ : State ι) =
          stateWith trees' cascade (plug [] (trees cascade)) queue idle := by
        rw [stateWith, plug, ← untouched cascade absent, Function.update_eq_self]
      have submits := leads_submitAll trees' cascade (trees cascade) [] queue idle
      refine ⟨_, _, (now ▸ led).trans submits, fun other member => ?_, fun other out => ?_⟩
      · by_cases here : other = cascade
        · subst here
          refine ⟨Function.update_self .., fun path poised => List.mem_append_right _ ?_⟩
          exact List.mem_map_of_mem poised
        · obtain ⟨same, queued⟩ :=
            submitted other (Finset.mem_of_mem_insert_of_ne member here)
          rw [Function.update_of_ne here]
          exact ⟨same, fun path poised => List.mem_append_left _ (queued path poised)⟩
      · obtain ⟨ne, outside⟩ := not_or.mp (Finset.mem_insert.not.mp out)
        rw [Function.update_of_ne ne, untouched other outside]

theorem deadlock_reachable [Fintype ι] (n : Nat) (cascades : ι → Coro)
    (enough : n ≤ ∑ cascade, (cascades cascade).holds) :
    ∃ history s, Reaches step (start n cascades) history s ∧ s.Deadlocked n := by
  obtain ⟨trees, idle, descended, left, ready, _⟩ :=
    all_descend cascades Finset.univ (List.range n) n enough (by rw [List.length_range])
  obtain ⟨trees', queue, submits, submitted, _⟩ := all_submit Finset.univ trees idle
  obtain ⟨earlier, reached⟩ := descended
  obtain ⟨later, reached'⟩ := submits
  refine ⟨_, _, reached.trans reached', fun thread bound => ?_⟩
  have held : Inv n cascades ⟨trees, [], idle⟩ :=
    reached.invariant (inv_start n cascades) fun _ _ _ => inv_step
  rw [List.length_range] at left
  have noneIdle : idle = [] := List.eq_nil_of_length_eq_zero (by omega)
  obtain ⟨cascade, busy⟩ := (held.kept thread bound).resolve_left
    (by rw [noneIdle]; exact List.not_mem_nil)
  obtain ⟨path, poised, above⟩ := ready cascade thread busy
  obtain ⟨same, queued⟩ := submitted cascade (Finset.mem_univ cascade)
  obtain ⟨⟨func, found⟩, kept⟩ := Node.submitAll_get poised
  refine ⟨cascade, path ++ [.inner], func, queued path poised, ?_, ?_⟩
  · show (trees' cascade).get (path ++ [.inner]) = some (.queued func)
    rw [same, found]
  · show thread ∈ (trees' cascade).above (path ++ [.inner])
    rw [same, kept]
    exact above

/-- A pool of `n` threads can come to a state in which all are blocked in `unkoil` on jobs
that are still queued exactly when the cascades can hold that many between them. -/
theorem pool_deadlock_iff [Fintype ι] (n : Nat) (cascades : ι → Coro) :
    (∃ history s, Reaches step (start n cascades) history s ∧ s.Deadlocked n) ↔
      n ≤ ∑ cascade, (cascades cascade).holds := by
  constructor
  · rintro ⟨history, s, run, deadlocked⟩
    have held : Inv n cascades s := run.invariant (inv_start n cascades) fun _ _ _ => inv_step
    exact held.deadlocked_le deadlocked
  · exact deadlock_reachable n cascades

end deadlock

mutual

def SyncFunc.sequential : SyncFunc → Bool
  | .returns => true
  | .unkoil coro rest => coro.sequential && rest.sequential

def Coro.sequential : Coro → Bool
  | .returns => true
  | .runThreaded func rest => func.sequential && rest.sequential
  | .gather _ _ _ => false

end

mutual

theorem SyncFunc.holds_sequential : (func : SyncFunc) → func.sequential = true →
    func.holds + 1 = func.depth
  | .returns, _ => rfl
  | .unkoil coro rest, single => by
      obtain ⟨one, later⟩ := Bool.and_eq_true_iff.mp single
      have inner := coro.holds_sequential one
      have after := rest.holds_sequential later
      rw [SyncFunc.holds, SyncFunc.depth]
      split <;> omega

theorem Coro.holds_sequential : (coro : Coro) → coro.sequential = true →
    coro.holds = coro.depth - 1
  | .returns, _ => rfl
  | .runThreaded func rest, single => by
      obtain ⟨one, later⟩ := Bool.and_eq_true_iff.mp single
      have inner := func.holds_sequential one
      have after := rest.holds_sequential later
      rw [Coro.holds, Coro.depth]
      omega

end

def nested : Coro := .runThreaded (.unkoil (.runThreaded .returns .returns) .returns) .returns

/-- One cascade blocks the only thread of a pool for good. -/
theorem nested_call_deadlocks : ∃ history s,
    Reaches step (start 1 fun _ : Unit => nested) history s ∧ s.Deadlocked 1 := by
  have initial : Reaches step (start 1 fun _ : Unit => nested) [] (start 1 fun _ => nested) :=
    .start
  have run := initial.follow
    [.advance () [], .take 0, .advance () [.inner], .advance () [.inner, .inner]] rfl
  refine ⟨_, _, run, fun thread bound => ⟨(), [.inner, .inner, .inner], .returns,
    List.mem_singleton_self _, rfl, ?_⟩⟩
  obtain rfl := Nat.lt_one_iff.mp bound
  exact List.mem_cons_self

def nestedAtOnce : Coro :=
  .runThreaded (.unkoil (.gather nested nested .returns) .returns) .returns

/-- Two nested calls at once hold two threads, and their caller a third. -/
example : nestedAtOnce.holds = 3 ∧ nestedAtOnce.depth = 3 := by decide

end Koil.PoolCascades
