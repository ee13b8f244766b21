import Koil.QtDelivery
import Mathlib.Algebra.GroupWithZero.Nat

namespace Koil.QtGenerators

open Contexts QtCalls Runs

variable {α : Type} {setup : Setup} {s s' : State α} {items : List (Item α)}
  {history : List (State α × Label α)}

def Label.quiet : Label α → Bool
  | .cancel | .expire | .aclose => false
  | .ask thrown => !thrown
  | _ => true

/-- What is thrown is none of the interpreter's own ends of an iteration. -/
def Label.Plain (label : Label α) : Prop :=
  match label with
  | .throw exception =>
      exception.isA .stopIteration = false ∧ exception.isA .stopAsyncIteration = false
  | _ => True

theorem plain_item {label : Label α} (plain : label.Plain) {item : Item α}
    (hands : label.item = some item) : QtGenerators.Plain item := by
  cases label with
  | next context args =>
      cases hands
      exact nofun
  | throw exception =>
      cases hands
      rintro _ ⟨⟩
      exact plain
  | stop =>
      cases hands
      rintro _ ⟨⟩
      exact ⟨rfl, rfl⟩
  | _ => cases hands

theorem delivering_start (setup : Setup) : Delivering setup (start : State α) [] where
  plain := nofun
  own := rfl
  shape := ⟨rfl, rfl⟩
  log := rfl
  loop := ⟨nofun, nofun⟩

def Callback.rank : Callback α → Nat
  | .put _ => 10
  | .innerStart | .innerWake => 3
  | .release _ => 2
  | .wake => 1

def State.stageRank (s : State α) : Nat :=
  match s.stage, s.inner with
  | .calling, _ | .yielded, _ => 4
  | .waiting _, .done _ => 4
  | _, _ => 0

def State.rank (s : State α) : Nat :=
  (s.ready.map Callback.rank).sum + (5 * s.items.length + s.stageRank)

theorem stageRank_le (s : State α) : s.stageRank ≤ 4 := by
  unfold State.stageRank
  split <;> omega

theorem rank_pop {callback : Callback α} {ready : List (Callback α)}
    (turn : s.ready = callback :: ready) : s.rank = callback.rank + (s.pop ready).rank := by
  have same : (s.pop ready).stageRank = s.stageRank := rfl
  simp only [State.rank, turn, same, List.map_cons, List.sum_cons, State.pop_ready,
    State.pop_items]
  omega

theorem rank_put (s : State α) (item : Item α) : (s.put item).rank ≤ s.rank + 8 := by
  have queued : (s.setItems (s.items ++ [item])).rank = s.rank + 5 := by
    have same : (s.setItems (s.items ++ [item])).stageRank = s.stageRank := rfl
    simp only [State.rank, same, State.setItems_items, State.setItems_ready, List.length_append,
      List.length_singleton]
    omega
  have woken : ∀ (t : State α) (callback : Callback α),
      ((t.setGetter .released).push callback).rank = t.rank + callback.rank := by
    intro t callback
    have same : ((t.setGetter .released).push callback).stageRank = t.stageRank := rfl
    simp only [State.rank, same, State.push_ready, State.push_items, State.setGetter_ready,
      State.setGetter_items, List.map_append, List.sum_append, List.map_cons, List.map_nil,
      List.sum_singleton]
    omega
  unfold State.put
  simp only
  split
  · rw [woken, queued]
    simp [Callback.rank]
  · rw [woken, queued]
    simp [Callback.rank]
  · rw [queued]
    omega

/-- The loop has nothing left to do, and the consumer waits for a value or has seen the end. -/
def State.Idle (s : State α) : Prop := s.ready = [] ∧ s.stage ≠ .calling ∧ s.stage ≠ .yielded

def Label.drives : Label α → Bool
  | .callback => true
  | .ask thrown => !thrown
  | _ => false

theorem values_append (results : List (Result α)) (items : List (Item α)) :
    values (results.map .ok ++ items) = results ++ values items := by
  induction results with
  | nil => rfl
  | cons result results ih => simpa [values] using ih

theorem verdict_append (results : List (Result α)) (items : List (Item α)) :
    verdict (results.map .ok ++ items) = verdict items := by
  induction results with
  | nil => rfl
  | cons result results ih => simpa [verdict] using ih

theorem received_first (held : Delivering setup s items) : s.received <+: values items := by
  have log := held.log
  unfold State.Log at log
  split at log
  · obtain ⟨exc, rest, same, _⟩ := log
    rw [same, values_append]
    exact List.prefix_append _ _
  · rw [log, values_append]
    exact List.prefix_append _ _

theorem ended_delivered (held : Delivering setup s items) {reason : Reason}
    {outcome : Option Exc} (ended : s.stage = .ended reason outcome) :
    s.received = values items ∧ reason = .slot ∧
      ∃ exc, verdict items = some exc ∧ outcome = outcomeOf exc := by
  have log := held.log
  have shape := held.shape
  simp only [State.Log, ended] at log
  simp only [State.Shape, ended] at shape
  obtain ⟨exc, rest, same, outcome⟩ := log
  rw [same, values_append, verdict_append]
  exact ⟨(List.append_nil _).symm, shape.1, exc, rfl, outcome⟩

theorem rank_innerGet {waiter : Waiter} (waiting : s.stage = .waiting waiter) :
    s.innerGet.rank ≤ (s.ready.map Callback.rank).sum + (5 * s.items.length + 1) := by
  cases queue : s.items with
  | nil =>
      have suspends : s.innerGet = (s.setInner .suspended).setGetter .pending := by
        simp [State.innerGet, queue]
      simp [suspends, State.rank, State.stageRank, queue, waiting]
  | cons item items =>
      have stays : (s.setItems items).stage = .waiting waiter := waiting
      obtain ⟨stopped, takes, _⟩ := innerDone_waiting stays (anext item)
      have taken : s.innerGet = (s.setItems items).innerDone (anext item) := by
        simp [State.innerGet, queue]
      rw [taken, takes]
      simp only [State.rank, State.stageRank, State.setInner_stage, State.setGetter_stage,
        State.setItems_stage, waiting, State.setInner_items, State.setGetter_items,
        State.setItems_items, List.map_append, List.sum_append, Callback.rank, List.map_cons,
        List.map_nil, List.sum_cons, List.sum_nil, List.length_cons, State.setInner_inner,
        State.setItems_ready]
      omega

theorem idle_delivered (held : Delivering setup s items) (idle : s.Idle) :
    s.received = values items ∧
      ∀ exc, verdict items = some exc → s.stage = .ended .slot (outcomeOf exc) := by
  obtain ⟨ready, notCalling, notYielded⟩ := idle
  have quiet : s.due = [] := by rw [← held.own, ready]; rfl
  have shape := held.shape
  have empty : s.inflight = [] → s.items = [] →
      (∀ reason outcome, s.stage ≠ .ended reason outcome) →
      s.received = values items ∧
        ∀ exc, verdict items = some exc → s.stage = .ended .slot (outcomeOf exc) := by
    intro inflight queue running
    have log := log_running held.log running
    rw [inflight, queue, State.puts, ready] at log
    rw [log, values_append, verdict_append]
    exact ⟨(List.append_nil _).symm, fun _ none => by cases none⟩
  cases stage : s.stage with
  | calling => exact absurd stage notCalling
  | yielded => exact absurd stage notYielded
  | stopping cause waiter => simp [State.Shape, stage] at shape
  | getting =>
      simp only [State.Shape, stage, State.Gets] at shape
      rcases shape.2.2 with ⟨_, queue⟩ | released
      · rw [← stage]
        exact empty (by simp [State.inflight, stage]) queue (by simp [stage])
      · simp [State.due, stage, released] at quiet
  | waiting waiter =>
      cases inner : s.inner with
      | absent => simp [State.Shape, stage, inner] at shape
      | created => simp [State.due, stage, inner] at quiet
      | done waited => cases waiter <;> simp [State.due, stage, inner] at quiet
      | suspended =>
          simp only [State.Shape, stage, inner, State.Gets] at shape
          rcases shape.2.2 with ⟨_, queue⟩ | released
          · rw [← stage]
            exact empty (by simp [State.inflight, stage, inner]) queue (by simp [stage])
          · simp [State.due, stage, inner, released] at quiet
  | ended reason outcome =>
      obtain ⟨received, rfl, exc, first, rfl⟩ := ended_delivered held stage
      refine ⟨received, ?_⟩
      intro other same
      rw [first] at same
      cases same
      rfl

section signals

variable [Signals]

theorem delivering_step (held : Delivering setup s items) (limit : setup.wait ≠ .past)
    {label : Label α} (quiet : label.quiet = true) (plain : label.Plain)
    (taken : step setup s label = some s') :
    Delivering setup s' (items ++ label.item.toList) := by
  cases label with
  | next context args =>
      cases taken
      exact delivering_push held (plain_item plain rfl)
  | throw exception =>
      cases taken
      exact delivering_push held (plain_item plain rfl)
  | stop =>
      cases taken
      exact delivering_push held (plain_item plain rfl)
  | ask thrown =>
      cases thrown with
      | true => cases quiet
      | false =>
          obtain ⟨asks, rfl⟩ := ask_cases taken
          simpa [Label.item] using delivering_ask held limit asks
  | callback =>
      obtain ⟨callback, ready, _, turn, rfl⟩ := callback_cases taken
      simpa [Label.item] using delivering_runCallback held turn
  | _ => cases quiet

theorem delivering_run (limit : setup.wait ≠ .past) (run : Reaches (step setup) start history s)
    (quiet : ∀ taken ∈ history, taken.2.quiet = true)
    (plain : ∀ taken ∈ history, taken.2.Plain) : Delivering setup s (handed history) := by
  induction run with
  | start => exact delivering_start setup
  | @next history s s' label before taken ih =>
      rw [List.forall_mem_cons] at quiet plain
      exact delivering_step (ih quiet.2 plain.2) limit quiet.1 plain.1 taken

theorem deliver_queues (s : State α) (reason : Reason) (waited : Item α) :
    (s.deliver reason waited).ready = s.ready ∧ (s.deliver reason waited).items = s.items := by
  cases waited with
  | ok result => exact ⟨rfl, rfl⟩
  | error exc =>
      unfold State.deliver
      simp only
      split
      · exact ⟨rfl, rfl⟩
      · split
        · rw [giveUp_eq]
          exact ⟨rfl, rfl⟩
        · exact ⟨rfl, rfl⟩

theorem rank_deliver (s : State α) (reason : Reason) (waited : Item α) :
    (s.deliver reason waited).rank ≤
      (s.ready.map Callback.rank).sum + (5 * s.items.length + 4) := by
  obtain ⟨ready, items⟩ := deliver_queues s reason waited
  have stage := stageRank_le (s.deliver reason waited)
  rw [State.rank, ready, items]
  omega

theorem rank_get (s : State α) :
    s.get.rank ≤ (s.ready.map Callback.rank).sum + 5 * s.items.length := by
  cases queue : s.items with
  | nil =>
      have suspends : s.get = (s.goto .getting).setGetter .pending := by simp [State.get, queue]
      simp [suspends, State.rank, State.stageRank, queue]
  | cons item items =>
      have takes : s.get = (s.setItems items).deliver .slot (anext item) := by
        simp [State.get, queue]
      have delivered := rank_deliver (s.setItems items) .slot (anext item)
      rw [takes, List.length_cons]
      simp only [State.setItems_ready, State.setItems_items] at delivered
      omega

theorem callback_rank (held : Delivering setup s items)
    (taken : step setup s .callback = some s') : s'.rank < s.rank := by
  obtain ⟨callback, ready, _, turn, rfl⟩ := callback_cases taken
  rw [rank_pop turn]
  cases callback with
  | put item =>
      have bound := rank_put (s.pop ready) item
      simp only [State.runCallback, Callback.rank]
      omega
  | innerStart =>
      obtain ⟨waiting, created, _, same⟩ := innerStart_turn held turn
      have bound := rank_innerGet (s := s.pop ready) waiting
      simp only [State.runCallback, same, Callback.rank, State.rank]
      simp only [State.rank] at bound
      omega
  | innerWake =>
      obtain ⟨waiting, suspended, _, same⟩ := innerWake_turn held turn
      have bound := rank_innerGet (s := s.pop ready) waiting
      simp only [State.runCallback, same, Callback.rank, State.rank]
      simp only [State.rank] at bound
      omega
  | release request =>
      obtain ⟨waiting, ⟨waited, done⟩, _, same⟩ := release_turn held turn
      rw [same]
      simp [State.rank, State.stageRank, waiting, done, Callback.rank]
      omega
  | wake =>
      rcases wake_turn held turn with ⟨getting, _, _, same⟩ | ⟨waited, waiting, done, same⟩
      · have bound := rank_get (s.pop ready)
        simp only [State.runCallback, same, Callback.rank, State.rank]
        simp only [State.rank] at bound
        omega
      · have bound := rank_deliver (s.pop ready) .slot waited
        have before : (s.pop ready).stageRank = 4 := by simp [State.stageRank, waiting, done]
        simp only [State.runCallback, same, Callback.rank, State.rank, before]
        simp only [State.rank] at bound
        omega

theorem ask_rank (limit : setup.wait ≠ .past)
    (asks : s.stage = .calling ∨ s.stage = .yielded) : (s.ask setup false).rank < s.rank := by
  have before : s.stageRank = 4 := by
    rcases asks with calling | yielded
    · simp [State.stageRank, calling]
    · simp [State.stageRank, yielded]
  have whole : s.rank = (s.ready.map Callback.rank).sum + (5 * s.items.length + 4) := by
    rw [State.rank, before]
  have direct : s.renew.get.rank < s.rank := by
    have bound := rank_get s.renew
    simp only [State.renew] at bound ⊢
    omega
  unfold State.ask
  simp only [Bool.false_eq_true, if_false]
  split
  · exact direct
  · exact direct
  · rw [whole]
    simp [State.rank, State.stageRank, State.createInner, State.renew, Callback.rank]
    omega
  · next past => exact absurd past limit

theorem exists_step (held : Delivering setup s items) (limit : setup.wait ≠ .past)
    (running : s.stopped = false) (busy : ¬ s.Idle) :
    ∃ (label : Label α) (s' : State α), label.drives = true ∧ step setup s label = some s' ∧
      Delivering setup s' items ∧ s'.rank < s.rank := by
  by_cases asks : s.stage = .calling ∨ s.stage = .yielded
  · have taken : step setup s (.ask false) = some (s.ask setup false) := by
      rcases asks with calling | yielded
      · simp [step, calling]
      · simp [step, yielded]
    exact ⟨.ask false, _, rfl, taken, delivering_ask held limit asks, ask_rank limit asks⟩
  · rw [not_or] at asks
    cases turn : s.ready with
    | nil => exact absurd ⟨turn, asks⟩ busy
    | cons callback ready =>
        have taken : step setup s .callback = some ((s.pop ready).runCallback callback) := by
          cases stage : s.stage with
          | calling => exact absurd stage asks.1
          | _ => simp [step, stage, running, turn]
        exact ⟨.callback, _, rfl, taken, delivering_runCallback held turn,
          callback_rank held taken⟩

/-- Without the Qt side the loop and the consumer come to rest, since each of their steps
leaves them less to do. -/
theorem settles (held : Delivering setup s items) (limit : setup.wait ≠ .past) :
    ∃ history s', Reaches (step setup) s history s' ∧
      (∀ taken ∈ history, taken.2.drives = true) ∧ Delivering setup s' items ∧
      (s'.stopped = true ∨ s'.Idle) := by
  induction rank : s.rank using Nat.strongRecOn generalizing s with
  | ind rank ih =>
      by_cases rest : s.stopped = true ∨ s.Idle
      · exact ⟨[], s, .start, fun _ member => absurd member List.not_mem_nil, held, rest⟩
      · rw [not_or, Bool.not_eq_true] at rest
        obtain ⟨label, next, drives, taken, kept, less⟩ :=
          exists_step held limit rest.1 rest.2
        obtain ⟨history, s', run, driven, delivered, settled⟩ :=
          ih next.rank (rank ▸ less) kept rfl
        refine ⟨history ++ [(s, label)], s', (Reaches.start.next taken).trans run, ?_, delivered,
          settled⟩
        intro step member
        rcases List.mem_append.mp member with later | first
        · exact driven step later
        · rw [List.mem_singleton.mp first]
          exact drives

/-- The consumer gets the values handed over before the first exception, in their order and
each once, and then the end that the exception stands for. It has them all when it has seen
the end, and when it waits while the loop has nothing to do, which it comes to in any case:
only the loop itself can be stopped, by an exception for it in the inner task of `wait_for`. -/
structure Delivers (setup : Setup) (history : List (State α × Label α)) (s : State α) : Prop where
  received : s.received <+: values (handed history)
  ended : ∀ reason outcome, s.stage = .ended reason outcome →
    s.received = values (handed history) ∧
      ∃ exc, verdict (handed history) = some exc ∧ outcome = outcomeOf exc
  idle : s.Idle → s.received = values (handed history) ∧
    ∀ exc, verdict (handed history) = some exc → s.stage = .ended .slot (outcomeOf exc)
  final : ∀ taken ∈ history, ∀ reason outcome, taken.1.stage = .ended reason outcome →
    s.stage = .ended reason outcome ∧ s.received = taken.1.received
  arrives : setup.wait ≠ .own ∨ (∀ exc, .error exc ∈ handed history → exc.stopsLoop = false) →
    ∃ later t, Reaches (step setup) s later t ∧ (∀ taken ∈ later, taken.2.drives = true) ∧
      t.received = values (handed history) ∧
      ∀ exc, verdict (handed history) = some exc → t.stage = .ended .slot (outcomeOf exc)

/-- Every run of a generator that is neither cancelled nor closed and does not time out. -/
theorem stream_delivered (limit : setup.wait ≠ .past) (run : Reaches (step setup) start history s)
    (quiet : ∀ taken ∈ history, taken.2.quiet = true)
    (plain : ∀ taken ∈ history, taken.2.Plain) : Delivers setup history s := by
  have held := delivering_run limit run quiet plain
  refine ⟨received_first held, ?_, idle_delivered held, fun taken member _ _ ended =>
    ended_run run taken member ended, ?_⟩
  · intro reason outcome ended
    obtain ⟨received, _, end'⟩ := ended_delivered held ended
    exact ⟨received, end'⟩
  · intro loops
    obtain ⟨later, t, more, drives, kept, stopped | idle⟩ := settles held limit
    · obtain ⟨own, exc, member, stops⟩ := kept.loop.stopped stopped
      rcases loops with other | survives
      · exact absurd own other
      · rw [survives exc member] at stops
        cases stops
    · exact ⟨later, t, more, drives, idle_delivered kept idle⟩

end signals

/-- A burst of two values and the end of the stream before the consumer asks, and a value
that comes too late. -/
def burst : List (Label Nat) :=
  [.next Context.empty 1, .next Context.empty 2, .stop, .next Context.empty 3, .ask false,
    .callback, .callback, .callback, .callback, .callback, .ask false, .ask false]

theorem stream_delivered_burst : ∃ (history : List (State Nat × Label Nat)) (s : State Nat),
    Reaches (step ⟨true, none⟩) start history s ∧ s.stage = .ended .slot none ∧
      s.received.map Prod.snd = [1, 2] ∧ Delivers ⟨true, none⟩ history s := by
  have labelled : ∀ label ∈ burst, label.quiet = true ∧ label.Plain := by
    simp only [burst, List.forall_mem_cons]
    simp [Label.quiet, Label.Plain]
  have ⟨run, met⟩ := followed_run (step ⟨true, none⟩) start labelled rfl
  exact ⟨_, _, run, rfl, rfl, stream_delivered (by decide) run (fun taken member =>
    (met taken member).1) fun taken member => (met taken member).2⟩

end Koil.QtGenerators
