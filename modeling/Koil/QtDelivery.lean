import Koil.QtGeneratorSteps

/-! What the Qt side hands to a `QtGenerator`, the consumer receives: nothing is lost on the
way, nothing comes twice, and the order stays. -/

namespace Koil.QtGenerators

open Contexts QtCalls Runs

variable {α : Type} {setup : Setup} {s s' : State α} {items : List (Item α)}
  {callback : Callback α} {ready : List (Callback α)}

def Label.item : Label α → Option (Item α)
  | .next context args => some (.ok (context, args))
  | .throw exception => some (.error exception)
  | .stop => some (.error ⟨.user qtStopIteration, ""⟩)
  | _ => none

/-- What the Qt side has handed over in the steps of a run, the earliest first. -/
def handed : List (State α × Label α) → List (Item α)
  | [] => []
  | (_, label) :: earlier => handed earlier ++ label.item.toList

def values : List (Item α) → List (Result α)
  | .ok result :: items => result :: values items
  | _ => []

def verdict : List (Item α) → Option Exc
  | [] => none
  | .ok _ :: items => verdict items
  | .error exc :: _ => some exc

/-- How the generator ends with an exception: normally, if it is QtStopIteration. -/
def outcomeOf (exc : Exc) : Option Exc :=
  if exc.isInstance (.user qtStopIteration) then none else some exc

/-- The interpreter keeps the exception when it leaves a coroutine or an async generator. -/
def Plain (item : Item α) : Prop :=
  ∀ exc, item = .error exc →
    exc.isA .stopIteration = false ∧ exc.isA .stopAsyncIteration = false

def Callback.item : Callback α → Option (Item α)
  | .put item => some item
  | _ => none

def Callback.own (callback : Callback α) : Bool := callback.item.isNone

def State.puts (s : State α) : List (Item α) := s.ready.filterMap Callback.item

def State.inflight (s : State α) : List (Item α) :=
  match s.stage, s.inner with
  | .waiting _, .done waited => [waited]
  | _, _ => []

def State.due (s : State α) : List (Callback α) :=
  match s.stage, s.inner, s.getter with
  | .getting, _, .released => [.wake]
  | .waiting _, .created, _ => [.innerStart]
  | .waiting _, .suspended, .released => [.innerWake]
  | .waiting .pending, .done _, _ => [.release s.requests]
  | .waiting _, .done _, _ => [.wake]
  | _, _, _ => []

def State.Gets (s : State α) : Prop :=
  s.getter = .pending ∧ s.items = [] ∨ s.getter = .released

def State.Shape (s : State α) : Prop :=
  match s.stage, s.inner with
  | .calling, inner => inner = .absent ∧ s.getter = .absent
  | .yielded, inner => inner = .absent ∧ s.getter = .absent
  | .getting, inner => inner = .absent ∧ s.thrown = false ∧ s.Gets
  | .waiting waiter, .created => waiter = .pending ∧ s.innerThrown = false ∧ s.getter = .absent
  | .waiting waiter, .suspended => waiter = .pending ∧ s.innerThrown = false ∧ s.Gets
  | .waiting waiter, .done _ => waiter ≠ .interrupted ∧ s.getter = .absent
  | .waiting _, .absent => False
  | .stopping _ _, _ => False
  | .ended reason _, _ => reason = .slot ∧ s.getter = .absent

def State.Log (s : State α) (items : List (Item α)) : Prop :=
  match s.stage with
  | .ended _ outcome => ∃ exc rest, items = s.received.map .ok ++ .error exc :: rest ∧
      outcome = outcomeOf exc
  | _ => items = s.received.map .ok ++ (s.inflight ++ (s.items ++ s.puts))

structure State.Loop (setup : Setup) (s : State α) (items : List (Item α)) : Prop where
  waiting : ∀ waiter, s.stage = .waiting waiter → setup.wait = .own
  stopped : s.stopped = true →
    setup.wait = .own ∧ ∃ exc, .error exc ∈ items ∧ exc.stopsLoop = true

/-- The state of a generator that nothing but its slot ends, after so many items. -/
structure Delivering (setup : Setup) (s : State α) (items : List (Item α)) : Prop where
  plain : ∀ item ∈ items, Plain item
  own : s.ready.filter Callback.own = s.due
  shape : s.Shape
  log : s.Log items
  loop : s.Loop setup items

theorem anext_plain {item : Item α} (plain : Plain item) : anext item = item := by
  cases item with
  | ok result => rfl
  | error exc => simp [anext, (plain exc rfl).1]

theorem agenException_plain {exc : Exc} (plain : Plain (.error exc : Item α)) :
    Generators.agenException exc = exc := by
  have kept := plain exc rfl
  simp [Generators.agenException, kept.1, kept.2]

theorem puts_push_own (s : State α) {callback : Callback α} (own : callback.own = true) :
    (s.push callback).puts = s.puts := by
  have absent : callback.item = none := by simpa [Callback.own] using own
  simp [State.puts, absent]

theorem innerDone_waiting {waiter : Waiter} (waiting : s.stage = .waiting waiter)
    (waited : Item α) : ∃ stopped, s.innerDone waited =
      { (s.setGetter .absent).setInner (.done waited) with
        stopped := stopped, ready := s.ready ++ [.release s.requests] } ∧
      (stopped = true → s.stopped = true ∨
        ∃ exc, waited = .error exc ∧ exc.stopsLoop = true) := by
  unfold State.innerDone
  simp only [State.setInner_stage, State.setGetter_stage, waiting]
  refine ⟨_, rfl, ?_⟩
  cases waited with
  | ok result => simp
  | error exc =>
      intro stops
      rcases Bool.or_eq_true_iff.mp stops with before | now
      · exact .inl before
      · exact .inr ⟨exc, rfl, (Bool.and_eq_true_iff.mp now).2⟩

theorem delivering_innerDone {waited : Item α} (plain : ∀ item ∈ items, Plain item)
    (quiet : s.ready.filter Callback.own = []) (waiting : s.stage = .waiting .pending)
    (loop : s.Loop setup items)
    (log : items = s.received.map .ok ++ waited :: (s.items ++ s.puts)) :
    Delivering setup (s.innerDone waited) items := by
  obtain ⟨stopped, same, because⟩ := innerDone_waiting waiting waited
  rw [same]
  refine ⟨plain, ?_, ?_, ?_, loop.waiting, ?_⟩
  · simp [State.due, waiting, quiet, Callback.own, Callback.item]
  · simp [State.Shape, waiting]
  · simpa [State.Log, State.inflight, State.puts, waiting, Callback.item, List.filterMap_cons]
      using log
  · intro stops
    rcases because stops with before | ⟨exc, rfl, now⟩
    · exact loop.stopped before
    · exact ⟨loop.waiting _ waiting, exc, by simp [log], now⟩

theorem delivering_innerGet (plain : ∀ item ∈ items, Plain item)
    (quiet : s.ready.filter Callback.own = []) (waiting : s.stage = .waiting .pending)
    (unthrown : s.innerThrown = false) (loop : s.Loop setup items)
    (log : items = s.received.map .ok ++ (s.items ++ s.puts)) :
    Delivering setup s.innerGet items := by
  cases queue : s.items with
  | nil =>
      have suspends : s.innerGet = (s.setInner .suspended).setGetter .pending := by
        simp [State.innerGet, queue]
      rw [suspends]
      refine ⟨plain, ?_, ?_, ?_, loop.waiting, loop.stopped⟩
      · simp [State.due, waiting, quiet]
      · simp [State.Shape, State.Gets, waiting, unthrown, queue]
      · simpa [State.Log, State.inflight, State.puts, waiting] using log
  | cons item rest =>
      have known : Plain item := plain item (by simp [log, queue])
      have takes : s.innerGet = (s.setItems rest).innerDone item := by
        simp [State.innerGet, queue, anext_plain known]
      rw [takes]
      rw [queue] at log
      exact delivering_innerDone plain quiet waiting ⟨loop.waiting, loop.stopped⟩ log

theorem delivering_push (held : Delivering setup s items) {item : Item α} (plain : Plain item) :
    Delivering setup (s.push (.put item)) (items ++ [item]) where
  loop := by
    refine ⟨held.loop.waiting, ?_⟩
    intro stopped
    obtain ⟨own, exc, member, stops⟩ := held.loop.stopped stopped
    exact ⟨own, exc, List.mem_append_left _ member, stops⟩
  plain := by
    intro other member
    rcases List.mem_append.mp member with before | last
    · exact held.plain other before
    · rw [List.mem_singleton.mp last]
      exact plain
  own := by
    have own := held.own
    simpa [Callback.own, Callback.item, State.due] using own
  shape := held.shape
  log := by
    have log := held.log
    unfold State.Log at log ⊢
    simp only [State.push_stage]
    split at log
    · obtain ⟨exc, rest, same, outcome⟩ := log
      exact ⟨exc, rest ++ [item], by simp [same], outcome⟩
    · rw [log]
      simp [State.inflight, State.puts, Callback.item]

theorem own_pop_put {item : Item α} {ready : List (Callback α)}
    (turn : s.ready = .put item :: ready) (own : s.ready.filter Callback.own = s.due) :
    ready.filter Callback.own = s.due := by
  rw [← own, turn]
  rfl

theorem puts_pop_put {item : Item α} {ready : List (Callback α)}
    (turn : s.ready = .put item :: ready) :
    s.puts = item :: ready.filterMap Callback.item := by
  rw [State.puts, turn]
  rfl

theorem log_put {item : Item α} {ready : List (Callback α)} (turn : s.ready = .put item :: ready)
    (log : s.Log items) : ((s.pop ready).setItems (s.items ++ [item])).Log items := by
  unfold State.Log at log ⊢
  simp only [State.setItems_stage, State.pop_stage]
  split at log
  · exact log
  · rw [log, puts_pop_put turn]
    simp [State.inflight, State.puts]

theorem delivering_put_idle (held : Delivering setup s items) {item : Item α}
    {ready : List (Callback α)} (turn : s.ready = .put item :: ready)
    (idle : s.getter ≠ .pending) : Delivering setup ((s.pop ready).put item) items := by
  have same : (s.pop ready).put item = (s.pop ready).setItems (s.items ++ [item]) := by
    cases getter : s.getter with
    | pending => exact absurd getter idle
    | _ => simp [State.put, getter]
  have own : ready.filter Callback.own = s.due := own_pop_put turn held.own
  have gets : s.Gets → ((s.pop ready).setItems (s.items ++ [item])).Gets := by
    rintro (⟨pending, _⟩ | released)
    · exact absurd pending idle
    · exact .inr released
  rw [same]
  refine ⟨held.plain, own, ?_, log_put turn held.log, held.loop.waiting, held.loop.stopped⟩
  have shape := held.shape
  unfold State.Shape at shape ⊢
  simp only [State.setItems_stage, State.setItems_inner, State.pop_stage, State.pop_inner]
  split at shape
  · exact shape
  · exact shape
  · exact ⟨shape.1, shape.2.1, gets shape.2.2⟩
  · exact shape
  · exact ⟨shape.1, shape.2.1, gets shape.2.2⟩
  · exact shape
  · exact shape
  · exact shape
  · exact shape

theorem delivering_put_wakes (held : Delivering setup s items) {item : Item α}
    {ready : List (Callback α)} (turn : s.ready = .put item :: ready)
    (pending : s.getter = .pending) : Delivering setup ((s.pop ready).put item) items := by
  have own := own_pop_put turn held.own
  have log := log_put turn held.log
  have shape := held.shape
  unfold State.Shape at shape
  split at shape
  · exact absurd (pending.symm.trans shape.2) nofun
  · exact absurd (pending.symm.trans shape.2) nofun
  · next getting =>
      have same : (s.pop ready).put item = (((s.pop ready).setItems
          (s.items ++ [item])).setGetter .released).push .wake := by
        simp [State.put, pending, shape.1]
      rw [same]
      refine ⟨held.plain, ?_, ?_, ?_, held.loop.waiting, held.loop.stopped⟩
      · simp [State.due, own, getting, pending, Callback.own, Callback.item]
      · simp [State.Shape, State.Gets, getting, shape.1, shape.2.1]
      · simpa [State.Log, State.inflight, State.puts, getting, Callback.item,
          List.filterMap_cons] using log
  · exact absurd (pending.symm.trans shape.2.2) nofun
  · next waiting suspended =>
      have same : (s.pop ready).put item = (((s.pop ready).setItems
          (s.items ++ [item])).setGetter .released).push .innerWake := by
        simp [State.put, pending, suspended]
      rw [same]
      refine ⟨held.plain, ?_, ?_, ?_, held.loop.waiting, held.loop.stopped⟩
      · simp [State.due, own, waiting, suspended, pending, Callback.own, Callback.item]
      · simp [State.Shape, State.Gets, waiting, suspended, shape.1, shape.2.1]
      · simpa [State.Log, State.inflight, State.puts, waiting, suspended, Callback.item,
          List.filterMap_cons] using log
  · exact absurd (pending.symm.trans shape.2) nofun
  · exact shape.elim
  · exact shape.elim
  · exact absurd (pending.symm.trans shape.2) nofun

theorem own_turn (held : Delivering setup s items) (turn : s.ready = callback :: ready)
    (own : callback.own = true) :
    s.due = callback :: ready.filter Callback.own ∧ (s.pop ready).puts = s.puts := by
  have absent : callback.item = none := by simpa [Callback.own] using own
  constructor
  · rw [← held.own, turn, List.filter_cons_of_pos own]
  · rw [State.puts, State.puts, turn, List.filterMap_cons_none absent]
    rfl

theorem log_running (log : s.Log items)
    (running : ∀ reason outcome, s.stage ≠ .ended reason outcome) :
    items = s.received.map .ok ++ (s.inflight ++ (s.items ++ s.puts)) := by
  unfold State.Log at log
  split at log
  · next ended => exact absurd ended (running _ _)
  · exact log

theorem due_innerStart {rest : List (Callback α)} (due : s.due = .innerStart :: rest) :
    ∃ waiter, s.stage = .waiting waiter ∧ s.inner = .created := by
  unfold State.due at due
  split at due <;> cases due
  next waiter _ waiting created => exact ⟨_, waiting, created⟩

theorem due_innerWake {rest : List (Callback α)} (due : s.due = .innerWake :: rest) :
    (∃ waiter, s.stage = .waiting waiter) ∧ s.inner = .suspended ∧ s.getter = .released := by
  unfold State.due at due
  split at due <;> cases due
  next waiting suspended released => exact ⟨⟨_, waiting⟩, suspended, released⟩

theorem due_release {request : Nat} {rest : List (Callback α)}
    (due : s.due = .release request :: rest) :
    request = s.requests ∧ s.stage = .waiting .pending ∧ ∃ waited, s.inner = .done waited := by
  unfold State.due at due
  split at due <;> cases due
  next waiting done => exact ⟨rfl, waiting, _, done⟩

theorem due_wake {rest : List (Callback α)} (due : s.due = .wake :: rest) :
    s.stage = .getting ∧ s.getter = .released ∨
      ∃ waiter waited, s.stage = .waiting waiter ∧ s.inner = .done waited ∧
        waiter ≠ .pending := by
  unfold State.due at due
  split at due <;> cases due
  · next getting released => exact .inl ⟨getting, released⟩
  · next waiter waited late waiting done =>
      exact .inr ⟨_, _, waiting, done, late⟩

theorem innerStart_turn (held : Delivering setup s items) (turn : s.ready = .innerStart :: ready) :
    s.stage = .waiting .pending ∧ s.inner = .created ∧ s.innerThrown = false ∧
      (s.pop ready).innerStart = (s.pop ready).innerGet := by
  obtain ⟨waiter, waiting, created⟩ := due_innerStart (own_turn held turn rfl).1
  have shape := held.shape
  simp only [State.Shape, waiting, created] at shape
  obtain ⟨rfl, unthrown, _⟩ := shape
  exact ⟨waiting, created, unthrown, by simp [State.innerStart, created, unthrown]⟩

theorem innerWake_turn (held : Delivering setup s items) (turn : s.ready = .innerWake :: ready) :
    s.stage = .waiting .pending ∧ s.inner = .suspended ∧ s.innerThrown = false ∧
      (s.pop ready).innerWake = (s.pop ready).innerGet := by
  obtain ⟨⟨waiter, waiting⟩, suspended, released⟩ := due_innerWake (own_turn held turn rfl).1
  have shape := held.shape
  simp only [State.Shape, waiting, suspended] at shape
  obtain ⟨rfl, unthrown, _⟩ := shape
  exact ⟨waiting, suspended, unthrown, by simp [State.innerWake, suspended, released, unthrown]⟩

theorem quiet_turn (held : Delivering setup s items) (turn : s.ready = callback :: ready)
    (own : callback.own = true) : ready.filter Callback.own = [] := by
  have due := (own_turn held turn own).1
  unfold State.due at due
  split at due
  · exact (List.cons.inj due).2.symm
  · exact (List.cons.inj due).2.symm
  · exact (List.cons.inj due).2.symm
  · exact (List.cons.inj due).2.symm
  · exact (List.cons.inj due).2.symm
  · cases due

theorem delivering_innerTurn (held : Delivering setup s items)
    (turn : s.ready = callback :: ready) (own : callback.own = true)
    (waiting : s.stage = .waiting .pending) (inflight : s.inflight = [])
    (unthrown : s.innerThrown = false) : Delivering setup (s.pop ready).innerGet items := by
  have log := log_running held.log (by simp [waiting])
  rw [inflight, List.nil_append, ← (own_turn held turn own).2] at log
  exact delivering_innerGet (s := s.pop ready) held.plain (quiet_turn held turn own) waiting
    unthrown ⟨held.loop.waiting, held.loop.stopped⟩ log

theorem delivering_innerStart (held : Delivering setup s items)
    (turn : s.ready = .innerStart :: ready) :
    Delivering setup (s.pop ready).innerStart items := by
  obtain ⟨waiting, created, unthrown, same⟩ := innerStart_turn held turn
  rw [same]
  apply delivering_innerTurn held turn rfl waiting _ unthrown
  simp [State.inflight, waiting, created]

theorem delivering_innerWake (held : Delivering setup s items)
    (turn : s.ready = .innerWake :: ready) :
    Delivering setup (s.pop ready).innerWake items := by
  obtain ⟨waiting, suspended, unthrown, same⟩ := innerWake_turn held turn
  rw [same]
  apply delivering_innerTurn held turn rfl waiting _ unthrown
  simp [State.inflight, waiting, suspended]

variable [Signals]

theorem deliver_ok (s : State α) (reason : Reason) (result : Result α) :
    s.deliver reason (.ok result) =
      (((s.setGetter .absent).setInner .absent).receive result).goto .yielded := rfl

theorem deliver_error (s : State α) (reason : Reason) {exc : Exc}
    (plain : Plain (.error exc : Item α)) :
    (s.deliver reason (.error exc)).stage = .ended reason (outcomeOf exc) ∧
      (s.deliver reason (.error exc)).received = s.received ∧
      (s.deliver reason (.error exc)).ready = s.ready ∧
      (s.deliver reason (.error exc)).getter = .absent ∧
      (s.deliver reason (.error exc)).stopped = s.stopped := by
  have kept := agenException_plain plain
  cases stops : exc.isInstance (.user qtStopIteration) with
  | true => simp [State.deliver, outcomeOf, stops]
  | false =>
      cases cancelled : exc.isA .asyncioCancelledError with
      | true =>
          simp [State.deliver, outcomeOf, stops, cancelled, State.giveUp, Signals.all, kept,
            State.setCancelled]
      | false => simp [State.deliver, outcomeOf, stops, cancelled, kept]

theorem delivering_deliver {waited : Item α} (plain : ∀ item ∈ items, Plain item)
    (quiet : s.ready.filter Callback.own = []) (loop : s.Loop setup items)
    (log : items = s.received.map .ok ++ waited :: (s.items ++ s.puts)) :
    Delivering setup (s.deliver .slot waited) items := by
  cases waited with
  | ok result =>
      rw [deliver_ok]
      exact ⟨plain, quiet, ⟨rfl, rfl⟩, by simpa [State.Log, State.inflight, State.puts] using log,
        nofun, loop.stopped⟩
  | error exc =>
      have last : Plain (.error exc : Item α) := plain _ (by simp [log])
      obtain ⟨stage, received, ready, getter, stopped⟩ := deliver_error s .slot last
      refine ⟨plain, ?_, ?_, ?_, ?_, ?_⟩
      · rw [ready, quiet, State.due, stage]
      · simp only [State.Shape, stage, getter, and_self]
      · simp only [State.Log, stage, received]
        exact ⟨exc, _, log, rfl⟩
      · simp [stage]
      · rw [stopped]
        exact loop.stopped

theorem delivering_get (plain : ∀ item ∈ items, Plain item)
    (quiet : s.ready.filter Callback.own = []) (inner : s.inner = .absent)
    (unthrown : s.thrown = false) (loop : s.Loop setup items)
    (log : items = s.received.map .ok ++ (s.items ++ s.puts)) : Delivering setup s.get items := by
  cases queue : s.items with
  | nil =>
      have suspends : s.get = (s.goto .getting).setGetter .pending := by simp [State.get, queue]
      rw [suspends]
      refine ⟨plain, ?_, ?_, ?_, nofun, loop.stopped⟩
      · simp [State.due, quiet]
      · simp [State.Shape, State.Gets, inner, unthrown, queue]
      · simpa [State.Log, State.inflight, State.puts] using log
  | cons item rest =>
      have known : Plain item := plain item (by simp [log, queue])
      have takes : s.get = (s.setItems rest).deliver .slot item := by
        simp [State.get, queue, anext_plain known]
      rw [takes]
      rw [queue] at log
      exact delivering_deliver plain quiet ⟨loop.waiting, loop.stopped⟩ log

theorem release_turn (held : Delivering setup s items) {request : Nat}
    (turn : s.ready = .release request :: ready) :
    s.stage = .waiting .pending ∧ (∃ waited, s.inner = .done waited) ∧ s.getter = .absent ∧
      (s.pop ready).runCallback (.release request) =
        ((s.pop ready).goto (.waiting .released)).push .wake := by
  obtain ⟨now, waiting, waited, done⟩ := due_release (own_turn held turn rfl).1
  have shape := held.shape
  simp only [State.Shape, waiting, done] at shape
  exact ⟨waiting, ⟨waited, done⟩, shape.2,
    by simp [State.runCallback, State.release, now, waiting]⟩

theorem wake_turn (held : Delivering setup s items) (turn : s.ready = .wake :: ready) :
    (s.stage = .getting ∧ s.inner = .absent ∧ s.thrown = false ∧
      (s.pop ready).resume = (s.pop ready).get) ∨
    ∃ waited, s.stage = .waiting .released ∧ s.inner = .done waited ∧
      (s.pop ready).resume = (s.pop ready).deliver .slot waited := by
  have shape := held.shape
  rcases due_wake (own_turn held turn rfl).1 with gets | waits
  · obtain ⟨getting, released⟩ := gets
    simp only [State.Shape, getting] at shape
    exact .inl ⟨getting, shape.1, shape.2.1, by simp [State.resume, getting, released, shape.2.1]⟩
  · obtain ⟨waiter, waited, waiting, done, late⟩ := waits
    simp only [State.Shape, waiting, done] at shape
    cases waiter with
    | pending => exact absurd rfl late
    | interrupted => exact absurd rfl shape.1
    | released => exact .inr ⟨waited, waiting, done, by simp [State.resume, waiting, done]⟩

theorem delivering_release (held : Delivering setup s items) {request : Nat}
    (turn : s.ready = .release request :: ready) :
    Delivering setup ((s.pop ready).runCallback (.release request)) items := by
  obtain ⟨waiting, ⟨waited, done⟩, getter, same⟩ := release_turn held turn
  have quiet := quiet_turn held turn rfl
  have log := log_running held.log (by simp [waiting])
  have waits : (((s.pop ready).goto (.waiting .released)).push .wake).puts = s.puts :=
    (puts_push_own _ rfl).trans (own_turn held turn rfl).2
  simp only [State.inflight, waiting, done] at log
  rw [same]
  refine ⟨held.plain, ?_, ?_, ?_, fun _ _ => held.loop.waiting _ waiting, held.loop.stopped⟩
  · simp [State.due, done, quiet, Callback.own, Callback.item]
  · simp [State.Shape, done, getter]
  · simpa [State.Log, State.inflight, done, waits] using log

theorem delivering_wake (held : Delivering setup s items) (turn : s.ready = .wake :: ready) :
    Delivering setup (s.pop ready).resume items := by
  have quiet := quiet_turn held turn rfl
  have loop : (s.pop ready).Loop setup items := ⟨held.loop.waiting, held.loop.stopped⟩
  rcases wake_turn held turn with ⟨getting, inner, unthrown, same⟩ | ⟨waited, waiting, done, same⟩
  · have log := log_running held.log (by simp [getting])
    simp only [State.inflight, getting, List.nil_append, ← (own_turn held turn rfl).2] at log
    rw [same]
    exact delivering_get (s := s.pop ready) held.plain quiet inner unthrown loop log
  · have log := log_running held.log (by simp [waiting])
    simp only [State.inflight, waiting, done, List.singleton_append,
      ← (own_turn held turn rfl).2] at log
    rw [same]
    exact delivering_deliver (s := s.pop ready) held.plain quiet loop log

theorem delivering_runCallback (held : Delivering setup s items)
    (turn : s.ready = callback :: ready) :
    Delivering setup ((s.pop ready).runCallback callback) items := by
  cases callback with
  | put item =>
      by_cases pending : s.getter = .pending
      · exact delivering_put_wakes held turn pending
      · exact delivering_put_idle held turn pending
  | innerStart => exact delivering_innerStart held turn
  | innerWake => exact delivering_innerWake held turn
  | release request => exact delivering_release held turn
  | wake => exact delivering_wake held turn

theorem delivering_ask (held : Delivering setup s items) (limit : setup.wait ≠ .past)
    (asks : s.stage = .calling ∨ s.stage = .yielded) :
    Delivering setup (s.ask setup false) items := by
  have rest : s.inner = .absent ∧ s.getter = .absent ∧ s.inflight = [] ∧ s.due = [] := by
    have shape := held.shape
    rcases asks with calling | yielded
    · simp only [State.Shape, calling] at shape
      exact ⟨shape.1, shape.2, by simp [State.inflight, calling], by simp [State.due, calling]⟩
    · simp only [State.Shape, yielded] at shape
      exact ⟨shape.1, shape.2, by simp [State.inflight, yielded], by simp [State.due, yielded]⟩
  obtain ⟨inner, getter, inflight, due⟩ := rest
  have quiet : s.ready.filter Callback.own = [] := held.own.trans due
  have log : items = s.received.map .ok ++ (s.items ++ s.puts) := by
    have running : ∀ reason outcome, s.stage ≠ .ended reason outcome := by
      rcases asks with calling | yielded
      · simp [calling]
      · simp [yielded]
    have log := log_running held.log running
    rwa [inflight, List.nil_append] at log
  have direct : Delivering setup s.renew.get items :=
    delivering_get (s := s.renew) held.plain quiet inner rfl
      ⟨held.loop.waiting, held.loop.stopped⟩ log
  have own : setup.wait = .own →
      Delivering setup (s.renew.createInner.goto (.waiting .pending)) items := by
    intro limit
    refine ⟨held.plain, ?_, ?_, ?_, fun _ _ => limit, held.loop.stopped⟩
    · simp [State.due, State.createInner, State.renew, quiet, Callback.own, Callback.item]
    · simp [State.Shape, State.createInner, State.renew, getter]
    · simpa [State.Log, State.inflight, State.createInner, State.renew, State.puts,
        Callback.item, List.filterMap_cons] using log
  unfold State.ask
  simp only [Bool.false_eq_true, if_false]
  split
  · exact direct
  · exact direct
  · next waits => exact own waits
  · next past => exact absurd past limit

end Koil.QtGenerators
