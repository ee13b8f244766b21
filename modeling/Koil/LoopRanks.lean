import Koil.LoopWaits
import Mathlib

/-! Nothing waits for itself: the loops are ranked so that the ambient loop of a frame
never ranks below the loop that the frame belongs to. -/

namespace Koil.LoopWaits

open Contexts Koils Runs

theorem lt_of_transGen {α β : Type} [Preorder β] {r : α → α → Prop} {rank : α → β}
    (rises : ∀ a b, r a b → rank a < rank b) {a b : α} (path : Relation.TransGen r a b) :
    rank a < rank b := by
  induction path with
  | single edge => exact rises _ _ edge
  | tail _ edge ih => exact ih.trans (rises _ _ edge)

/-- Loops of `asyncio.run` rank below those of Koils, the latest lowest; the loops of
Koils rank in the order in which they were made. -/
def System.rank (s : System) (loop : Nat) : ℤ :=
  if s.byRun loop then -(loop + 1 : ℤ) else loop + 1

/-- The rank of the loop that a frame belongs to; a plain thread ranks below all. -/
def System.hostRank (s : System) (kind : Kind) : WithBot ℤ :=
  kind.host.elim ⊥ fun loop => (s.rank loop : WithBot ℤ)

theorem rank_injective (s : System) {loop other : Nat} (same : s.rank loop = s.rank other) :
    loop = other := by
  unfold System.rank at same
  split at same <;> split at same <;> omega

/-- The ambient loop of a context is one that was made, of at least the given rank. -/
def CtxOk (s : System) (host : WithBot ℤ) (ctx : Context) : Prop :=
  ∀ loop, ctx.getD .globalKoilLoop = .loop loop → loop < s.made ∧ host ≤ s.rank loop

structure FrameOk (s : System) (frame : Frame) : Prop where
  hostMade : ∀ loop, frame.kind.host = some loop → loop < s.made
  ambient : CtxOk s (s.hostRank frame.kind) frame.ctx

/-- A call never leads to a lower rank, and one that blocks a loop leads to a higher. -/
structure CallOk (s : System) (callee caller : Frame) : Prop where
  rises : s.hostRank caller.kind ≤ s.hostRank callee.kind
  blocking : ∀ target loop, callee.kind = .unkoiled target → caller.kind.running = some loop →
    s.rank loop < s.rank target

structure ChainOk (s : System) (frames : List Frame) : Prop where
  each : ∀ frame ∈ frames, FrameOk s frame
  calls : frames.IsChain (CallOk s)

structure Inv (s : System) : Prop where
  unmade : ∀ loop, s.made ≤ loop → s.byRun loop = false
  chains : ∀ frames ∈ s.chains, ChainOk s frames

variable {s s' : System} {host : WithBot ℤ} {ctx items : Context}

section contexts

theorem CtxOk.mono (held : CtxOk s host ctx) {lower : WithBot ℤ} (le : lower ≤ host) :
    CtxOk s lower ctx :=
  fun loop ambient => ⟨(held loop ambient).1, le.trans (held loop ambient).2⟩

theorem CtxOk.congr (held : CtxOk s host ctx) {other : Context}
    (same : other.getD .globalKoilLoop = ctx.getD .globalKoilLoop) : CtxOk s host other :=
  fun loop ambient => held loop (same.symm.trans ambient)

theorem CtxOk.of_ambient {loop : Nat} (ambient : ctx.getD .globalKoilLoop = .loop loop)
    (made : loop < s.made) (le : host ≤ s.rank loop) : CtxOk s host ctx := by
  intro other held
  obtain rfl : loop = other := Val.loop.inj (ambient.symm.trans held)
  exact ⟨made, le⟩

theorem CtxOk.of_nothing (ambient : ctx.getD .globalKoilLoop = .nothing) : CtxOk s host ctx := by
  intro loop held
  rw [ambient] at held
  cases held

theorem CtxOk.setItems (held : CtxOk s host ctx) (copied : CtxOk s host items) :
    CtxOk s host (ctx.setItems items) := by
  intro loop ambient
  cases item : items .globalKoilLoop with
  | none =>
      refine held loop ?_
      simpa [Context.getD, Context.setItems, item] using ambient
  | some value =>
      refine copied loop ?_
      simpa [Context.getD, Context.setItems, item] using ambient

theorem CtxOk.propagateContextOut (held : CtxOk s host ctx) (worker : Context) :
    CtxOk s host (ctx.propagateContextOut worker) :=
  held.congr (by rw [Context.getD, propagateContextOut_internal ctx worker rfl]; rfl)

end contexts

section growth

/-- Loops may have been made since; what made the earlier ones has not changed. -/
structure Later (s s' : System) : Prop where
  made : s.made ≤ s'.made
  byRun : ∀ loop, loop < s.made → s'.byRun loop = s.byRun loop

theorem Later.refl (s : System) : Later s s := ⟨le_rfl, fun _ _ => rfl⟩

theorem Later.rank (later : Later s s') {loop : Nat} (made : loop < s.made) :
    s'.rank loop = s.rank loop := by
  rw [System.rank, System.rank, later.byRun loop made]

theorem Later.hostRank (later : Later s s') {kind : Kind}
    (made : ∀ loop, kind.host = some loop → loop < s.made) :
    s'.hostRank kind = s.hostRank kind := by
  unfold System.hostRank
  cases held : kind.host with
  | none => rfl
  | some loop => simp [later.rank (made loop held)]

theorem CtxOk.later (held : CtxOk s host ctx) (later : Later s s') : CtxOk s' host ctx := by
  intro loop ambient
  obtain ⟨made, le⟩ := held loop ambient
  exact ⟨made.trans_le later.made, by rwa [later.rank made]⟩

theorem FrameOk.later {frame : Frame} (held : FrameOk s frame) (later : Later s s') :
    FrameOk s' frame := by
  refine ⟨fun loop hosted => (held.hostMade loop hosted).trans_le later.made, ?_⟩
  rw [later.hostRank held.hostMade]
  exact held.ambient.later later

theorem Kind.host_of_running {kind : Kind} {loop : Nat} (running : kind.running = some loop) :
    kind.host = some loop := by
  cases kind <;> simp_all [Kind.running, Kind.host]

theorem CallOk.later {callee caller : Frame} (held : CallOk s callee caller)
    (calleeOk : FrameOk s callee) (callerOk : FrameOk s caller) (later : Later s s') :
    CallOk s' callee caller := by
  refine ⟨?_, fun target loop unkoils running => ?_⟩
  · rw [later.hostRank calleeOk.hostMade, later.hostRank callerOk.hostMade]
    exact held.rises
  · rw [later.rank (callerOk.hostMade loop (Kind.host_of_running running)),
      later.rank (calleeOk.hostMade target (by rw [unkoils]; rfl))]
    exact held.blocking target loop unkoils running

theorem ChainOk.later {frames : List Frame} (held : ChainOk s frames) (later : Later s s') :
    ChainOk s' frames := by
  refine ⟨fun frame member => (held.each frame member).later later, ?_⟩
  exact held.calls.imp_of_mem_imp fun callee caller above below call =>
    call.later (held.each callee above) (held.each caller below) later

end growth

section chains

variable {frame callee : Frame} {callers frames : List Frame}

theorem ChainOk.singleton (held : FrameOk s frame) : ChainOk s [frame] :=
  ⟨fun _ member => List.mem_singleton.mp member ▸ held, .singleton frame⟩

theorem ChainOk.tail (held : ChainOk s (frame :: callers)) : ChainOk s callers :=
  ⟨fun _ member => held.each _ (List.mem_cons_of_mem _ member), held.calls.of_cons⟩

theorem ChainOk.push (held : ChainOk s (frame :: callers)) (called : FrameOk s callee)
    (call : CallOk s callee frame) : ChainOk s (callee :: frame :: callers) := by
  refine ⟨fun other member => ?_, .cons_cons call held.calls⟩
  rcases List.mem_cons.mp member with rfl | member
  · exact called
  · exact held.each other member

theorem ChainOk.setCtx (held : ChainOk s (frame :: callers))
    (ambient : CtxOk s (s.hostRank frame.kind) ctx) :
    ChainOk s (⟨frame.kind, ctx⟩ :: callers) := by
  refine ⟨fun other member => ?_, ?_⟩
  · rcases List.mem_cons.mp member with rfl | member
    · exact ⟨(held.each frame List.mem_cons_self).hostMade, ambient⟩
    · exact held.each other (List.mem_cons_of_mem _ member)
  · cases callers with
    | nil => exact .singleton _
    | cons caller callers =>
        have call := held.calls.rel
        exact .cons_cons ⟨call.rises, call.blocking⟩ held.calls.of_cons

theorem ChainOk.returnTo (held : ChainOk s (frame :: callers)) :
    ChainOk s (frame.returnTo callers) := by
  cases callers with
  | nil => exact held.tail
  | cons caller callers =>
      have called := held.each frame List.mem_cons_self
      have calling := held.each caller (List.mem_cons_of_mem _ List.mem_cons_self)
      have copied : CtxOk s (s.hostRank caller.kind) frame.ctx :=
        called.ambient.mono held.calls.rel.rises
      refine held.tail.setCtx ?_
      unfold Frame.copiesOut
      split
      · exact calling.ambient.setItems copied
      · exact calling.ambient.propagateContextOut frame.ctx
      · exact calling.ambient

theorem ChainOk.take (held : ChainOk s frames) (depth : Nat) : ChainOk s (frames.take depth) :=
  ⟨fun frame member => held.each frame (List.mem_of_mem_take member), held.calls.take depth⟩

theorem ChainOk.drop (held : ChainOk s frames) (depth : Nat) : ChainOk s (frames.drop depth) :=
  ⟨fun frame member => held.each frame (List.mem_of_mem_drop member), held.calls.drop depth⟩

end chains

section steps

variable {chain : Nat} {frame : Frame} {callers : List Frame} {view : Koils.State}

theorem Inv.step_to (held : Inv s) (later : Later s s')
    (unmade : ∀ loop, s'.made ≤ loop → s'.byRun loop = false)
    (chains : ∀ frames ∈ s'.chains, frames ∈ s.chains ∨ ChainOk s' frames) : Inv s' := by
  refine ⟨unmade, fun frames member => ?_⟩
  rcases chains frames member with before | after
  · exact (held.chains frames before).later later
  · exact after

theorem Inv.setChain (held : Inv s) (made : s'.made = s.made) (byRun : s'.byRun = s.byRun)
    (chains : s'.chains = s.chains) {frames : List Frame} (after : ChainOk s frames) :
    Inv (s'.setChain chain frames) := by
  have later : Later s (s'.setChain chain frames) :=
    ⟨made.symm.le, fun loop _ => congrFun byRun loop⟩
  refine held.step_to later ?_ ?_
  · intro loop beyond
    refine (congrFun byRun loop).trans (held.unmade loop ?_)
    exact made ▸ beyond
  · intro other member
    rcases List.mem_or_eq_of_mem_set member with before | rfl
    · exact .inl (chains ▸ before)
    · exact .inr (after.later later)

theorem Inv.start (held : Inv s) (starts : FrameOk s frame) : Inv (s.start frame) := by
  have later : Later s (s.start frame) := ⟨le_rfl, fun _ _ => rfl⟩
  refine held.step_to later held.unmade fun frames member => ?_
  rcases List.mem_append.mp member with before | new
  · exact .inl before
  · obtain rfl := List.mem_singleton.mp new
    exact .inr ((ChainOk.singleton starts).later later)

theorem Inv.ended (held : Inv s) (kind : Kind) {frames : List Frame} (after : ChainOk s frames) :
    Inv ((s.ended kind).setChain chain frames) := by
  refine held.setChain ?_ ?_ ?_ after <;> cases kind <;> rfl

theorem Inv.setChain_made (held : Inv s) (made : s'.made = s.made + 1)
    (byRun : ∀ loop, loop ≠ s.made → s'.byRun loop = s.byRun loop)
    (chains : s'.chains = s.chains) {frames : List Frame}
    (after : Later s s' → ChainOk s' frames) : Inv (s'.setChain chain frames) := by
  have later : Later s s' := ⟨by omega, fun loop below => byRun loop below.ne⟩
  refine held.step_to ⟨later.made, later.byRun⟩ ?_ ?_
  · intro loop beyond
    have past : s.made < loop := Nat.lt_of_succ_le (made.symm.le.trans beyond)
    exact (byRun loop past.ne').trans (held.unmade loop past.le)
  · intro other member
    rcases List.mem_or_eq_of_mem_set member with before | rfl
    · exact .inl (chains ▸ before)
    · exact .inr ((after later).later ⟨le_rfl, fun _ _ => rfl⟩)

/-- An `unkoil` calls a coroutine on the ambient loop, which ranks higher than a loop
whose thread it blocks. -/
theorem Inv.unkoil (held : Inv s) (chainOk : ChainOk s (frame :: callers)) {advice : String}
    {loop : Nat}
    (got : (s.view frame.ctx).getKoiledLoopOrRaise frame.kind.running advice = .ok loop) :
    Inv (s.setChain chain (⟨.unkoiled loop, frame.ctx⟩ :: frame :: callers)) := by
  obtain ⟨ambient, _, elsewhere⟩ := getKoiledLoopOrRaise_ok_iff.mp got
  obtain ⟨made, le⟩ := (chainOk.each frame List.mem_cons_self).ambient loop ambient
  refine held.setChain rfl rfl rfl (chainOk.push ⟨?_, .of_ambient ambient made le_rfl⟩ ⟨le, ?_⟩)
  · rintro _ ⟨⟩
    exact made
  · rintro target host ⟨⟩ running
    have hostRank : s.hostRank frame.kind = s.rank host := by
      simp [System.hostRank, Kind.host_of_running running]
    have below : s.rank host ≤ s.rank loop := by simpa [hostRank] using le
    exact below.lt_of_ne fun same => (elsewhere host running).1 (rank_injective s same).symm

theorem Inv.runThreaded (held : Inv s) (chainOk : ChainOk s (frame :: callers)) {loop : Nat}
    (running : frame.kind.running = some loop) (bridged : Bool) (event : Nat) :
    Inv (s.setChain chain
      (⟨.worker loop bridged, frame.ctx.forWorker loop event⟩ :: frame :: callers)) := by
  have hosted := Kind.host_of_running running
  have made := (chainOk.each frame List.mem_cons_self).hostMade loop hosted
  have ambient : (frame.ctx.forWorker loop event).getD .globalKoilLoop = .loop loop := by
    simp [Context.forWorker, Context.getD, Context.set]
  refine held.setChain rfl rfl rfl (chainOk.push ⟨?_, .of_ambient ambient made le_rfl⟩ ⟨?_, ?_⟩)
  · rintro _ ⟨⟩
    exact made
  · rw [System.hostRank, hosted]
    exact le_rfl
  · rintro target host ⟨⟩

theorem Inv.put (held : Inv s) (chainOk : ChainOk s (frame :: callers))
    (made : view.made = s.made) (ambient : CtxOk s (s.hostRank frame.kind) view.ctx) :
    Inv (s.put chain view frame.kind callers) := by
  have stored : (s.store view).made = s.made := made
  exact held.setChain stored rfl rfl (chainOk.setCtx ambient)

theorem hostRank_le_made (held : Inv s) (frameOk : FrameOk s frame) {other : System}
    (byRun : other.byRun = s.byRun) (later : Later s other) :
    other.hostRank frame.kind ≤ other.rank s.made := by
  rw [later.hostRank frameOk.hostMade, System.rank, byRun, held.unmade s.made le_rfl]
  unfold System.hostRank
  cases hosted : frame.kind.host with
  | none => exact bot_le
  | some loop =>
      have made := frameOk.hostMade loop hosted
      simp only [Option.elim_some, WithBot.coe_le_coe, System.rank]
      split <;> simp <;> omega

theorem Inv.enter (held : Inv s) (chainOk : ChainOk s (frame :: callers)) {koil : Nat}
    (entered : (s.view frame.ctx).enter frame.kind.running koil = .ok view) :
    Inv (s.put chain view frame.kind callers) := by
  have frameOk := chainOk.each frame List.mem_cons_self
  rcases enter_cases entered with ⟨_, started⟩ | ⟨_, shared⟩
  · have made : (s.store view).made = s.made + 1 := by rw [started]; rfl
    have byRun : (s.store view).byRun = s.byRun := rfl
    have ambient : view.ctx.getD .globalKoilLoop = .loop s.made := by
      rw [started]
      exact setAmbient_loop ..
    refine held.setChain_made made (fun loop _ => congrFun byRun loop) rfl fun later => ?_
    refine (chainOk.later later).setCtx (.of_ambient ambient ?_ ?_)
    · exact made ▸ Nat.lt_succ_self s.made
    · exact hostRank_le_made held frameOk byRun later
  · rw [shared]
    exact held.put chainOk rfl frameOk.ambient

theorem Inv.exit (held : Inv s) (chainOk : ChainOk s (frame :: callers)) (koil : Nat)
    (joined : Bool) :
    Inv (s.put chain ((s.view frame.ctx).exit frame.kind.running koil joined).state frame.kind
      callers) := by
  have frameOk := chainOk.each frame List.mem_cons_self
  obtain ⟨made, same | cleared⟩ := exit_ctx (s.view frame.ctx) frame.kind.running koil joined
  · exact held.put chainOk made (same ▸ frameOk.ambient)
  · refine held.put chainOk made (.of_nothing ?_)
    rw [cleared]
    exact setAmbient_loop (s.view frame.ctx) .nothing .nothing

theorem Inv.aenter (held : Inv s) (chainOk : ChainOk s (frame :: callers)) {loop : Nat}
    (running : frame.kind.running = some loop) (koil : Nat) :
    Inv (s.put chain ((s.view frame.ctx).aenter (some loop) koil) frame.kind callers) := by
  have hosted := Kind.host_of_running running
  have made := (chainOk.each frame List.mem_cons_self).hostMade loop hosted
  refine held.put chainOk rfl (.of_ambient ?_ made ?_)
  · simp [Koils.State.aenter, Context.getD]
  · rw [System.hostRank, hosted]
    exact le_rfl

theorem Inv.aexit (held : Inv s) (chainOk : ChainOk s (frame :: callers)) :
    Inv (s.put chain (s.view frame.ctx).aexit frame.kind callers) := by
  have frameOk := chainOk.each frame List.mem_cons_self
  refine held.put chainOk rfl (frameOk.ambient.congr ?_)
  simp [Koils.State.aexit, Context.getD, Context.set, System.view]

/-- A plain thread may take over any context, since it ranks below all loops. -/
theorem Inv.thread (held : Inv s) (ambient : CtxOk s host ctx) : Inv (s.start ⟨.thread, ctx⟩) :=
  held.start ⟨nofun, ambient.mono bot_le⟩

theorem Inv.createTask (held : Inv s) (frameOk : FrameOk s frame) {loop : Nat}
    (running : frame.kind.running = some loop) : Inv (s.start ⟨.task loop, frame.ctx⟩) := by
  have hosted := Kind.host_of_running running
  have ranks : s.hostRank (.task loop) = s.hostRank frame.kind := by
    rw [System.hostRank, System.hostRank, hosted]
    rfl
  refine held.start ⟨?_, frameOk.ambient.mono ranks.le⟩
  rintro _ ⟨⟩
  exact frameOk.hostMade loop hosted

theorem Inv.asyncioRun (held : Inv s) (chainOk : ChainOk s (frame :: callers))
    (thread : frame.kind = .thread) :
    Inv (s.makeLoop.setChain chain (⟨.main s.made, frame.ctx⟩ :: frame :: callers)) := by
  have frameOk := chainOk.each frame List.mem_cons_self
  have made : s.makeLoop.made = s.made + 1 := rfl
  have byRun : ∀ loop, loop ≠ s.made → s.makeLoop.byRun loop = s.byRun loop :=
    fun _ differs => Function.update_of_ne differs _ _
  refine held.setChain_made made byRun rfl fun later => ?_
  refine (chainOk.later later).push ⟨?_, ?_⟩ ⟨?_, ?_⟩
  · rintro _ ⟨⟩
    exact Nat.lt_succ_self s.made
  · intro loop ambient
    have before : loop < s.made := (frameOk.ambient loop ambient).1
    refine ⟨before.trans (Nat.lt_succ_self s.made), ?_⟩
    have lowest : s.makeLoop.rank s.made = -(s.made + 1 : ℤ) := by
      simp [System.rank, System.makeLoop]
    rw [System.hostRank, Kind.host, Option.elim_some, lowest, later.rank before, System.rank,
      WithBot.coe_le_coe]
    split <;> omega
  · rw [thread]
    exact bot_le
  · rintro target host ⟨⟩

theorem inv_act (held : Inv s) (chainOk : ChainOk s (frame :: callers)) (action : Action)
    (taken : s.act chain frame callers action = some s') : Inv s' := by
  have frameOk := chainOk.each frame List.mem_cons_self
  cases action with
  | unkoil advice =>
      obtain ⟨loop, got, rfl⟩ := Option.map_eq_some_iff.mp taken
      exact held.unkoil chainOk (eq_ok_of_toOption got)
  | runThreaded bridged event =>
      obtain ⟨loop, running, rfl⟩ := Option.map_eq_some_iff.mp taken
      exact held.runThreaded chainOk running bridged event
  | returns =>
      cases taken
      exact held.ended frame.kind chainOk.returnTo
  | raises =>
      cases taken
      exact held.ended frame.kind chainOk.tail
  | enter koil =>
      obtain ⟨view, entered, rfl⟩ := Option.map_eq_some_iff.mp taken
      exact held.enter chainOk (eq_ok_of_toOption entered)
  | exit koil joined =>
      cases taken
      exact held.exit chainOk koil joined
  | aenter koil =>
      obtain ⟨loop, running, rfl⟩ := Option.map_eq_some_iff.mp taken
      exact held.aenter chainOk running koil
  | aexit =>
      obtain ⟨_, _, rfl⟩ := Option.map_eq_some_iff.mp taken
      exact held.aexit chainOk
  | createTask =>
      obtain ⟨loop, running, rfl⟩ := Option.map_eq_some_iff.mp taken
      exact held.createTask frameOk running
  | asyncioRun =>
      obtain ⟨thread, same⟩ := Option.ite_none_right_eq_some.mp taken
      cases same
      exact held.asyncioRun chainOk thread

end steps

theorem inv_step (s : System) (label : Label) (s' : System) (held : Inv s)
    (taken : step s label = some s') : Inv s' := by
  cases label with
  | thread copied =>
      cases copied with
      | none =>
          cases taken
          exact held.thread (show CtxOk _ ⊥ .empty from .of_nothing rfl)
      | some chain =>
          simp only [step] at taken
          split at taken
          · next frame callers found =>
              cases taken
              have chainOk := held.chains _ (List.mem_of_getElem? found)
              exact held.thread (chainOk.each frame List.mem_cons_self).ambient
          · cases taken
  | act chain action =>
      simp only [step] at taken
      split at taken
      · next frame callers found =>
          obtain ⟨_, taken⟩ := Option.ite_none_right_eq_some.mp taken
          exact inv_act held (held.chains _ (List.mem_of_getElem? found)) action taken
      · cases taken
  | giveUp chain depth =>
      obtain ⟨frames, found, rfl⟩ := Option.map_eq_some_iff.mp taken
      have chainOk := held.chains _ (List.mem_of_getElem? found)
      have below : Inv (s.setChain chain (frames.drop depth)) :=
        held.setChain rfl rfl rfl (chainOk.drop depth)
      refine below.step_to ⟨le_rfl, fun _ _ => rfl⟩ held.unmade fun other member => ?_
      rcases List.mem_append.mp member with before | new
      · exact .inl before
      · obtain rfl := List.mem_singleton.mp new
        exact .inr ((chainOk.take depth).later ⟨le_rfl, fun _ _ => rfl⟩)

theorem inv_start (syncInAsync : Nat → Bool) : Inv (start syncInAsync) :=
  ⟨fun _ _ => rfl, nofun⟩

/-- A loop's thread comes after all that belongs to the loop, and a frame before the
frames that it called. -/
def System.height (s : System) : Node → WithBot ℤ ×ₗ WithTop ℤ
  | .loop loop => toLex ((s.rank loop : WithBot ℤ), ⊤)
  | .frame chain depth =>
      toLex ((s.frameAt chain depth).elim ⊥ fun frame => s.hostRank frame.kind,
        ((-depth : ℤ) : WithTop ℤ))

theorem frameAt_ok (held : Inv s) {chain depth : Nat} {frame : Frame}
    (found : s.frameAt chain depth = some frame) : FrameOk s frame := by
  obtain ⟨frames, foundChain, foundFrame⟩ := Option.bind_eq_some_iff.mp found
  exact (held.chains _ (List.mem_of_getElem? foundChain)).each _
    (List.mem_of_getElem? foundFrame)

theorem frameAt_call (held : Inv s) {chain depth : Nat} {caller callee : Frame}
    (below : s.frameAt chain (depth + 1) = some caller)
    (above : s.frameAt chain depth = some callee) : CallOk s callee caller := by
  obtain ⟨frames, foundChain, foundCaller⟩ := Option.bind_eq_some_iff.mp below
  obtain ⟨_, sameChain, foundCallee⟩ := Option.bind_eq_some_iff.mp above
  obtain rfl := Option.some.inj (foundChain.symm.trans sameChain)
  obtain ⟨inside, rfl⟩ := List.getElem?_eq_some_iff.mp foundCaller
  obtain ⟨_, rfl⟩ := List.getElem?_eq_some_iff.mp foundCallee
  exact (held.chains _ (List.mem_of_getElem? foundChain)).calls.getElem depth inside

theorem height_rises (held : Inv s) (node other : Node) (edge : Waits s node other) :
    s.height node < s.height other := by
  cases edge with
  | call below above =>
      have call := frameAt_call held below above
      simp only [System.height, below, above, Option.elim_some, Prod.Lex.toLex_lt_toLex]
      rcases call.rises.lt_or_eq with lower | same
      · exact .inl lower
      · exact .inr ⟨same, WithTop.coe_lt_coe.mpr (by omega)⟩
  | turn at_ running =>
      simp only [System.height, at_, Option.elim_some, Prod.Lex.toLex_lt_toLex]
      refine .inr ⟨?_, WithTop.coe_lt_top _⟩
      simp [System.hostRank, Kind.host_of_running running]
  | blocked below running above unkoils =>
      have call := frameAt_call held below above
      simp only [System.height, above, Option.elim_some, Prod.Lex.toLex_lt_toLex]
      refine .inl ?_
      simpa [System.hostRank, unkoils, Kind.host] using call.blocking _ _ unkoils running

/-- In no reachable state does a loop or frame wait for itself, and no loop that an
`unkoil` is about to block on waits, over any number of others, for the calling frame. -/
theorem unkoil_never_deadlocks (syncInAsync : Nat → Bool) {history : List (System × Label)}
    {s : System} (run : Reaches step (start syncInAsync) history s) :
    (∀ node, ¬ Relation.TransGen (Waits s) node node) ∧
      ∀ chain frame callers advice loop, s.chains[chain]? = some (frame :: callers) →
        (s.view frame.ctx).getKoiledLoopOrRaise frame.kind.running advice = .ok loop →
        ¬ Relation.TransGen (Waits s) (.loop loop) (.frame chain 0) := by
  have held : Inv s := run.invariant (inv_start syncInAsync) inv_step
  refine ⟨fun node path => (lt_of_transGen (height_rises held) path).false, ?_⟩
  intro chain frame callers advice loop found got path
  have top : s.frameAt chain 0 = some frame := by simp [System.frameAt, found]
  have ambient := (getKoiledLoopOrRaise_ok_iff.mp got).1
  have below := ((frameAt_ok held top).ambient loop ambient).2
  have above := lt_of_transGen (height_rises held) path
  simp only [System.height, top, Option.elim_some, Prod.Lex.toLex_lt_toLex] at above
  rcases above with lower | ⟨_, past⟩
  · exact lower.not_ge below
  · exact not_top_lt past

/-- A coroutine of loop 0 has left an `async with` block, has started loop 1 since, and
blocks loop 0 on it. -/
def blocking : List Label :=
  [.thread none, .act 0 (.enter 0), .act 0 (.unkoil ""), .act 0 (.aenter 1), .act 0 .aexit,
    .act 0 (.enter 2), .act 0 (.unkoil ""), .act 0 (.runThreaded true 0)]

theorem unkoil_never_deadlocks_blocking : ∃ history s,
    Reaches step (start fun _ => true) history s ∧ s.blocked 0 = true ∧
      (∀ node, ¬ Relation.TransGen (Waits s) node node) ∧
      ∀ chain frame callers advice loop, s.chains[chain]? = some (frame :: callers) →
        (s.view frame.ctx).getKoiledLoopOrRaise frame.kind.running advice = .ok loop →
        ¬ Relation.TransGen (Waits s) (.loop loop) (.frame chain 0) := by
  have initial : Reaches step (start fun _ => true) [] (start fun _ => true) := .start
  have run := initial.follow blocking rfl
  exact ⟨_, _, run, rfl, unkoil_never_deadlocks (fun _ => true) run⟩

end Koil.LoopWaits
