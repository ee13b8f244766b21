import Koil.Koils
import Koil.Runs

/-! Chains of calls between plain threads, event loops and workers, and which of their
loops and frames wait for which others. -/

namespace Koil.LoopWaits

open Contexts Koils Runs

/-- What a frame is: a plain thread, the coroutine of an `asyncio.run`, a task that a
coroutine created, the coroutine of an `unkoil`, or the function of a `run_threaded` or
`run_threaded_bridged` that a coroutine of the loop awaits. -/
inductive Kind
  | thread
  | main (loop : Nat)
  | task (loop : Nat)
  | unkoiled (loop : Nat)
  | worker (loop : Nat) (bridged : Bool)
  deriving DecidableEq, Repr

/-- `asyncio.get_running_loop()` in the frame, `none` where it raises. -/
def Kind.running : Kind → Option Nat
  | .main loop | .task loop | .unkoiled loop => some loop
  | _ => none

def Kind.host : Kind → Option Nat
  | .thread => none
  | .main loop | .task loop | .unkoiled loop | .worker loop _ => some loop

structure Frame where
  kind : Kind
  ctx : Context

/-- The Koils, the loops, which of these `asyncio.run` made, and every chain of calls.
The first frame of a chain is the one that was called last. -/
structure System where
  koils : Nat → KoilObject
  closed : Nat → Bool
  made : Nat
  byRun : Nat → Bool
  chains : List (List Frame)

def start (syncInAsync : Nat → Bool) : System where
  koils koil := .fresh (syncInAsync koil)
  closed _ := false
  made := 0
  byRun _ := false
  chains := []

inductive Action
  | unkoil (advice : String)
  | runThreaded (bridged : Bool) (event : Nat)
  | returns
  | raises
  | enter (koil : Nat)
  | exit (koil : Nat) (joined : Bool)
  | aenter (koil : Nat)
  | aexit
  | createTask
  | asyncioRun
  deriving DecidableEq, Repr

/-- A plain thread starts, with an empty context or with a copy of that of a chain; the
first frame of a chain acts; or a caller stops waiting for the frames above it. -/
inductive Label
  | thread (copied : Option Nat)
  | act (chain : Nat) (action : Action)
  | giveUp (chain depth : Nat)
  deriving DecidableEq, Repr

def System.view (s : System) (ctx : Context) : Koils.State := ⟨s.koils, s.closed, s.made, ctx⟩

def System.setChain (s : System) (chain : Nat) (frames : List Frame) : System :=
  { s with chains := s.chains.set chain frames }

def System.start (s : System) (frame : Frame) : System :=
  { s with chains := s.chains ++ [[frame]] }

def System.store (s : System) (after : Koils.State) : System :=
  { s with koils := after.koils, closed := after.closed, made := after.made }

/-- The Koils, loops and context that the first frame of a chain has left behind. -/
def System.put (s : System) (chain : Nat) (after : Koils.State) (kind : Kind)
    (callers : List Frame) : System :=
  (s.store after).setChain chain (⟨kind, after.ctx⟩ :: callers)

def System.makeLoop (s : System) : System :=
  { s with made := s.made + 1, byRun := Function.update s.byRun s.made true }

/-- What the caller's context becomes when the called frame returns. -/
def Frame.copiesOut (callee : Frame) (caller : Context) : Context :=
  match callee.kind with
  | .unkoiled _ => caller.setItems callee.ctx
  | .worker _ true => caller.propagateContextOut callee.ctx
  | _ => caller

def Frame.returnTo (callee : Frame) : List Frame → List Frame
  | [] => []
  | caller :: callers => ⟨caller.kind, callee.copiesOut caller.ctx⟩ :: callers

def System.ended (s : System) : Kind → System
  | .main loop => { s with closed := Function.update s.closed loop true }
  | _ => s

/-- The first frame of a chain does something, where its callers are waiting below it. -/
def System.act (s : System) (chain : Nat) (frame : Frame) (callers : List Frame) :
    Action → Option System
  | .unkoil advice =>
      ((s.view frame.ctx).getKoiledLoopOrRaise frame.kind.running advice).toOption.map
        fun loop => s.setChain chain (⟨.unkoiled loop, frame.ctx⟩ :: frame :: callers)
  | .runThreaded bridged event =>
      frame.kind.running.map fun loop =>
        s.setChain chain
          (⟨.worker loop bridged, frame.ctx.forWorker loop event⟩ :: frame :: callers)
  | .returns => some ((s.ended frame.kind).setChain chain (frame.returnTo callers))
  | .raises => some ((s.ended frame.kind).setChain chain callers)
  | .enter koil =>
      ((s.view frame.ctx).enter frame.kind.running koil).toOption.map
        fun after => s.put chain after frame.kind callers
  | .exit koil joined =>
      some (s.put chain ((s.view frame.ctx).exit frame.kind.running koil joined).state
        frame.kind callers)
  | .aenter koil =>
      frame.kind.running.map fun loop =>
        s.put chain ((s.view frame.ctx).aenter (some loop) koil) frame.kind callers
  | .aexit =>
      frame.kind.running.map fun _ =>
        s.put chain (s.view frame.ctx).aexit frame.kind callers
  | .createTask =>
      frame.kind.running.map fun loop => s.start ⟨.task loop, frame.ctx⟩
  | .asyncioRun =>
      if frame.kind = .thread then
        some (s.makeLoop.setChain chain (⟨.main s.made, frame.ctx⟩ :: frame :: callers))
      else none

/-- Some coroutine of the loop is in `unkoil`, where it blocks the loop's thread. -/
def blocks (loop : Nat) : List Frame → Bool
  | callee :: caller :: callers =>
      (match callee.kind with
        | .unkoiled _ => caller.kind.running == some loop
        | _ => false) || blocks loop (caller :: callers)
  | _ => false

def System.blocked (s : System) (loop : Nat) : Bool := s.chains.any (blocks loop)

def System.canRun (s : System) (frame : Frame) : Bool :=
  frame.kind.running.all fun loop => !s.blocked loop

def step (s : System) : Label → Option System
  | .thread none => some (s.start ⟨.thread, .empty⟩)
  | .thread (some chain) =>
      match s.chains[chain]? with
      | some (frame :: _) => some (s.start ⟨.thread, frame.ctx⟩)
      | _ => none
  | .act chain action =>
      match s.chains[chain]? with
      | some (frame :: callers) =>
          if s.canRun frame then s.act chain frame callers action else none
      | _ => none
  | .giveUp chain depth =>
      -- the grace period of a cancelled `run_threaded` or `unkoil` ends, or a Ctrl+C
      -- ends the wait: what was called goes on as a chain of its own
      s.chains[chain]?.map fun frames =>
        { s with chains := s.chains.set chain (frames.drop depth) ++ [frames.take depth] }

inductive Node
  | loop (loop : Nat)
  | frame (chain depth : Nat)
  deriving DecidableEq, Repr

def System.frameAt (s : System) (chain depth : Nat) : Option Frame :=
  s.chains[chain]?.bind fun frames => frames[depth]?

/-- Which loop or frame cannot go on before which other one has: a caller waits for what
it called, a coroutine for the thread of its loop, and a loop whose thread is blocked in
`unkoil` for the coroutine that the `unkoil` waits for. -/
inductive Waits (s : System) : Node → Node → Prop
  | call {chain depth : Nat} {caller callee : Frame}
      (below : s.frameAt chain (depth + 1) = some caller)
      (above : s.frameAt chain depth = some callee) :
      Waits s (.frame chain (depth + 1)) (.frame chain depth)
  | turn {chain depth loop : Nat} {frame : Frame} (at_ : s.frameAt chain depth = some frame)
      (running : frame.kind.running = some loop) : Waits s (.frame chain depth) (.loop loop)
  | blocked {chain depth loop target : Nat} {caller callee : Frame}
      (below : s.frameAt chain (depth + 1) = some caller)
      (running : caller.kind.running = some loop)
      (above : s.frameAt chain depth = some callee) (unkoils : callee.kind = .unkoiled target) :
      Waits s (.loop loop) (.frame chain depth)

end Koil.LoopWaits
