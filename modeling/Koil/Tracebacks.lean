import Koil.Pruning
import Koil.Submission

/-! The traceback of an exception on its way through koil's crossings. -/

namespace Koil.Tracebacks

open Pruning Race

/-- The frames an exception passes through: user code's, koil's by the name of their
function, and those of `concurrent.futures`. `result` is `KoilFuture.result`. -/
inductive Entry
  | user (frame : Nat)
  | contextFuture
  | passedWithContext
  | futuresGetResult
  | futuresResult
  | result
  | unkoil
  | unkoilWithTimeout
  | unkoilGen
  | unkoilGenWithTimeout
  | body
  | wrapper
  | step
  | workItemRun
  | sharedRunThreaded
  | runThreaded
  | runThreadedBridged
  | sharedIterateThreaded
  deriving DecidableEq, Repr

inductive Module
  | user
  | koilUtils
  | koilBridge
  | futuresBase
  | futuresThread
  deriving DecidableEq, Repr

def Entry.module : Entry → Module
  | .user _ => .user
  | .contextFuture | .passedWithContext | .result => .koilUtils
  | .futuresGetResult | .futuresResult => .futuresBase
  | .workItemRun => .futuresThread
  | _ => .koilBridge

def Entry.tracebackhide : Entry → Bool
  | .contextFuture | .passedWithContext | .result => true
  | .body | .wrapper | .step | .sharedRunThreaded => true
  | _ => false

def hiddenModules : List Module := [.futuresBase, .futuresThread]

def isHidden (entry : Entry) : Bool :=
  entry.tracebackhide || hiddenModules.contains entry.module

/-- `prune_traceback` on the exception's own traceback. Where the exception does not let its
`__traceback__` be assigned, `_prune_one` fails and the call swallows the failure. -/
def pruneTraceback (assignable keepBoundary : Bool) (traceback : List Entry) : List Entry :=
  if assignable then prune isHidden keepBoundary traceback else traceback

/-- What happens to the traceback: a function that the exception passes through prepends
its entry, or one that has caught it prunes. -/
inductive Op
  | through (entry : Entry)
  | prune (keepBoundary : Bool)
  deriving DecidableEq, Repr

def Op.run (assignable : Bool) (traceback : List Entry) : Op → List Entry
  | .through entry => entry :: traceback
  | .prune keepBoundary => pruneTraceback assignable keepBoundary traceback

def follow (assignable : Bool) (ops : List Op) (traceback : List Entry) : List Entry :=
  ops.foldl (Op.run assignable) traceback

inductive Crossing
  | unkoil
  | unkoilWithTimeout
  | unkoilGen
  | unkoilGenWithTimeout
  | taskResult
  | runThreaded
  | runThreadedBridged
  | iterateThreaded
  deriving DecidableEq, Repr

def Crossing.marker : Crossing → Entry
  | .unkoil => .unkoil
  | .unkoilWithTimeout => .unkoilWithTimeout
  | .unkoilGen => .unkoilGen
  | .unkoilGenWithTimeout => .unkoilGenWithTimeout
  | .taskResult => .result
  | .runThreaded => .runThreaded
  | .runThreadedBridged => .runThreadedBridged
  | .iterateThreaded => .sharedIterateThreaded

/-- `passed_with_context`: it prunes an exception whose truth value is true. -/
def loopSide (exc : Exc) : List Op :=
  [.through .contextFuture] ++ (if exc.truthy then [.prune false] else []) ++
    [.through .passedWithContext]

/-- `KoilFuture.result`, with two clauses that prune nothing. -/
def callerSide (exc : Exc) : List Op :=
  [.through .futuresGetResult, .through .futuresResult, .through .result] ++
    if exc.isA .koilCancelledError || exc.isA .keyboardInterrupt then [] else [.prune true]

/-- `_run_threaded` around a function in the pool. -/
def workerSide : List Op :=
  [.through .body, .through .wrapper, .through .workItemRun, .through .sharedRunThreaded]

/-- The `except BaseException` clause of the function that the user called. -/
def boundary (entry : Entry) : List Op := [.through entry, .prune true]

/-- A crossing up to the frame of the function that the user called; `result` is such a
function itself and hidden. -/
def Crossing.inside (exc : Exc) : Crossing → List Op
  | .unkoil | .unkoilWithTimeout | .unkoilGen | .unkoilGenWithTimeout | .taskResult =>
      loopSide exc ++ callerSide exc
  | .runThreaded | .runThreadedBridged => workerSide
  | .iterateThreaded => [.through .step] ++ workerSide

def Crossing.outside : Crossing → List Op
  | .taskResult => []
  | crossing => boundary crossing.marker

def Crossing.ops (exc : Exc) (crossing : Crossing) : List Op :=
  crossing.inside exc ++ crossing.outside

/-- The exception itself comes out of the crossing: neither the interpreter nor a future
replaces it, no loop stops over it, and no generator takes it for its end. -/
def Crossing.passes (exc : Exc) : Crossing → Bool
  | .unkoil | .unkoilWithTimeout | .taskResult => crossesWhole exc
  | .unkoilGen | .unkoilGenWithTimeout => crossesWhole exc && !exc.isA .stopAsyncIteration
  | .runThreaded | .runThreadedBridged =>
      !exc.isA .stopIteration && !exc.isA .asyncioCancelledError && !exc.isConverted
  | .iterateThreaded =>
      !exc.isA .stopIteration && !exc.isA .asyncioCancelledError && !exc.isConverted &&
        !exc.isA .koilStopIteration

section follow

variable (assignable : Bool)

@[simp] theorem follow_nil (traceback : List Entry) : follow assignable [] traceback = traceback :=
  rfl

@[simp] theorem follow_cons (op : Op) (ops : List Op) (traceback : List Entry) :
    follow assignable (op :: ops) traceback = follow assignable ops (op.run assignable traceback) :=
  rfl

@[simp] theorem follow_append (first second : List Op) (traceback : List Entry) :
    follow assignable (first ++ second) traceback =
      follow assignable second (follow assignable first traceback) :=
  List.foldl_append ..

end follow

theorem isHidden_marker_iff (crossing : Crossing) :
    isHidden crossing.marker = true ↔ crossing = .taskResult := by
  cases crossing <;> decide

theorem visible_follow (assignable : Bool) (ops : List Op) (traceback : List Entry)
    (hidden : ∀ entry, Op.through entry ∈ ops → isHidden entry = true) :
    visible isHidden (follow assignable ops traceback) = visible isHidden traceback := by
  induction ops generalizing traceback with
  | nil => rfl
  | cons op rest ih =>
      rw [follow_cons, ih _ (fun entry member => hidden entry (List.mem_cons_of_mem _ member))]
      cases op with
      | through entry => exact visible_cons_hidden (hidden entry List.mem_cons_self)
      | prune keepBoundary =>
          cases assignable with
          | false => rfl
          | true => exact visible_prune keepBoundary traceback

/-- An exception on its way out: raised in a user frame, with the user frames between that
one and the innermost crossing, and taken through crossings with user frames around them. -/
inductive Chain
  | raised (outer : List Nat) (frame : Nat)
  | crossed (outer : List Nat) (crossing : Crossing) (inner : Chain)
  deriving DecidableEq, Repr

def Chain.seen (exc : Exc) (assignable : Bool) : Chain → Option (List Entry)
  | .raised outer frame => some (outer.map .user ++ [.user frame])
  | .crossed outer crossing inner =>
      if crossing.passes exc then
        (inner.seen exc assignable).map fun traceback =>
          outer.map .user ++ follow assignable (crossing.ops exc) traceback
      else none

def Chain.expected : Chain → List Entry
  | .raised outer frame => outer.map .user ++ [.user frame]
  | .crossed outer crossing inner => outer.map .user ++ crossing.marker :: inner.expected

/-- The outermost caller gets the exception with the traceback that it should have, and no
frame of `concurrent.futures` in it. -/
def Chain.Clean (exc : Exc) (assignable : Bool) (chain : Chain) : Prop :=
  ∃ traceback, chain.seen exc assignable = some traceback ∧ traceback = chain.expected ∧
    ∀ entry ∈ traceback, entry.module ∉ hiddenModules

def Chain.passes (exc : Exc) : Chain → Bool
  | .raised _ _ => true
  | .crossed _ crossing inner => crossing.passes exc && inner.passes exc

theorem follow_boundary {before : List Op} {traceback : List Entry} (marker : Entry)
    (hidden : ∀ entry, Op.through entry ∈ before → isHidden entry = true)
    (seen : visible isHidden traceback ≠ []) :
    follow true (before ++ boundary marker) traceback = marker :: visible isHidden traceback := by
  have same := visible_follow true before traceback hidden
  simp only [follow_append, boundary, follow_cons, follow_nil, Op.run, pruneTraceback, if_true]
  rw [prune_head_of_visible (by rwa [same]), same]

theorem hidden_loopSide (exc : Exc) (entry : Entry) (member : Op.through entry ∈ loopSide exc) :
    isHidden entry = true := by
  unfold loopSide at member
  cases truth : exc.truthy <;> simp [truth] at member <;> rcases member with rfl | rfl <;> rfl

theorem hidden_callerSide (exc : Exc) (entry : Entry)
    (member : Op.through entry ∈ callerSide exc) : isHidden entry = true := by
  unfold callerSide at member
  split at member <;> simp at member <;> rcases member with rfl | rfl | rfl <;> rfl

theorem hidden_workerSide (entry : Entry) (member : Op.through entry ∈ workerSide) :
    isHidden entry = true := by
  simp only [workerSide, List.mem_cons, Op.through.injEq, List.not_mem_nil, or_false] at member
  rcases member with rfl | rfl | rfl | rfl <;> rfl

theorem hidden_inside (exc : Exc) (crossing : Crossing) (entry : Entry)
    (member : Op.through entry ∈ crossing.inside exc) : isHidden entry = true := by
  have bridge : ∀ entry, Op.through entry ∈ loopSide exc ++ callerSide exc →
      isHidden entry = true := by
    intro entry member
    rcases List.mem_append.mp member with loop | caller
    · exact hidden_loopSide exc entry loop
    · exact hidden_callerSide exc entry caller
  cases crossing with
  | unkoil | unkoilWithTimeout | unkoilGen | unkoilGenWithTimeout | taskResult =>
      exact bridge entry member
  | runThreaded | runThreadedBridged => exact hidden_workerSide entry member
  | iterateThreaded =>
      rcases List.mem_cons.mp member with step | worker
      · cases step
        rfl
      · exact hidden_workerSide entry worker

/-- An exception of a frozen dataclass keeps every frame. -/
example : Chain.seen (.of .valueError "boom") false (.crossed [] .runThreaded (.raised [0] 1)) =
    some [.runThreaded, .sharedRunThreaded, .workItemRun, .wrapper, .body, .user 0, .user 1] := by
  decide

end Koil.Tracebacks
