import Koil.Managers

/-! Programs of well-nested blocks: `with Koil()`, `async with Koil()`, `with` on a
`@koilable` object and `with koiled_cm(...)`. -/

namespace Koil.Managers

open Contexts Koils WithStatement

inductive Block
  | withKoil (koil : Nat)
  | asyncWithKoil (koil : Nat)
  | withKoilable (object : Nat)
  | withCm (cm : Nat)
  deriving DecidableEq, Repr

inductive Code (τ : Type)
  | pass
  | raising (exc : Exc)
  | checkCancelled
  | sleep (polls : Nat)
  | unkoil (advice : String) (coro : Coroutine τ Unit)
  | seq (first next : Code τ)
  | attempt (body handler : Code τ)
  | within (block : Block) (body : Code τ)

structure Objects (τ α : Type) where
  koilable : Nat → Manager τ α
  cm : Nat → Manager τ α

variable {τ α : Type}

def aenterKoil (env : Env) (koil : Nat) : Sync τ Unit :=
  modify fun w => { w with base := w.base.aenter env.running koil }

def aexitKoil : Sync τ Unit := modify fun w => { w with base := w.base.aexit }

def Block.enter (env : Env) (objects : Objects τ α) : Block → Sync τ Unit
  | .withKoil koil => enterKoil env koil
  | .asyncWithKoil koil => aenterKoil env koil
  | .withKoilable object => do
      let _ ← koiledEnter env (objects.koilable object) object
  | .withCm cm => do
      let _ ← cmEnter env (objects.cm cm) cm

def Block.exit (env : Env) (objects : Objects τ α) (exc : Option Exc) : Block → Sync τ Bool
  | .withKoil koil => do
      exitKoil env koil
      return false
  | .asyncWithKoil _ => do
      aexitKoil
      return false
  | .withKoilable object => koiledExit env (objects.koilable object) object exc
  | .withCm cm => cmExit env (objects.cm cm) cm exc

def checkCancelled : Sync τ Unit := fun w =>
  if w.isSet 0 then .error (.of .threadCancelledError "Task was cancelled") w.look
  else .ok () w.look

def sleepPolls : Nat → Sync τ Unit
  | 0 => fun w =>
      if w.isSet 0 then .error (.of .threadCancelledError "Sleep was cancelled") w.look
      else .ok () w.look
  | polls + 1 => fun w =>
      if w.isSet 0 then .error (.of .threadCancelledError "Sleep was cancelled") w.look
      else sleepPolls polls w.look

/-- `sleep(...)`, where the timer fires after the given number of further polls. -/
def sleep (env : Env) (polls : Nat) : Sync τ Unit := fun w =>
  match w.base.getKoiledLoopOrRaise env.running "" with
  | .error exc => if exc.isA .koilError then .ok () w else .error exc w
  | .ok _ => sleepPolls polls w

/-- The entries of a log, the latest first, that an earlier state of it does not have. -/
def newer {β : Type} (before after : List β) : List β := after.take (after.length - before.length)

@[simp] theorem newer_self {β : Type} (log : List β) : newer log log = [] := by simp [newer]

@[simp] theorem newer_cons {β : Type} (entry : β) (log : List β) :
    newer log (entry :: log) = [entry] := by simp [newer]

/-- One run of a block, in the states that it passes: before it is entered, when it is
entered or refused, when its body has ended, and when it is left. -/
structure Visit (τ : Type) where
  block : Block
  entry : World τ
  begun : World τ
  entered : Bool
  thrown : Option Exc
  left : World τ
  after : World τ

structure Run (τ : Type) where
  ended : EStateM.Result Exc (World τ) Unit
  visits : List (Visit τ)

def Block.leave (env : Env) (objects : Objects τ α) (block : Block)
    (ended : EStateM.Result Exc (World τ) Unit) : EStateM.Result Exc (World τ) Unit :=
  match WithStatement.leave (fun exc => block.exit env objects exc) ended with
  | .ok _ w => .ok () w
  | .error exc w => .error exc w

def Code.exec (env : Env) (objects : Objects τ α) : Code τ → World τ → Run τ
  | .pass, w => ⟨.ok () w, []⟩
  | .raising exc, w => ⟨.error exc w, []⟩
  | .checkCancelled, w => ⟨Managers.checkCancelled w, []⟩
  | .sleep polls, w => ⟨Managers.sleep env polls w, []⟩
  | .unkoil advice coro, w => ⟨Managers.unkoil env advice .other coro w, []⟩
  | .seq first next, w =>
      let run := first.exec env objects w
      match run.ended with
      | .ok _ w =>
          let rest := next.exec env objects w
          ⟨rest.ended, run.visits ++ rest.visits⟩
      | .error exc w => ⟨.error exc w, run.visits⟩
  | .attempt body handler, w =>
      let run := body.exec env objects w
      match run.ended with
      | .ok _ w => ⟨.ok () w, run.visits⟩
      | .error _ w =>
          let rest := handler.exec env objects w
          ⟨rest.ended, run.visits ++ rest.visits⟩
  | .within block body, w =>
      match block.enter env objects w with
      | .ok _ begun =>
          let run := body.exec env objects begun
          let ended := block.leave env objects run.ended
          ⟨ended, run.visits ++ [⟨block, w, begun, true, thrown run.ended, left run.ended,
            left ended⟩]⟩
      | .error exc begun => ⟨.error exc begun, [⟨block, w, begun, false, none, begun, begun⟩]⟩

theorem left_blockLeave (env : Env) (objects : Objects τ α) (block : Block)
    (ended : EStateM.Result Exc (World τ) Unit) :
    left (block.leave env objects ended) =
      left (block.exit env objects (thrown ended) (left ended)) := by
  rw [← left_leave (fun exc => block.exit env objects exc), Block.leave]
  cases WithStatement.leave (fun exc => block.exit env objects exc) ended <;> rfl

def Code.program (env : Env) (objects : Objects τ α) (code : Code τ) : Sync τ Unit :=
  fun w => (code.exec env objects w).ended

theorem within_program (env : Env) (objects : Objects τ α) (block : Block) (body : Code τ)
    (w : World τ) :
    left ((Code.within block body).program env objects w) =
      left (withStatement (block.enter env objects) (fun exc => block.exit env objects exc)
        (fun _ => body.program env objects) w) := by
  cases entered : block.enter env objects w with
  | ok value begun =>
      rw [withStatement_entered entered]
      simp only [Code.program, Code.exec, entered, Block.leave]
      cases WithStatement.leave (fun exc => block.exit env objects exc)
        (body.exec env objects begun).ended <;> rfl
  | error exc begun =>
      rw [withStatement_refused entered]
      simp only [Code.program, Code.exec, entered, left]

def idleManager : Manager Unit Unit where
  aenter := pure ()
  aexit _ := pure false
  awaitEnter := ""
  awaitExit := ""

def idleObjects : Objects Unit Unit := ⟨fun _ => idleManager, fun _ => idleManager⟩

def plainThread : Env := ⟨none, fun _ => true, fun _ => false, none⟩

end Koil.Managers
