import GearSandbox.Handlers

set_option autoImplicit false

/- The syscall table: every handler of `FuncsHandler` under its name, the arguments each one
   accepts, and a guest call, in which the sandbox invokes syscalls one after another until one
   of them traps. -/
namespace Gear.Sandbox

inductive Syscall where
  | send | sendWgas | sendCommit | sendCommitWgas | sendInit | sendPush
  | read | size | exit | exitCode | gas | alloc | free | blockHeight | blockTimestamp | origin
  | reply | replyWgas | replyCommit | replyCommitWgas | replyTo | replyPush
  | debug | gasAvailable | msgId | programId | source | value | valueAvailable
  | leave | wait | waitFor | waitUpTo | wake | createProgram | createProgramWgas
  | error | forbidden
deriving DecidableEq, Repr

namespace Syscall

variable {σ ε : Type} (E : Ext σ ε) (K : Config)

def handler : Syscall → Handler σ ε
  | .send => FuncsHandler.send E K
  | .sendWgas => FuncsHandler.sendWgas E K
  | .sendCommit => FuncsHandler.sendCommit E
  | .sendCommitWgas => FuncsHandler.sendCommitWgas E
  | .sendInit => FuncsHandler.sendInit E
  | .sendPush => FuncsHandler.sendPush E
  | .read => FuncsHandler.read E K
  | .size => FuncsHandler.size E
  | .exit => FuncsHandler.exit E
  | .exitCode => FuncsHandler.exitCode E
  | .gas => FuncsHandler.gas E
  | .alloc => FuncsHandler.alloc E
  | .free => FuncsHandler.free E
  | .blockHeight => FuncsHandler.blockHeight E
  | .blockTimestamp => FuncsHandler.blockTimestamp E
  | .origin => FuncsHandler.origin E
  | .reply => FuncsHandler.reply E K
  | .replyWgas => FuncsHandler.replyWgas E K
  | .replyCommit => FuncsHandler.replyCommit E
  | .replyCommitWgas => FuncsHandler.replyCommitWgas E
  | .replyTo => FuncsHandler.replyTo E
  | .replyPush => FuncsHandler.replyPush E
  | .debug => FuncsHandler.debug E K
  | .gasAvailable => FuncsHandler.gasAvailable E
  | .msgId => FuncsHandler.msgId E
  | .programId => FuncsHandler.programId E
  | .source => FuncsHandler.source E
  | .value => FuncsHandler.value E
  | .valueAvailable => FuncsHandler.valueAvailable E
  | .leave => FuncsHandler.leave E
  | .wait => FuncsHandler.wait E
  | .waitFor => FuncsHandler.waitFor E
  | .waitUpTo => FuncsHandler.waitUpTo E
  | .wake => FuncsHandler.wake E
  | .createProgram => FuncsHandler.createProgram E K
  | .createProgramWgas => FuncsHandler.createProgramWgas E K
  | .error => FuncsHandler.error E
  | .forbidden => FuncsHandler.forbidden E

-- Every `pop_i32`/`pop_i64` of the handler succeeds on `args`.
def Decodes (ε : Type) : Syscall → List Value → Prop
  | .send, args => (FuncsHandler.sendArgs (ε := ε) K args).isOk
  | .sendWgas, args => (FuncsHandler.sendWgasArgs (ε := ε) K args).isOk
  | .sendCommit, args => (FuncsHandler.sendCommitArgs (ε := ε) args).isOk
  | .sendCommitWgas, args => (FuncsHandler.sendCommitWgasArgs (ε := ε) args).isOk
  | .sendInit, args => (FuncsHandler.sendInitArgs (ε := ε) args).isOk
  | .sendPush, args => (FuncsHandler.sendPushArgs (ε := ε) args).isOk
  | .read, args => (FuncsHandler.readArgs K args).isOk
  | .exit, args => (FuncsHandler.exitArgs (ε := ε) args).isOk
  | .reply, args => (FuncsHandler.replyArgs (ε := ε) K args).isOk
  | .replyWgas, args => (FuncsHandler.replyWgasArgs (ε := ε) K args).isOk
  | .replyCommit, args => (FuncsHandler.replyCommitArgs (ε := ε) args).isOk
  | .replyCommitWgas, args => (FuncsHandler.replyCommitWgasArgs (ε := ε) args).isOk
  | .replyPush, args => (FuncsHandler.replyPushArgs (ε := ε) args).isOk
  | .debug, args => (FuncsHandler.debugArgs (ε := ε) K args).isOk
  | .waitFor, args | .waitUpTo, args => (FuncsHandler.durationArgs (ε := ε) args).isOk
  | .wake, args => (FuncsHandler.wakeArgs (ε := ε) args).isOk
  | .createProgram, args => (FuncsHandler.createProgramArgs (ε := ε) K args).isOk
  | .createProgramWgas, args => (FuncsHandler.createProgramWgasArgs (ε := ε) K args).isOk
  | .gas, args | .alloc, args | .free, args | .origin, args | .replyTo, args | .msgId, args
  | .programId, args | .source, args | .value, args | .valueAvailable, args | .error, args =>
    (popI32 .u32 args).isOk
  | .size, _ | .exitCode, _ | .blockHeight, _ | .blockTimestamp, _ | .gasAvailable, _
  | .leave, _ | .wait, _ | .forbidden, _ => True

end Syscall

-- The identifier of 32 zero bytes.
def zeroBytes : {bytes : Bytes // bytes.length = 32} := ⟨List.replicate 32 0, List.length_replicate _ _⟩

-- An extension that answers every operation alike: with `n` (or the message `1, 2, .., n`, or
-- zero identifiers) when `outcome` is `ok n`, and with its one error `()` otherwise. That error is
-- a gas-allowance error to `as_termination_reason`, and no error the guest may handle.
def Ext.uniform (outcome : Except Unit Nat) : Ext Unit Unit where
  send _ _ _ := (outcome.map fun _ => ⟨zeroBytes.1, zeroBytes.2⟩, ())
  sendCommit _ _ _ _ := (outcome.map fun _ => ⟨zeroBytes.1, zeroBytes.2⟩, ())
  sendInit _ := (outcome, ())
  sendPush _ _ _ := (outcome.map fun _ => (), ())
  read _ := (outcome.map fun n => (List.range n).map fun i => (i + 1).toUInt8, ())
  size _ := (outcome, ())
  exit _ := (outcome.map fun _ => (), ())
  exitCode _ := (outcome.map fun _ => none, ())
  gas _ _ := (outcome.map fun _ => (), ())
  alloc _ _ memory := (outcome, (), memory)
  free _ _ := (outcome.map fun _ => (), ())
  blockHeight _ := (outcome, ())
  blockTimestamp _ := (outcome, ())
  origin _ := (outcome.map fun _ => ⟨zeroBytes.1, zeroBytes.2⟩, ())
  reply _ _ _ := (outcome.map fun _ => ⟨zeroBytes.1, zeroBytes.2⟩, ())
  replyCommit _ _ _ := (outcome.map fun _ => ⟨zeroBytes.1, zeroBytes.2⟩, ())
  replyTo _ := (outcome.map fun _ => some ⟨zeroBytes.1, zeroBytes.2⟩, ())
  replyPush _ _ := (outcome.map fun _ => (), ())
  debug _ _ := (outcome.map fun _ => (), ())
  gasAvailable _ := (outcome, ())
  messageId _ := (outcome.map fun _ => ⟨zeroBytes.1, zeroBytes.2⟩, ())
  programId _ := (outcome.map fun _ => ⟨zeroBytes.1, zeroBytes.2⟩, ())
  source _ := (outcome.map fun _ => ⟨zeroBytes.1, zeroBytes.2⟩, ())
  value _ := (outcome, ())
  valueAvailable _ := (outcome, ())
  leave _ := (outcome.map fun _ => (), ())
  wait _ := (outcome.map fun _ => (), ())
  waitFor _ _ := (outcome.map fun _ => (), ())
  waitUpTo _ _ := (outcome.map fun _ => (), ())
  wake _ _ _ := (outcome.map fun _ => (), ())
  createProgram _ _ _ := (outcome.map fun _ => ⟨zeroBytes.1, zeroBytes.2⟩, ())
  lastError _ := none
  asTerminationReason _ := some .GasAllowanceExceeded
  intoExtError e := .error e
  forbiddenFunction := ()

variable {σ ε : Type} (E : Ext σ ε) (K : Config)

-- A guest call invokes syscalls in order; the first that traps ends it. The flag says whether
-- one trapped.
def guestCall : List (Syscall × List Value) → Runtime σ ε → Bool × Runtime σ ε
  | [], rt => (false, rt)
  | (h, args) :: calls, rt =>
    match run (h.handler E K) args rt with
    | (.ok _, rt') => guestCall calls rt'
    | (.error _, rt') => (true, rt')

-- A relation between contexts that every call of a guest call establishes, and that composes,
-- holds across the whole guest call.
theorem guestCall_induction {calls : List (Syscall × List Value)} (R : Runtime σ ε → Runtime σ ε → Prop)
    (refl : ∀ rt, R rt rt) (trans : ∀ {rt₁ rt₂ rt₃}, R rt₁ rt₂ → R rt₂ rt₃ → R rt₁ rt₃)
    (step : ∀ call ∈ calls, ∀ rt, R rt (run (call.1.handler E K) call.2 rt).2) (rt : Runtime σ ε) :
    R rt (guestCall E K calls rt).2 := by
  induction calls generalizing rt with
  | nil => exact refl rt
  | cons call calls ih =>
    obtain ⟨h, args⟩ := call
    have first := step (h, args) (List.mem_cons_self _ _) rt
    unfold guestCall
    split <;> rename_i ran <;> rw [ran] at first
    · exact trans first (ih (fun call listed => step call (List.mem_cons_of_mem _ listed)) _)
    · exact first

end Gear.Sandbox
