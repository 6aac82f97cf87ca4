import GearSandbox.Syscalls

set_option autoImplicit false

/- The handlers that read guest memory before they call the extension do all their reads first,
   and reads only look at memory. A read that fails ends the call there: the handler traps with
   the read's error in `ctx.err`, and the extension and the memory are as they were. Before the
   reads come the pops, and a pop that fails ends any handler with the whole context untouched. -/
namespace Gear.Sandbox

variable {σ ε : Type}

-- The error the reads of `request` end in on `memory`, if they fail.
def readFailure {R : Type} (request : ReadM ε R) (memory : Bytes) : Option (ReadError ε) :=
  match request memory with
  | .error e => some e
  | .ok _ => none

-- The reads, popped from `args`, fail on `memory`.
def decodedReadFailure {R α : Type} (decode : ArgsM (ReadM ε R × α)) (args : List Value)
    (memory : Bytes) : Option (ReadError ε) :=
  match decode args with
  | .ok ((request, _), _) => readFailure request memory
  | .error _ => none

theorem readThenCall_of_readFailure {R α β : Type} {decode : ArgsM (ReadM ε R × α)}
    {call : α → R → FuncM σ ε β} {finish : β → SyscallM σ ε ReturnValue} {args : List Value}
    {rt : Runtime σ ε} {e : ReadError ε} (failing : decodedReadFailure decode args rt.host.memory = some e) :
    readThenCall decode call finish args rt = .error ⟨⟩ { rt with err := e.into } := by
  unfold decodedReadFailure at failing
  split at failing
  · rename_i request a rest decoded
    unfold readFailure at failing
    split at failing
    · rename_i e' read
      cases failing
      rw [readThenCall, closureSyscall, withArgs_of_ok decoded]
      simp [bind_apply, trapOnErr, reading, read]
    · cases failing
  · cases failing

-- Reads that succeed leave the host as it was: the closure then runs on what they read.
theorem readThenCall_of_read {R α β : Type} {decode : ArgsM (ReadM ε R × α)} {call : α → R → FuncM σ ε β}
    {finish : β → SyscallM σ ε ReturnValue} {args rest : List Value} {request : ReadM ε R} {a : α} {r : R}
    {rt : Runtime σ ε} (decoded : decode args = .ok ((request, a), rest)) (read : request rt.host.memory = .ok r) :
    readThenCall decode call finish args rt = (trapOnErr (call a r) >>= finish) rt := by
  rw [readThenCall, closureSyscall, withArgs_of_ok decoded]
  simp only [bind_apply, trapOnErr, reading, read]

-- A handler that reads first fails to pop, leaving everything as it was; or fails to read,
-- recording the read's error; or runs its closure on what it read.
theorem readThenCall_cases {R α β : Type} (decode : ArgsM (ReadM ε R × α)) (call : α → R → FuncM σ ε β)
    (finish : β → SyscallM σ ε ReturnValue) (args : List Value) (rt : Runtime σ ε) :
    readThenCall decode call finish args rt = .error ⟨⟩ rt ∨
      (∃ e : ReadError ε, readThenCall decode call finish args rt = .error ⟨⟩ { rt with err := e.into }) ∨
      ∃ request a rest r, decode args = .ok ((request, a), rest) ∧ request rt.host.memory = .ok r ∧
        readThenCall decode call finish args rt = (trapOnErr (call a r) >>= finish) rt := by
  rcases decoded : decode args with _ | ⟨⟨request, a⟩, rest⟩
  · exact .inl (withArgs_of_error decoded rt)
  rcases read : request rt.host.memory with e | r
  · exact .inr (.inl ⟨e, readThenCall_of_readFailure (by simp [decodedReadFailure, readFailure, decoded, read])⟩)
  · exact .inr (.inr ⟨request, a, rest, r, rfl, read, readThenCall_of_read decoded read⟩)

namespace Syscall

variable (K : Config)

-- The first failure of the reads `h` makes before its extension operation, for the handlers
-- that read guest memory first.
def preDispatchFailure (ε : Type) : Syscall → List Value → Bytes → Option (ReadError ε)
  | .send, args => decodedReadFailure (FuncsHandler.sendArgs K) args
  | .sendWgas, args => decodedReadFailure (FuncsHandler.sendWgasArgs K) args
  | .sendCommit, args => decodedReadFailure FuncsHandler.sendCommitArgs args
  | .sendCommitWgas, args => decodedReadFailure FuncsHandler.sendCommitWgasArgs args
  | .sendPush, args => decodedReadFailure FuncsHandler.sendPushArgs args
  | .reply, args => decodedReadFailure (FuncsHandler.replyArgs K) args
  | .replyWgas, args => decodedReadFailure (FuncsHandler.replyWgasArgs K) args
  | .replyCommit, args => decodedReadFailure FuncsHandler.replyCommitArgs args
  | .replyCommitWgas, args => decodedReadFailure FuncsHandler.replyCommitWgasArgs args
  | .replyPush, args => decodedReadFailure FuncsHandler.replyPushArgs args
  | .createProgram, args => decodedReadFailure (FuncsHandler.createProgramArgs K) args
  | .createProgramWgas, args => decodedReadFailure (FuncsHandler.createProgramWgasArgs K) args
  | .debug, args => decodedReadFailure (FuncsHandler.debugArgs K) args
  | .exit, args => decodedReadFailure FuncsHandler.exitArgs args
  | .waitFor, args | .waitUpTo, args => decodedReadFailure FuncsHandler.durationArgs args
  | .wake, args => decodedReadFailure FuncsHandler.wakeArgs args
  | _, _ => fun _ => none

end Syscall

variable (E : Ext σ ε) (K : Config)

theorem read_failure_traps_before_dispatch (h : Syscall) (args : List Value) (rt : Runtime σ ε)
    (e : ReadError ε) (failing : h.preDispatchFailure K ε args rt.host.memory = some e) :
    h.handler E K args rt = .error ⟨⟩ { rt with err := e.into } := by
  unfold Syscall.handler
  cases h <;> try cases failing
  all_goals
    simp only [FuncsHandler.send, FuncsHandler.sendWgas, FuncsHandler.sendCommit,
      FuncsHandler.sendCommitWgas, FuncsHandler.sendPush, FuncsHandler.reply, FuncsHandler.replyWgas,
      FuncsHandler.replyCommit, FuncsHandler.replyCommitWgas, FuncsHandler.replyPush,
      FuncsHandler.createProgram, FuncsHandler.createProgramWgas, FuncsHandler.debug, FuncsHandler.exit,
      FuncsHandler.waitFor, FuncsHandler.waitUpTo, FuncsHandler.waitDuration, FuncsHandler.wake,
      statusSyscall, pushSyscall]
    exact readThenCall_of_readFailure failing

-- `send` whose destination pointer lies past the end of an empty memory.
theorem send_destination_out_of_bounds :
    Syscall.send.preDispatchFailure ⟨64, 64, 32⟩ Unit (List.replicate 6 (.I32 0 (by decide))) [] =
        some (.RuntimeCtx (.Memory .OutOfBounds)) ∧
      Syscall.send.handler (Ext.uniform (.ok 0)) ⟨64, 64, 32⟩ (List.replicate 6 (.I32 0 (by decide)))
          ⟨⟨(), []⟩, .NoReplyContext⟩ =
        .error ⟨⟩ ⟨⟨(), []⟩, .RuntimeCtx (.Memory .OutOfBounds)⟩ :=
  ⟨rfl, read_failure_traps_before_dispatch (Ext.uniform (.ok 0)) ⟨64, 64, 32⟩ .send
    (List.replicate 6 (.I32 0 (by decide))) ⟨⟨(), []⟩, .NoReplyContext⟩ _ rfl⟩

end Gear.Sandbox
