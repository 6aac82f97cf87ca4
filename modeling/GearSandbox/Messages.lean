import GearSandbox.Runtime

set_option autoImplicit false

/- The outgoing-message family of `FuncsHandler`: `send*`, `send_commit*`, `send_init`,
   `send_push`, `reply*`, `reply_commit*`, `reply_push` and `create_program*`. Each pops its
   arguments, reads the request from guest memory, hands it to one extension operation and
   returns a status: `0` when the operation succeeds, the length of the encoded `ExtError`
   when it reports a failure the guest may handle. The members differ only in their pops, their
   reads, the operation and what they write back, so each is the template applied to those. -/
namespace Gear.Sandbox

variable {σ ε : Type} (E : Ext σ ε) (K : Config)

-- `Value::I32(code as i32).into()`.
def status (code : Int) : ReturnValue :=
  .Value (.I32 (IntType.i32.cast code) (IntType.cast_fits_i32 code))

/-- Modelled from the spec: `ErrorProcessor::error_len_on_success`: on success run `f` on what
the operation produced and report `0`; on a domain failure report its `error_len`. -/
def errorLenOnSuccess {α : Type} (processed : Except ExtError α) (f : α → FuncM σ ε Unit) :
    FuncM σ ε Int :=
  match processed with
  | .ok a => do f a; pure 0
  | .error e => pure (errorLen (.error e : Except ExtError α))

-- `ctx.ext.op(..).process_error().map_err(FuncError::Core)?`.
def processed {α : Type} (op : σ → Except ε α × σ) : FuncM σ ε (Except ExtError α) := do
  propagate .Core (processError E.intoExtError (← callExt op))

-- The status handlers, with the pops giving the reads and the output pointer.
def statusSyscall {R α : Type} (decode : ArgsM (ReadM ε R × Nat)) (op : R → σ → Except ε α × σ)
    (encode : α → Bytes) : Handler σ ε :=
  readThenCall decode
    (fun outPtr request => do
      errorLenOnSuccess (← processed E (op request)) fun a => writeOutput outPtr (encode a))
    fun code => pure (status code)

-- `send_push` and `reply_push` report `error_len()` and write nothing back.
def pushSyscall {R : Type} (decode : ArgsM (ReadM ε R × Unit)) (op : R → σ → Except ε Unit × σ) :
    Handler σ ε :=
  readThenCall decode (fun () request => do return errorLen (← processed E (op request)))
    fun code => pure (status code)

-- `ctx.read_memory(ptr, len)?.try_into()?`.
def readPayload (ptr len : Nat) : ReadM ε Bytes := do
  tryIntoPayload K (← readMemory ptr len)

namespace FuncsHandler

def sendArgs : ArgsM (ReadM ε (HandlePacket × Nat) × Nat) := do
  let programIdPtr ← popI32 .u32
  let payloadPtr ← popI32 .u32
  let payloadLen ← popI32 .u32
  let valuePtr ← popI32 .u32
  let messageIdPtr ← popI32 .u32
  let delayPtr ← popI32 .u32
  pure (do
      let dest ← readMemoryAs .programId programIdPtr.toNat
      let payload ← readPayload K payloadPtr.toNat payloadLen.toNat
      let value ← readMemoryAs .u128 valuePtr.toNat
      let delay ← readMemoryAs .u32 delayPtr.toNat
      pure (HandlePacket.new dest payload value, delay),
    messageIdPtr.toNat)

def send : Handler σ ε :=
  statusSyscall E (sendArgs K) (fun (packet, delay) ext => E.send ext packet delay) MessageId.bytes

def sendWgasArgs : ArgsM (ReadM ε (HandlePacket × Nat) × Nat) := do
  let programIdPtr ← popI32 .u32
  let payloadPtr ← popI32 .u32
  let payloadLen ← popI32 .u32
  let gasLimit ← popI64 .u64
  let valuePtr ← popI32 .u32
  let messageIdPtr ← popI32 .u32
  let delayPtr ← popI32 .u32
  pure (do
      let dest ← readMemoryAs .programId programIdPtr.toNat
      let payload ← readPayload K payloadPtr.toNat payloadLen.toNat
      let value ← readMemoryAs .u128 valuePtr.toNat
      let delay ← readMemoryAs .u32 delayPtr.toNat
      pure (HandlePacket.newWithGas dest payload gasLimit.toNat value, delay),
    messageIdPtr.toNat)

def sendWgas : Handler σ ε :=
  statusSyscall E (sendWgasArgs K) (fun (packet, delay) ext => E.send ext packet delay)
    MessageId.bytes

def sendCommitArgs : ArgsM (ReadM ε (Nat × HandlePacket × Nat) × Nat) := do
  let handlePtr ← popI32 .u32
  let messageIdPtr ← popI32 .u32
  let programIdPtr ← popI32 .u32
  let valuePtr ← popI32 .u32
  let delayPtr ← popI32 .u32
  pure (do
      let dest ← readMemoryAs .programId programIdPtr.toNat
      let value ← readMemoryAs .u128 valuePtr.toNat
      let delay ← readMemoryAs .u32 delayPtr.toNat
      pure (handlePtr.toNat, HandlePacket.new dest [] value, delay),
    messageIdPtr.toNat)

def sendCommit : Handler σ ε :=
  statusSyscall E sendCommitArgs
    (fun (handle, packet, delay) ext => E.sendCommit ext handle packet delay) MessageId.bytes

def sendCommitWgasArgs : ArgsM (ReadM ε (Nat × HandlePacket × Nat) × Nat) := do
  let handlePtr ← popI32 .u32
  let messageIdPtr ← popI32 .u32
  let programIdPtr ← popI32 .u32
  let gasLimit ← popI64 .u64
  let valuePtr ← popI32 .u32
  let delayPtr ← popI32 .u32
  pure (do
      let dest ← readMemoryAs .programId programIdPtr.toNat
      let value ← readMemoryAs .u128 valuePtr.toNat
      let delay ← readMemoryAs .u32 delayPtr.toNat
      pure (handlePtr.toNat, HandlePacket.newWithGas dest [] gasLimit.toNat value, delay),
    messageIdPtr.toNat)

def sendCommitWgas : Handler σ ε :=
  statusSyscall E sendCommitWgasArgs
    (fun (handle, packet, delay) ext => E.sendCommit ext handle packet delay) MessageId.bytes

def sendInitArgs : ArgsM (ReadM ε Unit × Nat) := do
  let handlePtr ← popI32 .u32
  pure (pure (), handlePtr.toNat)

-- The handle is a `u32`, written as its four little-endian bytes.
def sendInit : Handler σ ε :=
  statusSyscall E sendInitArgs (fun () ext => E.sendInit ext) fun handle => encodeLE handle 4

def sendPushArgs : ArgsM (ReadM ε (Nat × Bytes) × Unit) := do
  let handlePtr ← popI32 .u32
  let payloadPtr ← popI32 .u32
  let payloadLen ← popI32 .u32
  pure (do return (handlePtr.toNat, ← readMemory payloadPtr.toNat payloadLen.toNat), ())

def sendPush : Handler σ ε :=
  pushSyscall E sendPushArgs fun (handle, payload) ext => E.sendPush ext handle payload

def replyArgs : ArgsM (ReadM ε (ReplyPacket × Nat) × Nat) := do
  let payloadPtr ← popI32 .u32
  let payloadLen ← popI32 .u32
  let valuePtr ← popI32 .u32
  let messageIdPtr ← popI32 .u32
  let delayPtr ← popI32 .u32
  pure (do
      let payload ← readPayload K payloadPtr.toNat payloadLen.toNat
      let value ← readMemoryAs .u128 valuePtr.toNat
      let delay ← readMemoryAs .u32 delayPtr.toNat
      pure (ReplyPacket.new payload value, delay),
    messageIdPtr.toNat)

def reply : Handler σ ε :=
  statusSyscall E (replyArgs K) (fun (packet, delay) ext => E.reply ext packet delay)
    MessageId.bytes

def replyWgasArgs : ArgsM (ReadM ε (ReplyPacket × Nat) × Nat) := do
  let payloadPtr ← popI32 .u32
  let payloadLen ← popI32 .u32
  let gasLimit ← popI64 .u64
  let valuePtr ← popI32 .u32
  let messageIdPtr ← popI32 .u32
  let delayPtr ← popI32 .u32
  pure (do
      let payload ← readPayload K payloadPtr.toNat payloadLen.toNat
      let value ← readMemoryAs .u128 valuePtr.toNat
      let delay ← readMemoryAs .u32 delayPtr.toNat
      pure (ReplyPacket.newWithGas payload gasLimit.toNat value, delay),
    messageIdPtr.toNat)

def replyWgas : Handler σ ε :=
  statusSyscall E (replyWgasArgs K) (fun (packet, delay) ext => E.reply ext packet delay)
    MessageId.bytes

def replyCommitArgs : ArgsM (ReadM ε (ReplyPacket × Nat) × Nat) := do
  let valuePtr ← popI32 .u32
  let messageIdPtr ← popI32 .u32
  let delayPtr ← popI32 .u32
  pure (do
      let value ← readMemoryAs .u128 valuePtr.toNat
      let delay ← readMemoryAs .u32 delayPtr.toNat
      pure (ReplyPacket.new [] value, delay),
    messageIdPtr.toNat)

def replyCommit : Handler σ ε :=
  statusSyscall E replyCommitArgs (fun (packet, delay) ext => E.replyCommit ext packet delay)
    MessageId.bytes

def replyCommitWgasArgs : ArgsM (ReadM ε (ReplyPacket × Nat) × Nat) := do
  let gasLimit ← popI64 .u64
  let valuePtr ← popI32 .u32
  let messageIdPtr ← popI32 .u32
  let delayPtr ← popI32 .u32
  pure (do
      let value ← readMemoryAs .u128 valuePtr.toNat
      let delay ← readMemoryAs .u32 delayPtr.toNat
      pure (ReplyPacket.newWithGas [] gasLimit.toNat value, delay),
    messageIdPtr.toNat)

def replyCommitWgas : Handler σ ε :=
  statusSyscall E replyCommitWgasArgs (fun (packet, delay) ext => E.replyCommit ext packet delay)
    MessageId.bytes

def replyPushArgs : ArgsM (ReadM ε Bytes × Unit) := do
  let payloadPtr ← popI32 .u32
  let payloadLen ← popI32 .u32
  pure (readMemory payloadPtr.toNat payloadLen.toNat, ())

def replyPush : Handler σ ε :=
  pushSyscall E replyPushArgs fun payload ext => E.replyPush ext payload

def createProgramArgs : ArgsM (ReadM ε (InitPacket × Nat) × Nat) := do
  let codeHashPtr ← popI32 .u32
  let saltPtr ← popI32 .u32
  let saltLen ← popI32 .u32
  let payloadPtr ← popI32 .u32
  let payloadLen ← popI32 .u32
  let valuePtr ← popI32 .u32
  let programIdPtr ← popI32 .u32
  let delayPtr ← popI32 .u32
  pure (do
      let codeHash ← readMemoryAs .codeHash codeHashPtr.toNat
      let salt ← readMemory saltPtr.toNat saltLen.toNat
      let payload ← readPayload K payloadPtr.toNat payloadLen.toNat
      let value ← readMemoryAs .u128 valuePtr.toNat
      let delay ← readMemoryAs .u32 delayPtr.toNat
      pure (InitPacket.new codeHash salt payload value, delay),
    programIdPtr.toNat)

def createProgram : Handler σ ε :=
  statusSyscall E (createProgramArgs K) (fun (packet, delay) ext => E.createProgram ext packet delay)
    ProgramId.bytes

def createProgramWgasArgs : ArgsM (ReadM ε (InitPacket × Nat) × Nat) := do
  let codeHashPtr ← popI32 .u32
  let saltPtr ← popI32 .u32
  let saltLen ← popI32 .u32
  let payloadPtr ← popI32 .u32
  let payloadLen ← popI32 .u32
  let gasLimit ← popI64 .u64
  let valuePtr ← popI32 .u32
  let programIdPtr ← popI32 .u32
  let delayPtr ← popI32 .u32
  pure (do
      let codeHash ← readMemoryAs .codeHash codeHashPtr.toNat
      let salt ← readMemory saltPtr.toNat saltLen.toNat
      let payload ← readPayload K payloadPtr.toNat payloadLen.toNat
      let value ← readMemoryAs .u128 valuePtr.toNat
      let delay ← readMemoryAs .u32 delayPtr.toNat
      pure (InitPacket.newWithGas codeHash salt payload gasLimit.toNat value, delay),
    programIdPtr.toNat)

def createProgramWgas : Handler σ ε :=
  statusSyscall E (createProgramWgasArgs K)
    (fun (packet, delay) ext => E.createProgram ext packet delay) ProgramId.bytes

end FuncsHandler

end Gear.Sandbox
