import GearSandbox.Messages

set_option autoImplicit false

/- The rest of `FuncsHandler`: the payload read, the queries, the memory and gas handlers, the
   control-flow syscalls that unwind the guest call, and the diagnostics. Most follow the
   closure template; the ones written with an explicit `match` in `funcs.rs` keep it here. -/
namespace Gear.Sandbox

variable {σ ε : Type} (E : Ext σ ε) (K : Config)

-- `usize::checked_add`.
def checkedAdd (bits a b : Nat) : Option Nat := if a + b < 2 ^ bits then some (a + b) else none

theorem checkedAdd_eq_some {bits a b c : Nat} (added : checkedAdd bits a b = some c) : c = a + b := by
  unfold checkedAdd at added
  split at added <;> simp_all

-- `&msg[start..stop]`, which panics unless `start ≤ stop ≤ msg.len()`.
def sliceRange (msg : Bytes) (start stop : Nat) (inBounds : start ≤ stop ∧ stop ≤ msg.length) :
    {slice : Bytes // slice.length = stop - start} :=
  ⟨window msg start (stop - start), window_length (by omega)⟩

/-- Modelled from the spec: `RuntimeCtx::write_validated_output`: run the producer on the
extension, then write the bytes it gives at `ptr`. -/
def writeValidatedOutput (ptr : Nat) (producer : FuncM σ ε Bytes) : FuncM σ ε Unit := do
  writeOutput ptr (← producer)

-- The `|ext| ...` producer of `read`.
def readRange (start len : Nat) : FuncM σ ε Bytes := do
  let msg ← propagate .Core (← callExt E.read)
  match added : checkedAdd K.usizeBits start len with
  | none => throw (.ReadLenOverflow start len)
  | some lastIdx =>
    if beyond : lastIdx > msg.length then throw (.ReadWrongRange (start, lastIdx) msg.length)
    else
      have sum := checkedAdd_eq_some added
      pure (sliceRange msg start lastIdx ⟨by omega, by omega⟩).1

-- `.map_err(FuncError::Core).map_err(|err| { ctx.err = err; HostError })?`.
def coreOrTrap {α : Type} : Except ε α → SyscallM σ ε α
  | .ok a => pure a
  | .error err => trapWith (.Core err)

-- `.map_err(FuncError::Core).err().unwrap_or(reason)`.
def coreErrOr {α : Type} (res : Except ε α) (reason : FuncError ε) : FuncError ε :=
  match res with
  | .error err => .Core err
  | .ok _ => reason

/-- Modelled from the spec: `RuntimeCtx::alloc`: the extension grows the guest memory by `pages`
and returns the first new page; its error comes back as `RuntimeCtxError::Ext`. -/
def allocPages {δ : Type} (pages : Nat) : EStateM δ (Host σ) (Except (RuntimeCtxError ε) Nat) :=
  fun host =>
    let allocated := E.alloc host.ext pages host.memory
    .ok (allocated.1.mapError .Ext) ⟨allocated.2.1, allocated.2.2⟩

-- `ext.last_error()` reads the extension without changing it.
def lastError {δ : Type} : EStateM δ (Host σ) (Option ExtError) := fun host =>
  .ok (E.lastError host.ext) host

-- The SCALE encoding of a `u128`: sixteen little-endian bytes.
def encodeU128 (value : Nat) : Bytes := encodeLE value 16

namespace FuncsHandler

def readArgs : ArgsM (Nat × Nat × Nat) := do
  let start ← popI32 (.usize K.usizeBits)
  let len ← popI32 (.usize K.usizeBits)
  let dest ← popI32 .u32
  pure (start.toNat, len.toNat, dest.toNat)

def read : Handler σ ε :=
  closureSyscall (readArgs K)
    (fun (start, len, dest) => writeValidatedOutput dest (readRange E K start len))
    fun () => pure .Unit

def size : Handler σ ε := fun _ => do
  match ← onHost (callExt E.size) with
  | .ok size => output (returnI32 size)
  | .error err => trapWith (.Core err)

def exitArgs : ArgsM (ReadM ε ProgramId × Unit) := do
  let valueDestPtr ← popI32 .u32
  pure (readMemoryAs .programId valueDestPtr.toNat, ())

-- The closure always leaves with an error; the trap follows whatever it returned.
def exit : Handler σ ε :=
  readThenCall exitArgs
    (fun () valueDest => do
      propagate .Core (← callExt E.exit)
      (throw (.Terminated (.Exit valueDest)) : FuncM σ ε Unit))
    fun () => throw ⟨⟩

def exitCode : Handler σ ε := fun _ => do
  match ← coreOrTrap (← onHost (callExt E.exitCode)) with
  | some exitCode => output (returnI32 exitCode.1)
  | none => trapWith .NonReplyExitCode

-- Only an allowance the extension reports exceeded is recorded; any other error traps bare.
def gas : Handler σ ε :=
  withArgs (popI32 .u32) fun val => do
    match ← onHost (callExt (E.gas · val.toNat)) with
    | .ok () => pure .Unit
    | .error err =>
      if (FuncError.Core err).asCore.bind E.asTerminationReason = some .GasAllowanceExceeded then
        trapWith (.Terminated .GasAllowanceExceeded)
      else throw ⟨⟩

-- `Value::I32(page.0 as i32)`.
def alloc : Handler σ ε :=
  withArgs (popI32 .u32) fun pages => do
    match ← onHost (allocPages E pages.toNat) with
    | .ok page => pure (.Value (.I32 (IntType.i32.cast page) (IntType.cast_fits_i32 page)))
    | .error e => trapWith (.RuntimeCtx e)

def free : Handler σ ε :=
  withArgs (popI32 .u32) fun page => do
    match ← onHost (callExt (E.free · page.toNat)) with
    | .error err => trapWith (.Core err)
    | .ok () => pure .Unit

def blockHeight : Handler σ ε := fun _ => do
  output (returnI32 (← coreOrTrap (← onHost (callExt E.blockHeight))))

def blockTimestamp : Handler σ ε := fun _ => do
  output (returnI64 (← coreOrTrap (← onHost (callExt E.blockTimestamp))))

-- The query handlers that write a value of the extension at the guest's pointer.
def writeQuery {α : Type} (op : σ → Except ε α × σ) (encode : α → Bytes) : Handler σ ε :=
  closureSyscall (popI32 .u32)
    (fun ptr => do writeOutput ptr.toNat (encode (← propagate .Core (← callExt op))))
    fun () => pure .Unit

def origin : Handler σ ε := writeQuery E.origin ProgramId.bytes

def replyTo : Handler σ ε :=
  withArgs (popI32 .u32) fun dest => do
    match ← coreOrTrap (← onHost (callExt E.replyTo)) with
    | some id => do
      trapOnErr (writeOutput dest.toNat id.bytes)
      pure .Unit
    | none => trapWith .NoReplyContext

def debugArgs : ArgsM (ReadM ε String × Unit) := do
  let strPtr ← popI32 .u32
  let strLen ← popI32 .u32
  pure (do
      let data ← tryNewDefault K strLen.toNat
      let data ← readMemoryIntoBuf strPtr.toNat data
      fromUtf8 data,
    ())

def debug : Handler σ ε :=
  readThenCall (debugArgs K) (fun () s => do propagate .Core (← callExt (E.debug · s)))
    fun () => pure .Unit

-- An extension error is not recorded: the call traps with `ctx.err` as it was.
def gasAvailable : Handler σ ε := fun _ => do
  match ← onHost (callExt E.gasAvailable) with
  | .ok gasAvailable => output (returnI64 gasAvailable)
  | .error _ => throw ⟨⟩

def msgId : Handler σ ε := writeQuery E.messageId MessageId.bytes

def programId : Handler σ ε := writeQuery E.programId ProgramId.bytes

def source : Handler σ ε :=
  withArgs (popI32 .u32) fun sourcePtr => do
    match ← onHost (callExt E.source) with
    | .ok source => do
      trapOnErr (writeOutput sourcePtr.toNat source.bytes)
      pure .Unit
    | .error err => trapWith (.Core err)

def value : Handler σ ε := writeQuery E.value encodeU128

def valueAvailable : Handler σ ε := writeQuery E.valueAvailable encodeU128

-- `leave` and `wait`: call the hook, then record its error, or the hook's own reason.
def terminateWith (hook : σ → Except ε Unit × σ) (reason : TerminationReason) : Handler σ ε := fun _ => do
  trapWith (coreErrOr (← onHost (callExt hook)) (.Terminated reason))

def leave : Handler σ ε := terminateWith E.leave .Leave

def wait : Handler σ ε := terminateWith E.wait (.Wait none)

def durationArgs : ArgsM (ReadM ε Nat × Unit) := do
  let durationPtr ← popI32 .u32
  pure (readMemoryAs .u32 durationPtr.toNat, ())

-- `wait_for` and `wait_up_to`: `ctx.err = match f() { Ok(duration) => Terminated(Wait(duration)),
-- Err(e) => e }`.
def waitDuration (hook : σ → Nat → Except ε Unit × σ) : Handler σ ε :=
  readThenCall durationArgs
    (fun () duration => do
      propagate .Core (← callExt (hook · duration))
      pure (some duration))
    fun duration => trapWith (.Terminated (.Wait duration))

def waitFor : Handler σ ε := waitDuration E.waitFor

def waitUpTo : Handler σ ε := waitDuration E.waitUpTo

def wakeArgs : ArgsM (ReadM ε (MessageId × Nat) × Unit) := do
  let wakerIdPtr ← popI32 .u32
  let delayPtr ← popI32 .u32
  pure (do
      let wakerId ← readMemoryAs .messageId wakerIdPtr.toNat
      let delay ← readMemoryAs .u32 delayPtr.toNat
      pure (wakerId, delay),
    ())

def wake : Handler σ ε :=
  readThenCall wakeArgs
    (fun () (wakerId, delay) => do propagate .Core (← callExt (E.wake · wakerId delay)))
    fun () => pure .Unit

def error : Handler σ ε :=
  closureSyscall (popI32 .u32)
    (fun dataPtr => do
      let err ← match ← lastError E with
        | some err => pure err
        | none => throw .SyscallErrorExpected
      writeOutput dataPtr.toNat err.encoding)
    fun () => pure .Unit

def forbidden : Handler σ ε := fun _ => trapWith (.Core E.forbiddenFunction)

end FuncsHandler

end Gear.Sandbox
