import GearSandbox.Errors

set_option autoImplicit false

/- The execution context the handlers of `funcs.rs` run in: the extension `E: Ext` they call
   into, the guest's linear memory, and the pending-trap slot `ctx.err`. The sandbox `Runtime`
   and its `RuntimeCtx` accessors (`read_memory`, `read_memory_as`, `write_output`) live in
   `runtime.rs`, outside this repository; each is modelled as a bounds-checked copy that fails
   with `MemoryError::OutOfBounds`. The extension is any implementation:
   a state and, for every operation, its answer and next state. -/
namespace Gear.Sandbox

-- Little-endian bytes, as `u32::to_le_bytes` and the SCALE encoding of `u32`/`u128` write them.
def decodeLE (bytes : Bytes) : Nat := bytes.foldr (fun byte acc => byte.toNat + 256 * acc) 0

def encodeLE (n : Nat) : Nat → Bytes
  | 0 => []
  | width + 1 => (n % 256).toUInt8 :: encodeLE (n / 256) width

@[simp] theorem encodeLE_length (n width : Nat) : (encodeLE n width).length = width := by
  induction width generalizing n with
  | zero => rfl
  | succ width ih => simp [encodeLE, ih]

-- Decoding the `width` bytes of `n` gives `n` back, reduced to what `width` bytes hold.
theorem decodeLE_encodeLE (n width : Nat) : decodeLE (encodeLE n width) = n % 256 ^ width := by
  induction width generalizing n with
  | zero => simp [encodeLE, decodeLE, Nat.mod_one]
  | succ width ih =>
    have byte : ((n % 256).toUInt8).toNat = n % 256 := by
      simp [Nat.toUInt8, UInt8.ofNat, UInt8.toNat, Fin.ofNat]
    have rest := ih (n / 256)
    simp only [decodeLE, encodeLE, List.foldr_cons] at rest ⊢
    rw [byte, rest, pow_succ', Nat.mod_mul]

structure CodeId where
  bytes : Bytes
  size : bytes.length = 32
deriving DecidableEq, Repr

-- `gear_core`'s `ExitCode`, an `i32`.
def ExitCode := {code : Int // IntType.i32.Fits code}

-- The packets of `gear_core::message`; `new` leaves the gas limit to the extension,
-- `new_with_gas` fixes it.
structure HandlePacket where
  destination : ProgramId
  payload : Bytes
  gasLimit : Option Nat
  value : Nat
deriving DecidableEq

def HandlePacket.new (destination : ProgramId) (payload : Bytes) (value : Nat) : HandlePacket :=
  ⟨destination, payload, none, value⟩

def HandlePacket.newWithGas (destination : ProgramId) (payload : Bytes) (gasLimit value : Nat) :
    HandlePacket :=
  ⟨destination, payload, some gasLimit, value⟩

structure ReplyPacket where
  payload : Bytes
  gasLimit : Option Nat
  value : Nat
deriving DecidableEq

def ReplyPacket.new (payload : Bytes) (value : Nat) : ReplyPacket := ⟨payload, none, value⟩

def ReplyPacket.newWithGas (payload : Bytes) (gasLimit value : Nat) : ReplyPacket :=
  ⟨payload, some gasLimit, value⟩

structure InitPacket where
  codeId : CodeId
  salt : Bytes
  payload : Bytes
  gasLimit : Option Nat
  value : Nat
deriving DecidableEq

def InitPacket.new (codeId : CodeId) (salt payload : Bytes) (value : Nat) : InitPacket :=
  ⟨codeId, salt, payload, none, value⟩

def InitPacket.newWithGas (codeId : CodeId) (salt payload : Bytes) (gasLimit value : Nat) :
    InitPacket :=
  ⟨codeId, salt, payload, some gasLimit, value⟩

-- The `Ext` trait as the handlers use it, with the `AsTerminationReason`, `IntoExtError` and
-- `forbidden_function` of its error type. Delays, handles, pages and block heights are `u32`;
-- gas amounts and timestamps `u64`; values `u128`; sizes `usize`.
structure Ext (σ ε : Type) where
  send : σ → HandlePacket → Nat → Except ε MessageId × σ
  sendCommit : σ → Nat → HandlePacket → Nat → Except ε MessageId × σ
  sendInit : σ → Except ε Nat × σ
  sendPush : σ → Nat → Bytes → Except ε Unit × σ
  read : σ → Except ε Bytes × σ
  size : σ → Except ε Nat × σ
  exit : σ → Except ε Unit × σ
  exitCode : σ → Except ε (Option ExitCode) × σ
  gas : σ → Nat → Except ε Unit × σ
  alloc : σ → Nat → Bytes → Except ε Nat × σ × Bytes
  free : σ → Nat → Except ε Unit × σ
  blockHeight : σ → Except ε Nat × σ
  blockTimestamp : σ → Except ε Nat × σ
  origin : σ → Except ε ProgramId × σ
  reply : σ → ReplyPacket → Nat → Except ε MessageId × σ
  replyCommit : σ → ReplyPacket → Nat → Except ε MessageId × σ
  replyTo : σ → Except ε (Option MessageId) × σ
  replyPush : σ → Bytes → Except ε Unit × σ
  debug : σ → String → Except ε Unit × σ
  gasAvailable : σ → Except ε Nat × σ
  messageId : σ → Except ε MessageId × σ
  programId : σ → Except ε ProgramId × σ
  source : σ → Except ε ProgramId × σ
  value : σ → Except ε Nat × σ
  valueAvailable : σ → Except ε Nat × σ
  leave : σ → Except ε Unit × σ
  wait : σ → Except ε Unit × σ
  waitFor : σ → Nat → Except ε Unit × σ
  waitUpTo : σ → Nat → Except ε Unit × σ
  wake : σ → MessageId → Nat → Except ε Unit × σ
  createProgram : σ → InitPacket → Nat → Except ε ProgramId × σ
  lastError : σ → Option ExtError
  asTerminationReason : ε → Option TerminationReason
  intoExtError : ε → Except ε ExtError
  forbiddenFunction : ε

-- Constants from `gear_core` and the target the handlers are compiled for.
structure Config where
  maxPayloadSize : Nat
  runtimeMaxBuffSize : Nat
  usizeBits : Nat

-- What a handler's closure works on: the extension and the guest's linear memory.
structure Host (σ : Type) where
  ext : σ
  memory : Bytes
deriving DecidableEq

structure Runtime (σ ε : Type) where
  host : Host σ
  err : FuncError ε
deriving DecidableEq

variable {σ ε : Type}

-- The errors a read of guest memory ends in; `?` turns each into its `FuncError` variant.
inductive ReadError (ε : Type) where
  | RuntimeCtx (e : RuntimeCtxError ε)
  | PayloadSize (e : PayloadSizeError)
  | RuntimeBufferSize (e : RuntimeBufferSizeError)
  | DebugString (e : FromUtf8Error)
deriving DecidableEq, Repr

def ReadError.into : ReadError ε → FuncError ε
  | .RuntimeCtx e => .RuntimeCtx e
  | .PayloadSize e => .PayloadSize e
  | .RuntimeBufferSize e => .RuntimeBufferSize e
  | .DebugString e => .DebugString e

-- Memory reads take `&self`: they see the memory and change nothing.
abbrev ReadM (ε : Type) := ReaderT Bytes (Except (ReadError ε))
-- A closure `f` of a handler: its `?` leaves with a `FuncError`, keeping what it already did
-- to the extension and the memory.
abbrev FuncM (σ ε : Type) := EStateM (FuncError ε) (Host σ)
-- A handler: it may also write `ctx.err`, and returns `Ok` or the trap `Err(HostError)`.
abbrev SyscallM (σ ε : Type) := EStateM HostError (Runtime σ ε)
abbrev Handler (σ ε : Type) := List Value → SyscallM σ ε ReturnValue

-- A `Decode + MaxEncodedLen` type of fixed width, as `read_memory_as` decodes it.
structure Fixed (α : Type) where
  size : Nat
  decode : (bytes : Bytes) → bytes.length = size → α

namespace Fixed

def programId : Fixed ProgramId := ⟨32, ProgramId.mk⟩
def messageId : Fixed MessageId := ⟨32, MessageId.mk⟩
def codeHash : Fixed CodeId := ⟨32, CodeId.mk⟩
def u32 : Fixed Nat := ⟨4, fun bytes _ => decodeLE bytes⟩
def u128 : Fixed Nat := ⟨16, fun bytes _ => decodeLE bytes⟩

end Fixed

-- The bytes `[ptr, ptr + len)` of a memory large enough to hold them.
def window (memory : Bytes) (ptr len : Nat) : Bytes := (memory.drop ptr).take len

theorem window_length {memory : Bytes} {ptr len : Nat} (inside : ptr + len ≤ memory.length) :
    (window memory ptr len).length = len := by
  simp only [window, List.length_take, List.length_drop]
  omega

-- The memory with `bytes` written from `ptr` on.
def overwrite (memory : Bytes) (ptr : Nat) (bytes : Bytes) : Bytes :=
  memory.take ptr ++ bytes ++ memory.drop (ptr + bytes.length)

/-- Modelled from the spec: `RuntimeCtx::read_memory` followed by `?`: a bounds-checked copy of
`len` bytes at `ptr`, a memory error otherwise. -/
def readMemory (ptr len : Nat) : ReadM ε Bytes := fun memory =>
  if ptr + len ≤ memory.length then .ok (window memory ptr len)
  else .error (.RuntimeCtx (.Memory .OutOfBounds))

/-- Modelled from the spec: `RuntimeCtx::read_memory_as` followed by `?`: the fixed number of
bytes of the type at `ptr`, decoded. -/
def readMemoryAs {α : Type} (D : Fixed α) (ptr : Nat) : ReadM ε α := fun memory =>
  if inside : ptr + D.size ≤ memory.length then .ok (D.decode (window memory ptr D.size) (window_length inside))
  else .error (.RuntimeCtx (.Memory .OutOfBounds))

/-- Modelled from the spec: `RuntimeCtx::read_memory_into_buf` followed by `?`: fills `buf`
with the bytes at `ptr`. -/
def readMemoryIntoBuf (ptr : Nat) (buf : Bytes) : ReadM ε Bytes := readMemory ptr buf.length

/-- Modelled from the spec: `RuntimeCtx::write_output`: a bounds-checked copy into memory. -/
def Host.writeOutput (host : Host σ) (ptr : Nat) (bytes : Bytes) : Except (RuntimeCtxError ε) (Host σ) :=
  if ptr + bytes.length ≤ host.memory.length then .ok { host with memory := overwrite host.memory ptr bytes }
  else .error (.Memory .OutOfBounds)

-- `.try_into()?` of the read bytes into a `Payload`, bounded by `MAX_PAYLOAD_SIZE`.
def tryIntoPayload (K : Config) (bytes : Bytes) : ReadM ε Bytes := fun _ =>
  if bytes.length ≤ K.maxPayloadSize then .ok bytes else .error (.PayloadSize ⟨⟩)

-- `RuntimeBuffer::try_new_default(len)?`: a zeroed buffer of at most `RUNTIME_MAX_BUFF_SIZE`.
def tryNewDefault (K : Config) (len : Nat) : ReadM ε Bytes := fun _ =>
  if len ≤ K.runtimeMaxBuffSize then .ok (List.replicate len 0) else .error (.RuntimeBufferSize ⟨⟩)

-- `String::from_utf8(bytes).map_err(FuncError::DebugString)?`.
def fromUtf8 (bytes : Bytes) : ReadM ε String := fun _ =>
  match String.fromUTF8? ⟨bytes.toArray⟩ with
  | some s => .ok s
  | none => .error (.DebugString ⟨bytes⟩)

-- The reads of a closure, run against the current memory.
def reading {α : Type} (x : ReadM ε α) : FuncM σ ε α := fun host =>
  match x host.memory with
  | .ok a => .ok a host
  | .error err => .error err.into host

-- `ctx.ext.op(..)`: the extension answers and moves to its next state.
def callExt {δ α : Type} (op : σ → Except ε α × σ) : EStateM δ (Host σ) (Except ε α) := fun host =>
  .ok (op host.ext).1 { host with ext := (op host.ext).2 }

-- `?` on a result, converting its error with `into`.
def propagate {δ α : Type} (into : δ → FuncError ε) : Except δ α → FuncM σ ε α
  | .ok a => pure a
  | .error e => throw (into e)

def writeOutput (ptr : Nat) (bytes : Bytes) : FuncM σ ε Unit := fun host =>
  match host.writeOutput ptr bytes with
  | .ok host' => .ok () host'
  | .error e => .error (.RuntimeCtx e) host

-- `x.map_err(|err| { ctx.err = err; HostError })`.
def trapOnErr {α : Type} (x : FuncM σ ε α) : SyscallM σ ε α := fun rt =>
  match x rt.host with
  | .ok a host => .ok a { rt with host := host }
  | .error err host => .error ⟨⟩ { host := host, err := err }

-- The closure's work on the host, with no error to record.
def onHost {α : Type} (x : EStateM HostError (Host σ) α) : SyscallM σ ε α := fun rt =>
  match x rt.host with
  | .ok a host => .ok a { rt with host := host }
  | .error e host => .error e { rt with host := host }

-- `ctx.err = err; Err(HostError)`.
def trapWith {α : Type} (err : FuncError ε) : SyscallM σ ε α := fun rt =>
  .error ⟨⟩ { rt with err := err }

-- A `SyscallOutput` computed without touching the context.
def output (out : SyscallOutput) : SyscallM σ ε ReturnValue := fun rt =>
  match out with
  | .ok v => .ok v rt
  | .error e => .error e rt

-- The handler pops its arguments first; a failed pop is `Err(HostError)` with nothing touched.
def withArgs {α : Type} (decode : ArgsM α) (body : α → SyscallM σ ε ReturnValue) : Handler σ ε :=
  fun args rt =>
    match decode args with
    | .ok (a, _) => body a rt
    | .error e => .error e rt

-- The template most handlers follow: pop the arguments, run the closure `f`, store its error
-- in `ctx.err` and trap, or go on with `finish` on what it returned.
def closureSyscall {α β : Type} (decode : ArgsM α) (f : α → FuncM σ ε β)
    (finish : β → SyscallM σ ε ReturnValue) : Handler σ ε :=
  withArgs decode fun a => do finish (← trapOnErr (f a))

-- The handlers that read guest memory before they call the extension: the pops give the reads
-- and what the rest of the closure needs besides their result.
def readThenCall {R α β : Type} (decode : ArgsM (ReadM ε R × α)) (call : α → R → FuncM σ ε β)
    (finish : β → SyscallM σ ε ReturnValue) : Handler σ ε :=
  closureSyscall decode (fun (request, a) => do call a (← reading request)) finish

-- The host function as the sandbox calls it: its result, and the context it leaves.
def run (h : Handler σ ε) (args : List Value) (rt : Runtime σ ε) : SyscallOutput × Runtime σ ε :=
  match h args rt with
  | .ok v rt' => (.ok v, rt')
  | .error e rt' => (.error e, rt')

theorem run_of_ok {h : Handler σ ε} {args : List Value} {rt rt' : Runtime σ ε} {v : ReturnValue}
    (returned : h args rt = .ok v rt') : run h args rt = (.ok v, rt') := by
  simp only [run, returned]

theorem run_of_error {h : Handler σ ε} {args : List Value} {rt rt' : Runtime σ ε} {e : HostError}
    (trapped : h args rt = .error e rt') : run h args rt = (.error e, rt') := by
  simp only [run, trapped]

theorem withArgs_of_ok {α : Type} {decode : ArgsM α} {body : α → SyscallM σ ε ReturnValue}
    {args rest : List Value} {a : α} (decoded : decode args = .ok (a, rest)) :
    withArgs decode body args = body a := by
  funext rt
  simp only [withArgs, decoded]

theorem withArgs_of_error {α : Type} {decode : ArgsM α} {body : α → SyscallM σ ε ReturnValue}
    {args : List Value} {e : HostError} (failed : decode args = .error e) (rt : Runtime σ ε) :
    withArgs decode body args rt = .error e rt := by
  simp only [withArgs, failed]

section Binds

variable {δ S α β : Type} {x : EStateM δ S α} {f : α → EStateM δ S β} {s s' : S}

theorem bind_apply (x : EStateM δ S α) (f : α → EStateM δ S β) (s : S) :
    (x >>= f) s = match x s with | .ok a s => f a s | .error e s => .error e s := rfl

@[simp] theorem pure_apply (a : α) (s : S) : (pure a : EStateM δ S α) s = .ok a s := rfl

@[simp] theorem map_apply (g : α → β) (x : EStateM δ S α) (s : S) :
    (g <$> x) s = match x s with | .ok a s => .ok (g a) s | .error e s => .error e s := rfl

@[simp] theorem throw_apply (e : δ) (s : S) : (throw e : EStateM δ S α) s = .error e s := rfl

theorem bind_eq_ok {b : β} (ran : (x >>= f) s = .ok b s') :
    ∃ a s₁, x s = .ok a s₁ ∧ f a s₁ = .ok b s' := by
  rw [bind_apply] at ran
  split at ran
  · exact ⟨_, _, by assumption, ran⟩
  · cases ran

theorem bind_eq_error {e : δ} (ran : (x >>= f) s = .error e s') :
    x s = .error e s' ∨ ∃ a s₁, x s = .ok a s₁ ∧ f a s₁ = .error e s' := by
  rw [bind_apply] at ran
  split at ran
  · exact .inr ⟨_, _, by assumption, ran⟩
  · cases ran
    exact .inl (by assumption)

@[simp] theorem bind_of_ok {a : α} {s₁ : S} (first : x s = .ok a s₁) : (x >>= f) s = f a s₁ := by
  rw [bind_apply, first]

@[simp] theorem bind_of_error {e : δ} {s₁ : S} (first : x s = .error e s₁) :
    (x >>= f) s = .error e s₁ := by
  rw [bind_apply, first]

end Binds

end Gear.Sandbox
