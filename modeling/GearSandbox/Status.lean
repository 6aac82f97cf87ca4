import GearSandbox.PreDispatch

set_option autoImplicit false

/- The status codes of the outgoing-message family. Once the request is read, the extension
   operation decides the outcome: on success the status is `0` and the produced id (or handle) is
   written at the output pointer; on a failure the guest may handle the status is the length of
   the encoded error and nothing is written; any other failure traps with `FuncError::Core`. The
   output is written after the operation, so a successful operation is followed by a trap when
   the output range lies outside memory. -/
namespace Gear.Sandbox

theorem window_overwrite {memory bytes : Bytes} {ptr : Nat} (inside : ptr + bytes.length ≤ memory.length) :
    window (overwrite memory ptr bytes) ptr bytes.length = bytes := by
  have prefixLength : (memory.take ptr).length = ptr := by simp only [List.length_take]; omega
  simp [window, overwrite, List.drop_append_of_le_length, prefixLength]

theorem ExtError.encodedSize_fits (e : ExtError) : IntType.i32.Fits e.encodedSize :=
  IntType.fits_i32.mpr ⟨by omega, by exact_mod_cast e.short⟩

theorem status_of_fits {code : Int} (range : IntType.i32.Fits code) :
    status code = .Value (.I32 code range) := by
  simp only [status, IntType.cast_i32_of_fits range]

variable {σ ε : Type} (E : Ext σ ε) (K : Config)

section Template

variable {R α : Type} {decode : ArgsM (ReadM ε R × Nat)} {op : R → σ → Except ε α × σ}
  {encode : α → Bytes} {args rest : List Value} {request : ReadM ε R} {outPtr : Nat} {r : R}
  {rt : Runtime σ ε} {ext' : σ}

theorem statusSyscall_of_success {x : α} (decoded : decode args = .ok ((request, outPtr), rest))
    (read : request rt.host.memory = .ok r) (succeeded : op r rt.host.ext = (.ok x, ext')) :
    statusSyscall E decode op encode args rt =
      if outPtr + (encode x).length ≤ rt.host.memory.length then
        .ok (status 0) ⟨⟨ext', overwrite rt.host.memory outPtr (encode x)⟩, rt.err⟩
      else .error ⟨⟩ ⟨⟨ext', rt.host.memory⟩, .RuntimeCtx (.Memory .OutOfBounds)⟩ := by
  rw [statusSyscall, readThenCall_of_read decoded read]
  by_cases writable : outPtr + (encode x).length ≤ rt.host.memory.length <;>
    simp only [processed, propagate, processError, errorLenOnSuccess, bind_pure_comp, bind_assoc, bind_apply,
      trapOnErr, callExt, succeeded, pure_apply, map_apply, writeOutput, Host.writeOutput, writable, if_true,
      if_false]

theorem statusSyscall_of_domain {err : ε} {e : ExtError}
    (decoded : decode args = .ok ((request, outPtr), rest)) (read : request rt.host.memory = .ok r)
    (failed : op r rt.host.ext = (.error err, ext')) (domain : E.intoExtError err = .ok e) :
    statusSyscall E decode op encode args rt = .ok (status e.encodedSize) ⟨⟨ext', rt.host.memory⟩, rt.err⟩ := by
  rw [statusSyscall, readThenCall_of_read decoded read]
  simp only [processed, propagate, processError, errorLenOnSuccess, bind_pure_comp, errorLen_error, bind_assoc,
    bind_apply, trapOnErr, callExt, failed, domain, pure_apply]

theorem statusSyscall_of_core {err err' : ε}
    (decoded : decode args = .ok ((request, outPtr), rest)) (read : request rt.host.memory = .ok r)
    (failed : op r rt.host.ext = (.error err, ext')) (core : E.intoExtError err = .error err') :
    statusSyscall E decode op encode args rt = .error ⟨⟩ ⟨⟨ext', rt.host.memory⟩, .Core err'⟩ := by
  rw [statusSyscall, readThenCall_of_read decoded read]
  simp only [processed, propagate, processError, bind_assoc, bind_apply, trapOnErr, callExt, failed, core,
    throw_apply]

end Template

section Push

variable {R : Type} {decode : ArgsM (ReadM ε R × Unit)} {op : R → σ → Except ε Unit × σ}
  {args rest : List Value} {request : ReadM ε R} {r : R} {rt : Runtime σ ε} {ext' : σ}

theorem pushSyscall_of_success (decoded : decode args = .ok ((request, ()), rest))
    (read : request rt.host.memory = .ok r) (succeeded : op r rt.host.ext = (.ok (), ext')) :
    pushSyscall E decode op args rt = .ok (status 0) ⟨⟨ext', rt.host.memory⟩, rt.err⟩ := by
  rw [pushSyscall, readThenCall_of_read decoded read]
  simp only [processed, propagate, processError, errorLen, bind_pure_comp, map_bind, bind_apply, trapOnErr,
    callExt, succeeded, map_apply, pure_apply]

theorem pushSyscall_of_domain {err : ε} {e : ExtError}
    (decoded : decode args = .ok ((request, ()), rest)) (read : request rt.host.memory = .ok r)
    (failed : op r rt.host.ext = (.error err, ext')) (domain : E.intoExtError err = .ok e) :
    pushSyscall E decode op args rt = .ok (status e.encodedSize) ⟨⟨ext', rt.host.memory⟩, rt.err⟩ := by
  rw [pushSyscall, readThenCall_of_read decoded read]
  simp only [processed, propagate, processError, bind_pure_comp, map_bind, bind_apply, trapOnErr, callExt,
    failed, domain, map_apply, pure_apply, errorLen_error]

end Push

section Pointers

open ArgsM

/- Where each decoder finds its output pointer: `message_id_ptr`, `program_id_ptr` or
   `handle_ptr`, at its position in the handler's argument list. Each proof follows the `do`
   block: one `pop32` or `pop64` per pop before the pointer, `here` at the pointer's own pop, and
   the later pops leave the pointer alone. -/

theorem sendArgs_pointerAt : (FuncsHandler.sendArgs (ε := ε) K).PointerAt 4 :=
  .pop32 fun _ => .pop32 fun _ => .pop32 fun _ => .pop32 fun _ =>
    .here fun _ => .bind_of fun _ => .pure rfl

theorem sendWgasArgs_pointerAt : (FuncsHandler.sendWgasArgs (ε := ε) K).PointerAt 5 :=
  .pop32 fun _ => .pop32 fun _ => .pop32 fun _ => .pop64 fun _ => .pop32 fun _ =>
    .here fun _ => .bind_of fun _ => .pure rfl

theorem sendCommitArgs_pointerAt : (FuncsHandler.sendCommitArgs (ε := ε)).PointerAt 1 :=
  .pop32 fun _ => .here fun _ => .bind_of fun _ => .bind_of fun _ => .bind_of fun _ => .pure rfl

theorem sendCommitWgasArgs_pointerAt : (FuncsHandler.sendCommitWgasArgs (ε := ε)).PointerAt 1 :=
  .pop32 fun _ => .here fun _ => .bind_of fun _ => .bind_of fun _ => .bind_of fun _ =>
    .bind_of fun _ => .pure rfl

theorem sendInitArgs_pointerAt : (FuncsHandler.sendInitArgs (ε := ε)).PointerAt 0 :=
  .here fun _ => .pure rfl

theorem replyArgs_pointerAt : (FuncsHandler.replyArgs (ε := ε) K).PointerAt 3 :=
  .pop32 fun _ => .pop32 fun _ => .pop32 fun _ => .here fun _ => .bind_of fun _ => .pure rfl

theorem replyWgasArgs_pointerAt : (FuncsHandler.replyWgasArgs (ε := ε) K).PointerAt 4 :=
  .pop32 fun _ => .pop32 fun _ => .pop64 fun _ => .pop32 fun _ =>
    .here fun _ => .bind_of fun _ => .pure rfl

theorem replyCommitArgs_pointerAt : (FuncsHandler.replyCommitArgs (ε := ε)).PointerAt 1 :=
  .pop32 fun _ => .here fun _ => .bind_of fun _ => .pure rfl

theorem replyCommitWgasArgs_pointerAt : (FuncsHandler.replyCommitWgasArgs (ε := ε)).PointerAt 2 :=
  .pop64 fun _ => .pop32 fun _ => .here fun _ => .bind_of fun _ => .pure rfl

theorem createProgramArgs_pointerAt : (FuncsHandler.createProgramArgs (ε := ε) K).PointerAt 6 :=
  .pop32 fun _ => .pop32 fun _ => .pop32 fun _ => .pop32 fun _ => .pop32 fun _ => .pop32 fun _ =>
    .here fun _ => .bind_of fun _ => .pure rfl

theorem createProgramWgasArgs_pointerAt : (FuncsHandler.createProgramWgasArgs (ε := ε) K).PointerAt 7 :=
  .pop32 fun _ => .pop32 fun _ => .pop32 fun _ => .pop32 fun _ => .pop32 fun _ => .pop64 fun _ =>
    .pop32 fun _ => .here fun _ => .bind_of fun _ => .pure rfl

end Pointers

-- What a status handler is built from: its pops and reads, the position of its output pointer
-- among the arguments, its extension operation and the encoding of what the operation produces.
structure StatusParts (σ ε : Type) where
  Request : Type
  Produced : Type
  decode : ArgsM (ReadM ε Request × Nat)
  outputArg : Nat
  op : Request → σ → Except ε Produced × σ
  encode : Produced → Bytes

-- What `send_push` and `reply_push` are built from.
structure PushParts (σ ε : Type) where
  Request : Type
  decode : ArgsM (ReadM ε Request × Unit)
  op : Request → σ → Except ε Unit × σ

namespace Syscall

-- The parts of each status handler, as its definition in `FuncsHandler` applies the template.
def statusParts : Syscall → Option (StatusParts σ ε)
  | .send => some ⟨_, _, FuncsHandler.sendArgs K, 4,
      fun (packet, delay) ext => E.send ext packet delay, MessageId.bytes⟩
  | .sendWgas => some ⟨_, _, FuncsHandler.sendWgasArgs K, 5,
      fun (packet, delay) ext => E.send ext packet delay, MessageId.bytes⟩
  | .sendCommit => some ⟨_, _, FuncsHandler.sendCommitArgs, 1,
      fun (handle, packet, delay) ext => E.sendCommit ext handle packet delay, MessageId.bytes⟩
  | .sendCommitWgas => some ⟨_, _, FuncsHandler.sendCommitWgasArgs, 1,
      fun (handle, packet, delay) ext => E.sendCommit ext handle packet delay, MessageId.bytes⟩
  | .sendInit => some ⟨_, _, FuncsHandler.sendInitArgs, 0, fun () ext => E.sendInit ext,
      fun handle => encodeLE handle 4⟩
  | .reply => some ⟨_, _, FuncsHandler.replyArgs K, 3,
      fun (packet, delay) ext => E.reply ext packet delay, MessageId.bytes⟩
  | .replyWgas => some ⟨_, _, FuncsHandler.replyWgasArgs K, 4,
      fun (packet, delay) ext => E.reply ext packet delay, MessageId.bytes⟩
  | .replyCommit => some ⟨_, _, FuncsHandler.replyCommitArgs, 1,
      fun (packet, delay) ext => E.replyCommit ext packet delay, MessageId.bytes⟩
  | .replyCommitWgas => some ⟨_, _, FuncsHandler.replyCommitWgasArgs, 2,
      fun (packet, delay) ext => E.replyCommit ext packet delay, MessageId.bytes⟩
  | .createProgram => some ⟨_, _, FuncsHandler.createProgramArgs K, 6,
      fun (packet, delay) ext => E.createProgram ext packet delay, ProgramId.bytes⟩
  | .createProgramWgas => some ⟨_, _, FuncsHandler.createProgramWgasArgs K, 7,
      fun (packet, delay) ext => E.createProgram ext packet delay, ProgramId.bytes⟩
  | _ => none

def pushParts : Syscall → Option (PushParts σ ε)
  | .sendPush => some ⟨_, FuncsHandler.sendPushArgs,
      fun (handle, payload) ext => E.sendPush ext handle payload⟩
  | .replyPush => some ⟨_, FuncsHandler.replyPushArgs, fun payload ext => E.replyPush ext payload⟩
  | _ => none

variable {E K} {h : Syscall}

theorem handler_of_statusParts {p : StatusParts σ ε} (parts : h.statusParts E K = some p) :
    h.handler E K = statusSyscall E p.decode p.op p.encode := by
  cases h <;> cases parts <;> rfl

theorem handler_of_pushParts {p : PushParts σ ε} (parts : h.pushParts E = some p) :
    h.handler E K = pushSyscall E p.decode p.op := by
  cases h <;> cases parts <;> rfl

-- The output pointer is the argument at the member's own position.
theorem pointerAt_of_statusParts {p : StatusParts σ ε} (parts : h.statusParts E K = some p) :
    p.decode.PointerAt p.outputArg := by
  cases h <;> cases parts
  exacts [sendArgs_pointerAt K, sendWgasArgs_pointerAt K, sendCommitArgs_pointerAt,
    sendCommitWgasArgs_pointerAt, sendInitArgs_pointerAt, replyArgs_pointerAt K,
    replyWgasArgs_pointerAt K, replyCommitArgs_pointerAt, replyCommitWgasArgs_pointerAt,
    createProgramArgs_pointerAt K, createProgramWgasArgs_pointerAt K]

-- The output range: the 32 bytes of an id, or the 4 bytes of `send_init`'s handle.
theorem encode_length_of_statusParts {p : StatusParts σ ε} (parts : h.statusParts E K = some p)
    (x : p.Produced) : (p.encode x).length = if h = .sendInit then 4 else 32 := by
  cases h <;> cases parts <;> simp [MessageId.size, ProgramId.size]

end Syscall

theorem status_codes_of_message_family :
    (∀ (h : Syscall) (p : StatusParts σ ε), h.statusParts E K = some p →
      ∀ (args rest : List Value) (request : ReadM ε p.Request) (outPtr : Nat) (r : p.Request)
        (rt : Runtime σ ε) (ext' : σ), p.decode args = .ok ((request, outPtr), rest) →
        request rt.host.memory = .ok r →
        (∃ v range, args[p.outputArg]? = some (.I32 v range) ∧ outPtr = v.toNat) ∧
        (∀ x, p.op r rt.host.ext = (.ok x, ext') →
          outPtr + (p.encode x).length ≤ rt.host.memory.length →
          (p.encode x).length = (if h = .sendInit then 4 else 32) ∧
          h.handler E K args rt =
              .ok (.Value (.I32 0 (by decide))) ⟨⟨ext', overwrite rt.host.memory outPtr (p.encode x)⟩, rt.err⟩ ∧
            window (overwrite rt.host.memory outPtr (p.encode x)) outPtr (p.encode x).length = p.encode x) ∧
        (∀ err e, p.op r rt.host.ext = (.error err, ext') → E.intoExtError err = .ok e →
          h.handler E K args rt =
              .ok (.Value (.I32 e.encodedSize e.encodedSize_fits)) ⟨⟨ext', rt.host.memory⟩, rt.err⟩ ∧
            0 < e.encodedSize)) ∧
    (∀ (h : Syscall) (p : PushParts σ ε), h.pushParts E = some p →
      ∀ (args rest : List Value) (request : ReadM ε p.Request) (r : p.Request) (rt : Runtime σ ε)
        (ext' : σ), p.decode args = .ok ((request, ()), rest) → request rt.host.memory = .ok r →
        (p.op r rt.host.ext = (.ok (), ext') →
          h.handler E K args rt = .ok (.Value (.I32 0 (by decide))) ⟨⟨ext', rt.host.memory⟩, rt.err⟩) ∧
        (∀ err e, p.op r rt.host.ext = (.error err, ext') → E.intoExtError err = .ok e →
          h.handler E K args rt =
              .ok (.Value (.I32 e.encodedSize e.encodedSize_fits)) ⟨⟨ext', rt.host.memory⟩, rt.err⟩ ∧
            0 < e.encodedSize)) := by
  refine ⟨fun h p parts _ _ _ _ _ _ _ decoded read => ⟨Syscall.pointerAt_of_statusParts parts _ _ _ _ decoded,
      fun x succeeded writable => ?_, fun err e failed domain => ?_⟩,
    fun h p parts _ _ _ _ _ _ decoded read => ⟨fun succeeded => ?_, fun err e failed domain => ?_⟩⟩
  · rw [Syscall.handler_of_statusParts parts, statusSyscall_of_success E decoded read succeeded,
      if_pos writable, status_of_fits]
    exact ⟨Syscall.encode_length_of_statusParts parts x, rfl, window_overwrite writable⟩
  · rw [Syscall.handler_of_statusParts parts, statusSyscall_of_domain E decoded read failed domain,
      status_of_fits e.encodedSize_fits]
    exact ⟨rfl, e.encodedSize_pos⟩
  · rw [Syscall.handler_of_pushParts parts, pushSyscall_of_success E decoded read succeeded, status_of_fits]
  · rw [Syscall.handler_of_pushParts parts, pushSyscall_of_domain E decoded read failed domain,
      status_of_fits e.encodedSize_fits]
    exact ⟨rfl, e.encodedSize_pos⟩

-- `send_init` writes the handle `0x04030201` as its four little-endian bytes at the pointer it
-- is passed, `1`, and leaves the bytes around them.
theorem send_init_writes_handle :
    Syscall.sendInit.handler (Ext.uniform (.ok 0x04030201)) ⟨64, 64, 32⟩ [.I32 1 (by decide)]
        ⟨⟨(), [10, 11, 12, 13, 14, 15]⟩, .NoReplyContext⟩ =
      .ok (.Value (.I32 0 (by decide))) ⟨⟨(), [10, 1, 2, 3, 4, 15]⟩, .NoReplyContext⟩ :=
  ((status_codes_of_message_family (Ext.uniform (.ok 0x04030201)) ⟨64, 64, 32⟩).1 .sendInit _ rfl
    [.I32 1 (by decide)] [] _ 1 () ⟨⟨(), [10, 11, 12, 13, 14, 15]⟩, .NoReplyContext⟩ () rfl rfl).2.1
    0x04030201 rfl (by decide) |>.2.1

-- `send_init` dispatches, then finds no memory to write its handle to.
theorem send_init_traps_after_dispatch :
    (Ext.uniform (.ok 0)).sendInit () = (.ok 0, ()) ∧
      Syscall.sendInit.handler (Ext.uniform (.ok 0)) ⟨64, 64, 32⟩ [.I32 0 (by decide)]
          ⟨⟨(), []⟩, .NoReplyContext⟩ =
        .error ⟨⟩ ⟨⟨(), []⟩, .RuntimeCtx (.Memory .OutOfBounds)⟩ :=
  ⟨rfl, rfl⟩

theorem dispatched_message_traps_only_on_unwritable_output :
    (∀ (h : Syscall) (p : StatusParts σ ε), h.statusParts E K = some p →
      ∀ (args rest : List Value) (request : ReadM ε p.Request) (outPtr : Nat) (r : p.Request)
        (rt : Runtime σ ε) (ext' : σ) (x : p.Produced), p.decode args = .ok ((request, outPtr), rest) →
        request rt.host.memory = .ok r → p.op r rt.host.ext = (.ok x, ext') →
        (∃ v range, args[p.outputArg]? = some (.I32 v range) ∧ outPtr = v.toNat) ∧
        (p.encode x).length = (if h = .sendInit then 4 else 32) ∧
        h.handler E K args rt =
          if outPtr + (p.encode x).length ≤ rt.host.memory.length then
            .ok (.Value (.I32 0 (by decide))) ⟨⟨ext', overwrite rt.host.memory outPtr (p.encode x)⟩, rt.err⟩
          else .error ⟨⟩ ⟨⟨ext', rt.host.memory⟩, .RuntimeCtx (.Memory .OutOfBounds)⟩) ∧
    (∀ (h : Syscall) (p : PushParts σ ε), h.pushParts E = some p →
      ∀ (args rest : List Value) (request : ReadM ε p.Request) (r : p.Request) (rt : Runtime σ ε)
        (ext' : σ), p.decode args = .ok ((request, ()), rest) → request rt.host.memory = .ok r →
        p.op r rt.host.ext = (.ok (), ext') →
        h.handler E K args rt = .ok (.Value (.I32 0 (by decide))) ⟨⟨ext', rt.host.memory⟩, rt.err⟩) := by
  refine ⟨fun h p parts _ _ _ _ _ _ _ x decoded read succeeded =>
      ⟨Syscall.pointerAt_of_statusParts parts _ _ _ _ decoded, Syscall.encode_length_of_statusParts parts x, ?_⟩,
    fun h p parts _ _ _ _ _ _ decoded read succeeded => ?_⟩
  · rw [Syscall.handler_of_statusParts parts, statusSyscall_of_success E decoded read succeeded,
      status_of_fits]
  · rw [Syscall.handler_of_pushParts parts, pushSyscall_of_success E decoded read succeeded, status_of_fits]

-- `send_init` writes the handle `258` at the second byte of a five-byte memory.
theorem send_init_writes_handle_inside :
    Syscall.sendInit.handler (Ext.uniform (.ok 258)) ⟨64, 64, 32⟩ [.I32 1 (by decide)]
        ⟨⟨(), [0, 0, 0, 0, 0]⟩, .NoReplyContext⟩ =
      .ok (.Value (.I32 0 (by decide))) ⟨⟨(), [0, 2, 1, 0, 0]⟩, .NoReplyContext⟩ :=
  (dispatched_message_traps_only_on_unwritable_output (Ext.uniform (.ok 258)) ⟨64, 64, 32⟩).1 .sendInit _ rfl
    [.I32 1 (by decide)] [] _ 1 () ⟨⟨(), [0, 0, 0, 0, 0]⟩, .NoReplyContext⟩ () 258 rfl rfl rfl |>.2.2

section ErrorSyscall

variable {args rest : List Value} {ptr : Int} {rt : Runtime σ ε}

-- `error` writes the encoding of the extension's last error at the pointer it pops.
theorem error_run {e : ExtError} (popped : popI32 .u32 args = .ok (ptr, rest))
    (kept : E.lastError rt.host.ext = some e) (writable : ptr.toNat + e.encoding.length ≤ rt.host.memory.length) :
    run (FuncsHandler.error E) args rt =
      (.ok .Unit, ⟨⟨rt.host.ext, overwrite rt.host.memory ptr.toNat e.encoding⟩, rt.err⟩) := by
  simp [run, FuncsHandler.error, closureSyscall, withArgs_of_ok popped, bind_apply, trapOnErr, lastError, kept,
    writeOutput, Host.writeOutput, writable]

end ErrorSyscall

-- The status a message handler reports on a domain failure is the length of what `error` then
-- writes, when the extension keeps that failure as its last error.
theorem failure_status_is_error_length (h : Syscall) (args : List Value) (rt : Runtime σ ε) (ext' : σ)
    (e : ExtError) (kept : E.lastError ext' = some e) (bufArgs bufRest : List Value) (buf : Int)
    (popped : popI32 .u32 bufArgs = .ok (buf, bufRest))
    (writable : buf.toNat + e.encoding.length ≤ rt.host.memory.length) :
    (∀ (p : StatusParts σ ε), h.statusParts E K = some p →
      ∀ rest request outPtr r err, p.decode args = .ok ((request, outPtr), rest) → request rt.host.memory = .ok r →
        p.op r rt.host.ext = (.error err, ext') → E.intoExtError err = .ok e →
        run (h.handler E K) args rt = (.ok (status e.encoding.length), ⟨⟨ext', rt.host.memory⟩, rt.err⟩) ∧
          guestCall E K [(h, args), (.error, bufArgs)] rt =
            (false, ⟨⟨ext', overwrite rt.host.memory buf.toNat e.encoding⟩, rt.err⟩)) ∧
    (∀ (p : PushParts σ ε), h.pushParts E = some p →
      ∀ rest request r err, p.decode args = .ok ((request, ()), rest) → request rt.host.memory = .ok r →
        p.op r rt.host.ext = (.error err, ext') → E.intoExtError err = .ok e →
        run (h.handler E K) args rt = (.ok (status e.encoding.length), ⟨⟨ext', rt.host.memory⟩, rt.err⟩) ∧
          guestCall E K [(h, args), (.error, bufArgs)] rt =
            (false, ⟨⟨ext', overwrite rt.host.memory buf.toNat e.encoding⟩, rt.err⟩)) := by
  have reported : run (Syscall.error.handler E K) bufArgs ⟨⟨ext', rt.host.memory⟩, rt.err⟩ =
      (.ok .Unit, ⟨⟨ext', overwrite rt.host.memory buf.toNat e.encoding⟩, rt.err⟩) :=
    error_run E popped kept writable
  refine ⟨fun p parts _ _ _ _ _ decoded read failed domain => ?_, fun p parts _ _ _ _ decoded read failed domain => ?_⟩
  · have first := run_of_ok ((Syscall.handler_of_statusParts parts).symm ▸
      statusSyscall_of_domain E decoded read failed domain)
    exact ⟨first, by simp only [guestCall, first, reported]⟩
  · have first := run_of_ok ((Syscall.handler_of_pushParts (K := K) parts).symm ▸
      pushSyscall_of_domain E decoded read failed domain)
    exact ⟨first, by simp only [guestCall, first, reported]⟩

-- `send_init` fails with a one-byte domain error: it reports `1`, and `error` writes that byte.
theorem failed_send_init_reports_error_length :
    run (Syscall.sendInit.handler { Ext.uniform (.error ()) with
          intoExtError := fun _ => .ok ⟨[1], by decide, by decide⟩,
          lastError := fun _ => some ⟨[1], by decide, by decide⟩ }
        ⟨64, 64, 32⟩) [.I32 0 (by decide)] ⟨⟨(), [0, 0]⟩, .NoReplyContext⟩ =
        (.ok (status 1), ⟨⟨(), [0, 0]⟩, .NoReplyContext⟩) ∧
      guestCall { Ext.uniform (.error ()) with
          intoExtError := fun _ => .ok ⟨[1], by decide, by decide⟩,
          lastError := fun _ => some ⟨[1], by decide, by decide⟩ }
        ⟨64, 64, 32⟩ [(.sendInit, [.I32 0 (by decide)]), (.error, [.I32 1 (by decide)])]
        ⟨⟨(), [0, 0]⟩, .NoReplyContext⟩ =
        (false, ⟨⟨(), [0, 1]⟩, .NoReplyContext⟩) :=
  (failure_status_is_error_length _ ⟨64, 64, 32⟩ .sendInit [.I32 0 (by decide)] ⟨⟨(), [0, 0]⟩, .NoReplyContext⟩ ()
    ⟨[1], by decide, by decide⟩ rfl [.I32 1 (by decide)] [] 1 rfl (by decide)).1 _ rfl [] _ 0 () () rfl rfl rfl rfl

end Gear.Sandbox
