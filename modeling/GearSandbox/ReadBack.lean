import GearSandbox.Status

set_option autoImplicit false

/- What the query handlers write reads back. `origin`, `program_id` and `source` write a
   `ProgramId`, `msg_id` and `reply_to` a `MessageId`, `value` and `value_available` the SCALE
   encoding of a `u128`, at the pointer they pop, and `send_init` its handle as a little-endian
   `u32`; the message handlers take their destination, waker id and value through
   `read_memory_as` of the same types. So a guest that hands a query's output pointer to a message
   handler passes on exactly what the extension answered. -/
namespace Gear.Sandbox

variable {σ ε : Type}

-- A fixed-width read right after the write of `D.size` bytes decodes those bytes.
theorem readMemoryAs_overwrite {α : Type} (D : Fixed α) {memory bytes : Bytes} {ptr : Nat}
    (sized : bytes.length = D.size) (inside : ptr + bytes.length ≤ memory.length) :
    (readMemoryAs D ptr (overwrite memory ptr bytes) : Except (ReadError ε) α) = .ok (D.decode bytes sized) := by
  have readable : ptr + D.size ≤ (overwrite memory ptr bytes).length := by
    simp only [overwrite, List.length_append, List.length_take, List.length_drop]
    omega
  have copied : window (overwrite memory ptr bytes) ptr D.size = bytes := sized ▸ window_overwrite inside
  simp only [readMemoryAs, dif_pos readable, copied]

theorem u128_decode_encodeU128 {amount : Nat} (below : amount < 2 ^ 128) :
    Fixed.u128.decode (encodeU128 amount) (encodeLE_length amount 16) = amount := by
  simp only [Fixed.u128, encodeU128, decodeLE_encodeLE]
  exact Nat.mod_eq_of_lt (by omega)

variable (E : Ext σ ε) (K : Config)

namespace Syscall

-- `h` returns `out`, moves the extension to `ext'`, keeps the slot, and leaves memory whose read
-- of a `D` at `ptr` gives back `x`.
def ReadsBack {α : Type} (h : Syscall) (D : Fixed α) (args : List Value) (rt : Runtime σ ε) (out : ReturnValue)
    (ptr : Nat) (x : α) (ext' : σ) : Prop :=
  ∃ memory, run (h.handler E K) args rt = (.ok out, ⟨⟨ext', memory⟩, rt.err⟩) ∧
    (readMemoryAs D ptr memory : Except (ReadError ε) α) = .ok x

end Syscall

section Runs

variable {args rest : List Value} {ptr : Int} {rt : Runtime σ ε} {ext' : σ}

theorem writeQuery_run {α : Type} {op : σ → Except ε α × σ} {encode : α → Bytes} {x : α}
    (popped : popI32 .u32 args = .ok (ptr, rest)) (answered : op rt.host.ext = (.ok x, ext'))
    (writable : ptr.toNat + (encode x).length ≤ rt.host.memory.length) :
    run (FuncsHandler.writeQuery op encode) args rt =
      (.ok .Unit, ⟨⟨ext', overwrite rt.host.memory ptr.toNat (encode x)⟩, rt.err⟩) := by
  simp [run, FuncsHandler.writeQuery, closureSyscall, withArgs_of_ok popped, bind_apply, trapOnErr, callExt,
    answered, propagate, writeOutput, Host.writeOutput, writable]

theorem replyTo_run {id : MessageId} (popped : popI32 .u32 args = .ok (ptr, rest))
    (answered : E.replyTo rt.host.ext = (.ok (some id), ext')) (writable : ptr.toNat + 32 ≤ rt.host.memory.length) :
    run (FuncsHandler.replyTo E) args rt =
      (.ok .Unit, ⟨⟨ext', overwrite rt.host.memory ptr.toNat id.bytes⟩, rt.err⟩) := by
  simp [run, FuncsHandler.replyTo, withArgs_of_ok popped, bind_apply, onHost, callExt, answered, coreOrTrap,
    trapOnErr, writeOutput, Host.writeOutput, id.size, writable]

theorem source_run {id : ProgramId} (popped : popI32 .u32 args = .ok (ptr, rest))
    (answered : E.source rt.host.ext = (.ok id, ext')) (writable : ptr.toNat + 32 ≤ rt.host.memory.length) :
    run (FuncsHandler.source E) args rt =
      (.ok .Unit, ⟨⟨ext', overwrite rt.host.memory ptr.toNat id.bytes⟩, rt.err⟩) := by
  simp [run, FuncsHandler.source, withArgs_of_ok popped, bind_apply, onHost, callExt, answered, trapOnErr,
    writeOutput, Host.writeOutput, id.size, writable]

-- `send_init` writes the handle's four little-endian bytes at the pointer it pops.
theorem sendInit_run {handle : Nat} (popped : popI32 .u32 args = .ok (ptr, rest))
    (answered : E.sendInit rt.host.ext = (.ok handle, ext')) (writable : ptr.toNat + 4 ≤ rt.host.memory.length) :
    run (FuncsHandler.sendInit E) args rt =
      (.ok (status 0), ⟨⟨ext', overwrite rt.host.memory ptr.toNat (encodeLE handle 4)⟩, rt.err⟩) := by
  have decoded : FuncsHandler.sendInitArgs (ε := ε) args = .ok ((pure (), ptr.toNat), rest) := by
    simp only [FuncsHandler.sendInitArgs, bind, StateT.bind, Except.bind, popped, pure, StateT.pure, Except.pure]
  rw [run, FuncsHandler.sendInit, statusSyscall_of_success E decoded rfl answered, encodeLE_length, if_pos writable]

-- A query through the template writes `D.size` bytes, which a read of a `D` decodes.
theorem writeQuery_reads_back {α : Type} (D : Fixed α) {op : σ → Except ε α × σ} {encode : α → Bytes}
    (sized : ∀ x, (encode x).length = D.size) {x : α} (popped : popI32 .u32 args = .ok (ptr, rest))
    (answered : op rt.host.ext = (.ok x, ext')) (writable : ptr.toNat + D.size ≤ rt.host.memory.length) :
    ∃ memory, run (FuncsHandler.writeQuery op encode) args rt = (.ok .Unit, ⟨⟨ext', memory⟩, rt.err⟩) ∧
      (readMemoryAs D ptr.toNat memory : Except (ReadError ε) α) = .ok (D.decode (encode x) (sized x)) :=
  ⟨_, writeQuery_run popped answered (sized x ▸ writable), readMemoryAs_overwrite D (sized x) (sized x ▸ writable)⟩

end Runs

theorem query_outputs_read_back (args rest : List Value) (ptr : Int) (rt : Runtime σ ε) (ext' : σ)
    (popped : popI32 .u32 args = .ok (ptr, rest)) :
    (ptr.toNat + 32 ≤ rt.host.memory.length → ∀ id : ProgramId,
      (E.origin rt.host.ext = (.ok id, ext') →
        Syscall.origin.ReadsBack E K .programId args rt .Unit ptr.toNat id ext') ∧
      (E.programId rt.host.ext = (.ok id, ext') →
        Syscall.programId.ReadsBack E K .programId args rt .Unit ptr.toNat id ext') ∧
      (E.source rt.host.ext = (.ok id, ext') →
        Syscall.source.ReadsBack E K .programId args rt .Unit ptr.toNat id ext')) ∧
    (ptr.toNat + 32 ≤ rt.host.memory.length → ∀ id : MessageId,
      (E.messageId rt.host.ext = (.ok id, ext') →
        Syscall.msgId.ReadsBack E K .messageId args rt .Unit ptr.toNat id ext') ∧
      (E.replyTo rt.host.ext = (.ok (some id), ext') →
        Syscall.replyTo.ReadsBack E K .messageId args rt .Unit ptr.toNat id ext')) ∧
    (ptr.toNat + 16 ≤ rt.host.memory.length → ∀ amount < 2 ^ 128,
      (E.value rt.host.ext = (.ok amount, ext') →
        Syscall.value.ReadsBack E K .u128 args rt .Unit ptr.toNat amount ext') ∧
      (E.valueAvailable rt.host.ext = (.ok amount, ext') →
        Syscall.valueAvailable.ReadsBack E K .u128 args rt .Unit ptr.toNat amount ext')) ∧
    (ptr.toNat + 4 ≤ rt.host.memory.length → ∀ handle < 2 ^ 32, E.sendInit rt.host.ext = (.ok handle, ext') →
      Syscall.sendInit.ReadsBack E K .u32 args rt (status 0) ptr.toNat handle ext') := by
  refine ⟨fun writable id => ⟨fun answered => ?_, fun answered => ?_, fun answered => ?_⟩,
    fun writable id => ⟨fun answered => ?_, fun answered => ?_⟩,
    fun writable amount below => ⟨fun answered => ?_, fun answered => ?_⟩,
    fun writable handle below answered => ?sendInit⟩
  · exact writeQuery_reads_back .programId ProgramId.size popped answered writable
  · exact writeQuery_reads_back .programId ProgramId.size popped answered writable
  · exact ⟨_, source_run E popped answered writable, readMemoryAs_overwrite .programId id.size (id.size ▸ writable)⟩
  · exact writeQuery_reads_back .messageId MessageId.size popped answered writable
  · exact ⟨_, replyTo_run E popped answered writable, readMemoryAs_overwrite .messageId id.size (id.size ▸ writable)⟩
  case sendInit =>
    refine ⟨_, sendInit_run E popped answered writable, ?_⟩
    rw [readMemoryAs_overwrite .u32 (encodeLE_length handle 4) (by simpa using writable)]
    simp only [Fixed.u32, decodeLE_encodeLE, Nat.mod_eq_of_lt (show handle < 256 ^ 4 by simpa using below)]
  all_goals
    obtain ⟨memory, ran, read⟩ := writeQuery_reads_back .u128 (encodeLE_length · 16) popped answered writable
    exact ⟨memory, ran, read.trans (congrArg _ (u128_decode_encodeU128 below))⟩

theorem value_five_reads_back :
    popI32 .u32 [.I32 0 (by decide)] = .ok (0, []) ∧ (0 : Int).toNat + 16 ≤ (List.replicate 16 0).length ∧
      Syscall.value.ReadsBack (Ext.uniform (.ok 5)) ⟨64, 64, 32⟩ .u128 [.I32 0 (by decide)]
        ⟨⟨(), List.replicate 16 0⟩, .NoReplyContext⟩ .Unit 0 5 () :=
  ⟨rfl, by decide, ((query_outputs_read_back (Ext.uniform (.ok 5)) ⟨64, 64, 32⟩ [.I32 0 (by decide)] [] 0
    ⟨⟨(), List.replicate 16 0⟩, .NoReplyContext⟩ () rfl).2.2.1 (by decide) 5 (by decide)).1 rfl⟩

end Gear.Sandbox
