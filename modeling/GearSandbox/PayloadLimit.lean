import GearSandbox.PreDispatch

set_option autoImplicit false

/- The payload limit. `send*`, `reply*` and `create_program*` turn the payload they read into a
   `Payload` with `try_into`, which refuses more than `MAX_PAYLOAD_SIZE` bytes, and the commit
   variants build their packet with an empty payload. So no syscall hands the extension a packet
   whose payload is over the limit: an extension that answers such packets in any other way
   gives every guest call the same outcome. The limit is the sandbox's only bound on what it
   hands over; `send_push` and `reply_push` read their chunk, and `create_program` its salt, with
   a plain `read_memory`, bounded by guest memory alone. -/
namespace Gear.Sandbox

variable {σ ε : Type}

-- Every result the reads produce satisfies `P`.
def ReadM.Ensures {R : Type} (request : ReadM ε R) (P : R → Prop) : Prop :=
  ∀ memory r, request memory = .ok r → P r

namespace ReadM.Ensures

variable {R S : Type} {P : R → Prop} {Q : S → Prop}

theorem bind_apply (x : ReadM ε R) (f : R → ReadM ε S) (memory : Bytes) :
    (x >>= f) memory = (x memory).bind fun r => f r memory := rfl

theorem pure {r : R} (holds : P r) : (Pure.pure r : ReadM ε R).Ensures P := by
  rintro _ _ ⟨⟩
  exact holds

theorem bind {x : ReadM ε R} {f : R → ReadM ε S} (first : x.Ensures P) (rest : ∀ r, P r → (f r).Ensures Q) :
    (x >>= f).Ensures Q := by
  intro memory s ran
  rcases read : x memory with e | r <;> simp only [bind_apply, read, Except.bind, reduceCtorEq] at ran
  exact rest r (first memory r read) memory s ran

-- A read whose result the rest does not constrain.
theorem bind_of {x : ReadM ε R} {f : R → ReadM ε S} (rest : ∀ r, (f r).Ensures Q) : (x >>= f).Ensures Q :=
  bind (P := fun _ => True) (fun _ _ _ => trivial) fun r _ => rest r

end ReadM.Ensures

section Requests

variable (K : Config)

theorem readPayload_ensures (ptr len : Nat) :
    (readPayload K ptr len : ReadM ε Bytes).Ensures (·.length ≤ K.maxPayloadSize) := by
  refine .bind_of fun bytes memory payload ran => ?_
  unfold tryIntoPayload at ran
  split at ran
  · cases ran
    assumption
  · cases ran

-- The packet the pops and reads of a handler build has a payload within the limit.
def PayloadWithin {R : Type} (payload : R → Bytes) (decode : ArgsM (ReadM ε R × Nat)) : Prop :=
  decode.Ensures fun (request, _) => request.Ensures fun r => (payload r).length ≤ K.maxPayloadSize

-- Each proof follows its reader's `do` block: a `bind_of` per pop and per read, and
-- `readPayload_ensures` for the payload.

theorem sendArgs_payloadWithin : PayloadWithin K (·.1.payload) (FuncsHandler.sendArgs (ε := ε) K) :=
  .bind_of fun _ => .bind_of fun _ => .bind_of fun _ => .bind_of fun _ => .bind_of fun _ => .bind_of fun _ =>
    .pure <| .bind_of fun _ => .bind (readPayload_ensures K _ _) fun _ small => .bind_of fun _ => .bind_of fun _ =>
      .pure small

theorem sendWgasArgs_payloadWithin : PayloadWithin K (·.1.payload) (FuncsHandler.sendWgasArgs (ε := ε) K) :=
  .bind_of fun _ => .bind_of fun _ => .bind_of fun _ => .bind_of fun _ => .bind_of fun _ => .bind_of fun _ =>
    .bind_of fun _ => .pure <| .bind_of fun _ => .bind (readPayload_ensures K _ _) fun _ small =>
      .bind_of fun _ => .bind_of fun _ => .pure small

theorem replyArgs_payloadWithin : PayloadWithin K (·.1.payload) (FuncsHandler.replyArgs (ε := ε) K) :=
  .bind_of fun _ => .bind_of fun _ => .bind_of fun _ => .bind_of fun _ => .bind_of fun _ =>
    .pure <| .bind (readPayload_ensures K _ _) fun _ small => .bind_of fun _ => .bind_of fun _ => .pure small

theorem replyWgasArgs_payloadWithin : PayloadWithin K (·.1.payload) (FuncsHandler.replyWgasArgs (ε := ε) K) :=
  .bind_of fun _ => .bind_of fun _ => .bind_of fun _ => .bind_of fun _ => .bind_of fun _ => .bind_of fun _ =>
    .pure <| .bind (readPayload_ensures K _ _) fun _ small => .bind_of fun _ => .bind_of fun _ => .pure small

theorem createProgramArgs_payloadWithin :
    PayloadWithin K (·.1.payload) (FuncsHandler.createProgramArgs (ε := ε) K) :=
  .bind_of fun _ => .bind_of fun _ => .bind_of fun _ => .bind_of fun _ => .bind_of fun _ => .bind_of fun _ =>
    .bind_of fun _ => .bind_of fun _ => .pure <| .bind_of fun _ => .bind_of fun _ =>
      .bind (readPayload_ensures K _ _) fun _ small => .bind_of fun _ => .bind_of fun _ => .pure small

theorem createProgramWgasArgs_payloadWithin :
    PayloadWithin K (·.1.payload) (FuncsHandler.createProgramWgasArgs (ε := ε) K) :=
  .bind_of fun _ => .bind_of fun _ => .bind_of fun _ => .bind_of fun _ => .bind_of fun _ => .bind_of fun _ =>
    .bind_of fun _ => .bind_of fun _ => .bind_of fun _ => .pure <| .bind_of fun _ => .bind_of fun _ =>
      .bind (readPayload_ensures K _ _) fun _ small => .bind_of fun _ => .bind_of fun _ => .pure small

-- The commit variants build their packet with no payload at all.

theorem sendCommitArgs_payloadWithin : PayloadWithin K (·.2.1.payload) (FuncsHandler.sendCommitArgs (ε := ε)) :=
  .bind_of fun _ => .bind_of fun _ => .bind_of fun _ => .bind_of fun _ => .bind_of fun _ =>
    .pure <| .bind_of fun _ => .bind_of fun _ => .bind_of fun _ => .pure (Nat.zero_le _)

theorem sendCommitWgasArgs_payloadWithin :
    PayloadWithin K (·.2.1.payload) (FuncsHandler.sendCommitWgasArgs (ε := ε)) :=
  .bind_of fun _ => .bind_of fun _ => .bind_of fun _ => .bind_of fun _ => .bind_of fun _ => .bind_of fun _ =>
    .pure <| .bind_of fun _ => .bind_of fun _ => .bind_of fun _ => .pure (Nat.zero_le _)

theorem replyCommitArgs_payloadWithin : PayloadWithin K (·.1.payload) (FuncsHandler.replyCommitArgs (ε := ε)) :=
  .bind_of fun _ => .bind_of fun _ => .bind_of fun _ =>
    .pure <| .bind_of fun _ => .bind_of fun _ => .pure (Nat.zero_le _)

theorem replyCommitWgasArgs_payloadWithin :
    PayloadWithin K (·.1.payload) (FuncsHandler.replyCommitWgasArgs (ε := ε)) :=
  .bind_of fun _ => .bind_of fun _ => .bind_of fun _ => .bind_of fun _ =>
    .pure <| .bind_of fun _ => .bind_of fun _ => .pure (Nat.zero_le _)

end Requests

-- Two status handlers with the same pops, reads and error conversion agree when their
-- operations agree on every request the reads can produce.
theorem statusSyscall_congr {E E' : Ext σ ε} (sameErrors : E'.intoExtError = E.intoExtError) {R α : Type}
    {decode : ArgsM (ReadM ε R × Nat)} {op op' : R → σ → Except ε α × σ} {encode : α → Bytes} {P : R → Prop}
    (ensures : decode.Ensures fun (request, _) => request.Ensures P) (agree : ∀ r, P r → ∀ ext, op' r ext = op r ext) :
    statusSyscall E' decode op' encode = statusSyscall E decode op encode := by
  funext args rt
  rcases decoded : decode args with e | ⟨⟨request, outPtr⟩, rest⟩
  · simp only [statusSyscall, readThenCall, closureSyscall, withArgs_of_error decoded]
  rcases read : request rt.host.memory with e | r
  · have failing : decodedReadFailure decode args rt.host.memory = some e := by
      simp only [decodedReadFailure, readFailure, decoded, read]
    simp only [statusSyscall, readThenCall_of_readFailure failing]
  · simp only [statusSyscall, readThenCall_of_read decoded read, processed, sameErrors,
      funext (agree r (ensures args _ rest decoded rt.host.memory r read))]

-- The operations of the extension that take a packet.
structure PacketOps (σ ε : Type) where
  send : σ → HandlePacket → Nat → Except ε MessageId × σ
  sendCommit : σ → Nat → HandlePacket → Nat → Except ε MessageId × σ
  reply : σ → ReplyPacket → Nat → Except ε MessageId × σ
  replyCommit : σ → ReplyPacket → Nat → Except ε MessageId × σ
  createProgram : σ → InitPacket → Nat → Except ε ProgramId × σ

-- `E` with its packet operations replaced by `ops`.
def Ext.withPacketOps (E : Ext σ ε) (ops : PacketOps σ ε) : Ext σ ε :=
  { E with send := ops.send, sendCommit := ops.sendCommit, reply := ops.reply, replyCommit := ops.replyCommit,
           createProgram := ops.createProgram }

-- `ops` answers like `E` on every packet whose payload is within the limit.
structure PacketOps.AgreeWithin (K : Config) (E : Ext σ ε) (ops : PacketOps σ ε) : Prop where
  send : ∀ ext packet delay, packet.payload.length ≤ K.maxPayloadSize →
    ops.send ext packet delay = E.send ext packet delay
  sendCommit : ∀ ext handle packet delay, packet.payload.length ≤ K.maxPayloadSize →
    ops.sendCommit ext handle packet delay = E.sendCommit ext handle packet delay
  reply : ∀ ext packet delay, packet.payload.length ≤ K.maxPayloadSize →
    ops.reply ext packet delay = E.reply ext packet delay
  replyCommit : ∀ ext packet delay, packet.payload.length ≤ K.maxPayloadSize →
    ops.replyCommit ext packet delay = E.replyCommit ext packet delay
  createProgram : ∀ ext packet delay, packet.payload.length ≤ K.maxPayloadSize →
    ops.createProgram ext packet delay = E.createProgram ext packet delay

section Handlers

variable {E : Ext σ ε} {K : Config} {ops : PacketOps σ ε}

theorem handler_withPacketOps (agree : ops.AgreeWithin K E) (h : Syscall) :
    h.handler (E.withPacketOps ops) K = h.handler E K := by
  cases h
  case send =>
    exact statusSyscall_congr rfl (sendArgs_payloadWithin K) fun _ small _ => agree.send _ _ _ small
  case sendWgas =>
    exact statusSyscall_congr rfl (sendWgasArgs_payloadWithin K) fun _ small _ => agree.send _ _ _ small
  case sendCommit =>
    exact statusSyscall_congr rfl (sendCommitArgs_payloadWithin K) fun _ small _ => agree.sendCommit _ _ _ _ small
  case sendCommitWgas =>
    exact statusSyscall_congr rfl (sendCommitWgasArgs_payloadWithin K) fun _ small _ => agree.sendCommit _ _ _ _ small
  case reply =>
    exact statusSyscall_congr rfl (replyArgs_payloadWithin K) fun _ small _ => agree.reply _ _ _ small
  case replyWgas =>
    exact statusSyscall_congr rfl (replyWgasArgs_payloadWithin K) fun _ small _ => agree.reply _ _ _ small
  case replyCommit =>
    exact statusSyscall_congr rfl (replyCommitArgs_payloadWithin K) fun _ small _ => agree.replyCommit _ _ _ small
  case replyCommitWgas =>
    exact statusSyscall_congr rfl (replyCommitWgasArgs_payloadWithin K) fun _ small _ => agree.replyCommit _ _ _ small
  case createProgram =>
    exact statusSyscall_congr rfl (createProgramArgs_payloadWithin K) fun _ small _ => agree.createProgram _ _ _ small
  case createProgramWgas =>
    exact statusSyscall_congr rfl (createProgramWgasArgs_payloadWithin K) fun _ small _ =>
      agree.createProgram _ _ _ small
  all_goals rfl

-- No guest call tells `E` from an extension that answers otherwise on packets over the limit:
-- the sandbox never hands such a packet over.
theorem oversized_packets_never_reach_extension (agree : ops.AgreeWithin K E) (calls : List (Syscall × List Value))
    (rt : Runtime σ ε) : guestCall (E.withPacketOps ops) K calls rt = guestCall E K calls rt := by
  induction calls generalizing rt with
  | nil => rfl
  | cons call calls ih =>
    obtain ⟨h, args⟩ := call
    simp only [guestCall, handler_withPacketOps agree h, ih]

end Handlers

-- An extension that refuses every `send` over 64 bytes behaves as one that takes any.
theorem refusing_oversized_sends_is_invisible :
    guestCall ((Ext.uniform (.ok 0)).withPacketOps
        ⟨fun ext packet delay => if packet.payload.length ≤ 64 then (Ext.uniform (.ok 0)).send ext packet delay
          else (.error (), ext), (Ext.uniform (.ok 0)).sendCommit, (Ext.uniform (.ok 0)).reply,
          (Ext.uniform (.ok 0)).replyCommit, (Ext.uniform (.ok 0)).createProgram⟩) ⟨64, 64, 32⟩
        [(.send, List.replicate 6 (.I32 0 (by decide)))] ⟨⟨(), List.replicate 64 0⟩, .NoReplyContext⟩ =
      guestCall (Ext.uniform (.ok 0)) ⟨64, 64, 32⟩ [(.send, List.replicate 6 (.I32 0 (by decide)))]
        ⟨⟨(), List.replicate 64 0⟩, .NoReplyContext⟩ :=
  oversized_packets_never_reach_extension
    ⟨fun _ _ _ small => if_pos small, fun _ _ _ _ _ => rfl, fun _ _ _ _ => rfl, fun _ _ _ _ => rfl,
      fun _ _ _ _ => rfl⟩ _ _

end Gear.Sandbox
