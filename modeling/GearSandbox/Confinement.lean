import GearSandbox.Syscalls

set_option autoImplicit false

/- Write confinement. The handlers write guest memory only through `write_output`: at the output
   pointer they popped, no further than the bytes they write there, and never past its end, so the
   size of memory stays as it was. `alloc` alone hands the memory to the extension, to grow it.
   `Syscall.outputRegion` is the region each handler may write. Every combinator the handlers are
   built from keeps the bytes outside a region when its parts do, so every handler but `alloc`
   keeps those outside its own, and a guest call that makes no `alloc` keeps the size of memory. -/
namespace Gear.Sandbox

variable {σ ε : Type}

-- The `len` bytes of guest memory at `ptr`.
structure Region where
  ptr : Nat
  len : Nat
deriving DecidableEq, Repr

-- `i` lies before the region or past its end.
def Region.Outside (r : Region) (i : Nat) : Prop := i < r.ptr ∨ r.ptr + r.len ≤ i

instance (r : Region) (i : Nat) : Decidable (r.Outside i) := inferInstanceAs (Decidable (_ ∨ _))

-- `m'` has the size of `m`, and its bytes outside the region.
def SameOutside (r : Region) (m m' : Bytes) : Prop :=
  m'.length = m.length ∧ ∀ i, r.Outside i → m'[i]? = m[i]?

namespace SameOutside

variable {r : Region} {m m₁ m₂ : Bytes}

theorem refl (r : Region) (m : Bytes) : SameOutside r m m := ⟨rfl, fun _ _ => rfl⟩

theorem trans (first : SameOutside r m m₁) (second : SameOutside r m₁ m₂) : SameOutside r m m₂ :=
  ⟨second.1.trans first.1, fun i outside => (second.2 i outside).trans (first.2 i outside)⟩

-- Outside an empty region lies every byte.
end SameOutside

theorem overwrite_sameOutside {m bytes : Bytes} {ptr len : Nat} (inside : ptr + bytes.length ≤ m.length)
    (fits : bytes.length ≤ len) : SameOutside ⟨ptr, len⟩ m (overwrite m ptr bytes) := by
  have prefixLength : (m.take ptr ++ bytes).length = ptr + bytes.length := by
    simp only [List.length_append, List.length_take]
    omega
  refine ⟨by simp only [overwrite, List.length_append, List.length_take, List.length_drop]; omega,
    fun i outside => ?_⟩
  dsimp only [Region.Outside] at outside
  rcases outside with before | after
  · rw [overwrite, List.getElem?_append_left (by omega), List.getElem?_append_left (by simp; omega),
      List.getElem?_take_of_lt before]
  · rw [overwrite, List.getElem?_append_right (by omega), prefixLength, List.getElem?_drop]
    congr 1
    omega

-- The state a computation ends in, whether it returns or fails.
def finalState {δ S α : Type} : EStateM.Result δ S α → S
  | .ok _ s => s
  | .error _ s => s

theorem run_snd (h : Handler σ ε) (args : List Value) (rt : Runtime σ ε) :
    (run h args rt).2 = finalState (h args rt) := by
  unfold run
  rcases h args rt with ⟨_, _⟩ | ⟨_, _⟩ <;> rfl

-- The guest memory of a handler's context.
def Runtime.memory (rt : Runtime σ ε) : Bytes := rt.host.memory

-- However `x` ends, the memory `mem` sees keeps its size and its bytes outside `r`.
def Confined {δ S α : Type} (mem : S → Bytes) (r : Region) (x : EStateM δ S α) : Prop :=
  ∀ s, SameOutside r (mem s) (mem (finalState (x s)))

namespace Confined

section Generic

variable {δ S α β : Type} {mem : S → Bytes} {r : Region} {x : EStateM δ S α} {f : α → EStateM δ S β}

theorem of_memory_eq (keeps : ∀ s, mem (finalState (x s)) = mem s) : Confined mem r x := by
  intro s
  rw [keeps]
  exact .refl r _

-- The second part may rely on what the first returned.
theorem bind_of_returns {Q : α → Prop} (first : Confined mem r x) (returns : ∀ s a s', x s = .ok a s' → Q a)
    (rest : ∀ a, Q a → Confined mem r (f a)) : Confined mem r (x >>= f) := by
  intro s
  have firstSame := first s
  rw [bind_apply]
  split <;> rename_i ran <;> rw [ran] at firstSame
  · exact firstSame.trans (rest _ (returns _ _ _ ran) _)
  · exact firstSame

theorem bind (first : Confined mem r x) (rest : ∀ a, Confined mem r (f a)) : Confined mem r (x >>= f) :=
  bind_of_returns (Q := fun _ => True) first (fun _ _ _ _ => trivial) fun a _ => rest a

theorem pure (a : α) : Confined mem r (Pure.pure a : EStateM δ S α) := of_memory_eq fun _ => rfl

theorem throw (e : δ) : Confined mem r (MonadExcept.throw e : EStateM δ S α) := of_memory_eq fun _ => rfl

end Generic

section Closure

variable {δ α : Type} {r : Region}

theorem callExt (op : σ → Except ε α × σ) :
    Confined Host.memory r (Gear.Sandbox.callExt op : EStateM δ (Host σ) (Except ε α)) :=
  of_memory_eq fun _ => rfl

theorem lastError (E : Ext σ ε) : Confined Host.memory r (Gear.Sandbox.lastError E : EStateM δ (Host σ) _) :=
  of_memory_eq fun _ => rfl

theorem propagate (into : δ → FuncError ε) (res : Except δ α) :
    Confined Host.memory r (Gear.Sandbox.propagate into res : FuncM σ ε α) := by
  cases res
  · exact throw _
  · exact pure _

theorem reading (x : ReadM ε α) : Confined Host.memory r (Gear.Sandbox.reading x : FuncM σ ε α) :=
  of_memory_eq fun host => by
    simp only [Gear.Sandbox.reading]
    split <;> rfl

theorem writeOutput (ptr : Nat) {len : Nat} {bytes : Bytes} (fits : bytes.length ≤ len) :
    Confined Host.memory ⟨ptr, len⟩ (Gear.Sandbox.writeOutput ptr bytes : FuncM σ ε Unit) := by
  intro host
  by_cases inside : ptr + bytes.length ≤ host.memory.length
  · simpa only [finalState, Gear.Sandbox.writeOutput, Host.writeOutput, inside, if_true]
      using overwrite_sameOutside inside fits
  · simpa only [finalState, Gear.Sandbox.writeOutput, Host.writeOutput, inside, if_false]
      using SameOutside.refl _ host.memory

end Closure

section Handler

variable {α β : Type} {r : Region}

theorem trapOnErr {x : FuncM σ ε α} (confined : Confined Host.memory r x) :
    Confined Runtime.memory r (Gear.Sandbox.trapOnErr x) := by
  intro rt
  have same := confined rt.host
  simp only [Gear.Sandbox.trapOnErr]
  split <;> rename_i ran <;> rw [ran] at same <;> exact same

theorem onHost {x : EStateM HostError (Host σ) α} (confined : Confined Host.memory r x) :
    Confined Runtime.memory r (Gear.Sandbox.onHost x : SyscallM σ ε α) := by
  intro rt
  have same := confined rt.host
  simp only [Gear.Sandbox.onHost]
  split <;> rename_i ran <;> rw [ran] at same <;> exact same

theorem trapWith (err : FuncError ε) : Confined Runtime.memory r (Gear.Sandbox.trapWith err : SyscallM σ ε α) :=
  of_memory_eq fun _ => rfl

theorem output (out : SyscallOutput) : Confined Runtime.memory r (Gear.Sandbox.output out : SyscallM σ ε ReturnValue) :=
  of_memory_eq fun _ => by cases out <;> rfl

theorem coreOrTrap (res : Except ε α) : Confined Runtime.memory r (Gear.Sandbox.coreOrTrap res : SyscallM σ ε α) := by
  cases res
  · exact trapWith _
  · exact pure _

theorem withArgs {decode : ArgsM α} {body : α → SyscallM σ ε ReturnValue} {args : List Value}
    (confined : ∀ a rest, decode args = .ok (a, rest) → Confined Runtime.memory r (body a)) :
    Confined Runtime.memory r (Gear.Sandbox.withArgs decode body args) := by
  unfold Gear.Sandbox.withArgs
  split
  · exact confined _ _ (by assumption)
  · exact of_memory_eq fun _ => rfl

theorem closureSyscall {decode : ArgsM α} {f : α → FuncM σ ε β} {finish : β → SyscallM σ ε ReturnValue}
    {args : List Value} (confined : ∀ a rest, decode args = .ok (a, rest) → Confined Host.memory r (f a))
    (finishes : ∀ b, Confined Runtime.memory r (finish b)) :
    Confined Runtime.memory r (Gear.Sandbox.closureSyscall decode f finish args) :=
  withArgs fun a rest decoded => bind (trapOnErr (confined a rest decoded)) finishes

theorem readThenCall {R γ : Type} {decode : ArgsM (ReadM ε R × γ)} {call : γ → R → FuncM σ ε β}
    {finish : β → SyscallM σ ε ReturnValue} {args : List Value}
    (confined : ∀ request a rest, decode args = .ok ((request, a), rest) → ∀ v, Confined Host.memory r (call a v))
    (finishes : ∀ b, Confined Runtime.memory r (finish b)) :
    Confined Runtime.memory r (Gear.Sandbox.readThenCall decode call finish args) :=
  closureSyscall (fun a rest decoded => bind (reading a.1) (confined a.1 a.2 rest decoded)) finishes

end Handler

end Confined

-- The region a handler with pops `decode` writes, read off what it popped; nothing when a pop
-- fails.
def poppedRegion {α : Type} (decode : ArgsM α) (region : α → Region) (args : List Value) : Region :=
  match decode args with
  | .ok (a, _) => region a
  | .error _ => ⟨0, 0⟩

theorem poppedRegion_of_ok {α : Type} {decode : ArgsM α} {region : α → Region} {args rest : List Value} {a : α}
    (decoded : decode args = .ok (a, rest)) : poppedRegion decode region args = region a := by
  simp only [poppedRegion, decoded]

namespace Syscall

variable (E : Ext σ ε) (K : Config)

-- Where `h` may write guest memory: from the output pointer it pops, as many bytes as it writes
-- there (an id, a handle, a `u128`, the requested slice of the message, the encoded last error);
-- nothing for the handlers that write no output.
def outputRegion (h : Syscall) (args : List Value) (host : Host σ) : Region :=
  match h with
  | .send => poppedRegion (FuncsHandler.sendArgs (ε := ε) K) (fun (_, outPtr) => ⟨outPtr, 32⟩) args
  | .sendWgas => poppedRegion (FuncsHandler.sendWgasArgs (ε := ε) K) (fun (_, outPtr) => ⟨outPtr, 32⟩) args
  | .sendCommit => poppedRegion (FuncsHandler.sendCommitArgs (ε := ε)) (fun (_, outPtr) => ⟨outPtr, 32⟩) args
  | .sendCommitWgas =>
    poppedRegion (FuncsHandler.sendCommitWgasArgs (ε := ε)) (fun (_, outPtr) => ⟨outPtr, 32⟩) args
  | .sendInit => poppedRegion (FuncsHandler.sendInitArgs (ε := ε)) (fun (_, outPtr) => ⟨outPtr, 4⟩) args
  | .reply => poppedRegion (FuncsHandler.replyArgs (ε := ε) K) (fun (_, outPtr) => ⟨outPtr, 32⟩) args
  | .replyWgas => poppedRegion (FuncsHandler.replyWgasArgs (ε := ε) K) (fun (_, outPtr) => ⟨outPtr, 32⟩) args
  | .replyCommit => poppedRegion (FuncsHandler.replyCommitArgs (ε := ε)) (fun (_, outPtr) => ⟨outPtr, 32⟩) args
  | .replyCommitWgas =>
    poppedRegion (FuncsHandler.replyCommitWgasArgs (ε := ε)) (fun (_, outPtr) => ⟨outPtr, 32⟩) args
  | .createProgram =>
    poppedRegion (FuncsHandler.createProgramArgs (ε := ε) K) (fun (_, outPtr) => ⟨outPtr, 32⟩) args
  | .createProgramWgas =>
    poppedRegion (FuncsHandler.createProgramWgasArgs (ε := ε) K) (fun (_, outPtr) => ⟨outPtr, 32⟩) args
  | .read => poppedRegion (FuncsHandler.readArgs K) (fun (_, len, dest) => ⟨dest, len⟩) args
  | .origin | .msgId | .programId | .replyTo | .source =>
    poppedRegion (popI32 .u32) (fun ptr => ⟨ptr.toNat, 32⟩) args
  | .value | .valueAvailable => poppedRegion (popI32 .u32) (fun ptr => ⟨ptr.toNat, 16⟩) args
  | .error =>
    poppedRegion (popI32 .u32) (fun dataPtr => ⟨dataPtr.toNat, ((E.lastError host.ext).map (·.encodedSize)).getD 0⟩)
      args
  | _ => ⟨0, 0⟩

end Syscall

variable (E : Ext σ ε) (K : Config)

section Families

variable {R α : Type} {width : Nat}

theorem statusSyscall_confined {decode : ArgsM (ReadM ε R × Nat)} {op : R → σ → Except ε α × σ}
    {encode : α → Bytes} (fits : ∀ x, (encode x).length ≤ width) (args : List Value) :
    Confined Runtime.memory (poppedRegion decode (fun (_, outPtr) => ⟨outPtr, width⟩) args)
      (statusSyscall E decode op encode args) := by
  refine .readThenCall (fun request outPtr rest decoded _ => ?_) fun _ => .pure _
  rw [poppedRegion_of_ok decoded]
  refine .bind (.bind (.callExt _) fun _ => .propagate _ _) fun processed => ?_
  cases processed
  · exact .pure _
  · exact .bind (.writeOutput _ (fits _)) fun _ => .pure _

theorem pushSyscall_confined {decode : ArgsM (ReadM ε R × Unit)} {op : R → σ → Except ε Unit × σ}
    (r : Region) (args : List Value) : Confined Runtime.memory r (pushSyscall E decode op args) :=
  .readThenCall (fun _ _ _ _ _ => .bind (.bind (.callExt _) fun _ => .propagate _ _) fun _ => .pure _)
    fun _ => .pure _

theorem writeQuery_confined {op : σ → Except ε α × σ} {encode : α → Bytes} (fits : ∀ x, (encode x).length ≤ width)
    (args : List Value) :
    Confined Runtime.memory (poppedRegion (popI32 .u32) (fun ptr => ⟨ptr.toNat, width⟩) args)
      (FuncsHandler.writeQuery op encode args) := by
  refine .closureSyscall (fun ptr rest decoded => ?_) fun _ => .pure _
  rw [poppedRegion_of_ok decoded]
  exact .bind (.callExt _) fun _ => .bind (.propagate _ _) fun _ => .writeOutput _ (fits _)

end Families

-- What `read` hands to `write_validated_output` is exactly `len` bytes long.
theorem readRange_length {start len : Nat} {host host' : Host σ} {bytes : Bytes}
    (returned : readRange E K start len host = .ok bytes host') : bytes.length = len := by
  revert returned
  unfold readRange
  split
  · intro returned
    obtain ⟨_, _, -, returned⟩ := bind_eq_ok returned
    obtain ⟨_, _, -, returned⟩ := bind_eq_ok returned
    cases returned
  rename_i lastIdx added
  intro returned
  obtain ⟨_, _, -, returned⟩ := bind_eq_ok returned
  obtain ⟨msg, _, -, returned⟩ := bind_eq_ok returned
  dsimp only at returned
  split at returned
  · cases returned
  cases returned
  rw [(sliceRange _ _ _ _).2, checkedAdd_eq_some added]
  omega

theorem readRange_confined (r : Region) (start len : Nat) :
    Confined Host.memory r (readRange E K start len) := by
  refine .bind (.callExt _) fun _ => .bind (.propagate _ _) fun _ => ?_
  split
  · exact .throw _
  · split
    · exact .throw _
    · exact .pure _

-- `error` writes the encoding of the error the extension reported last, which the region's
-- length reads from the context the call starts in.
theorem error_confined (args : List Value) (rt : Runtime σ ε) :
    SameOutside (Syscall.error.outputRegion E K args rt.host) rt.host.memory
      (finalState (FuncsHandler.error E args rt)).host.memory := by
  rcases popped : popI32 .u32 args with _ | ⟨dataPtr, rest⟩
  · simp only [FuncsHandler.error, closureSyscall, withArgs_of_error popped, finalState]
    exact .refl _ _
  unfold Syscall.outputRegion
  simp only [poppedRegion_of_ok popped, FuncsHandler.error, closureSyscall, withArgs_of_ok popped]
  cases found : E.lastError rt.host.ext with
  | none =>
    simp only [bind_apply, trapOnErr, lastError, found, throw_apply, finalState]
    exact .refl _ _
  | some err =>
    have written := Confined.writeOutput (σ := σ) (ε := ε) dataPtr.toNat (le_refl err.encodedSize) rt.host
    simp only [bind_apply, trapOnErr, lastError, found, pure_apply, Option.map_some', Option.getD_some]
    revert written
    rcases Gear.Sandbox.writeOutput dataPtr.toNat err.encoding rt.host with ⟨_, _⟩ | ⟨_, _⟩ <;> exact id

-- Every handler but `alloc` leaves the size of memory, and every byte outside the region it may
-- write, as it found them.
theorem handler_writes_only_output_region (h : Syscall) (grows : h ≠ .alloc) (args : List Value) (rt : Runtime σ ε) :
    SameOutside (h.outputRegion E K args rt.host) rt.host.memory (run (h.handler E K) args rt).2.host.memory := by
  rw [run_snd]
  unfold Syscall.outputRegion
  cases h <;> dsimp only [Syscall.handler]
  case send | sendWgas | sendCommit | sendCommitWgas | sendInit | reply | replyWgas | replyCommit
    | replyCommitWgas | createProgram | createProgramWgas =>
    exact statusSyscall_confined E (fun _ => by simp [MessageId.size, ProgramId.size]) args rt
  case sendPush | replyPush => exact pushSyscall_confined E _ args rt
  case origin | msgId | programId | value | valueAvailable =>
    exact writeQuery_confined (fun _ => by simp [MessageId.size, ProgramId.size, encodeU128]) args rt
  case read =>
    refine Confined.closureSyscall (fun a rest decoded => ?_) (fun _ => .pure _) rt
    rw [poppedRegion_of_ok decoded]
    exact .bind_of_returns (readRange_confined E K _ _ _) (fun _ _ _ => readRange_length E K)
      fun _ sized => .writeOutput _ sized.le
  case error => exact error_confined E K args rt
  case replyTo =>
    refine Confined.withArgs (fun dest rest decoded => ?_) rt
    rw [poppedRegion_of_ok decoded]
    refine .bind (.onHost (.callExt _)) fun res => .bind (.coreOrTrap res) fun id => ?_
    cases id
    · exact .trapWith _
    · exact .bind (.trapOnErr (.writeOutput _ (MessageId.size _).le)) fun _ => .pure _
  case source =>
    refine Confined.withArgs (fun sourcePtr rest decoded => ?_) rt
    rw [poppedRegion_of_ok decoded]
    refine .bind (.onHost (.callExt _)) fun res => ?_
    cases res
    · exact .trapWith _
    · exact .bind (.trapOnErr (.writeOutput _ (ProgramId.size _).le)) fun _ => .pure _
  case alloc => exact absurd rfl grows
  case size | gasAvailable =>
    exact Confined.bind (.onHost (.callExt _)) (fun res => by
      cases res <;> first | exact .output _ | exact .throw _ | exact .trapWith _) rt
  case exitCode =>
    exact Confined.bind (.onHost (.callExt _)) (fun res => .bind (.coreOrTrap res) fun code => by
      cases code <;> first | exact .output _ | exact .trapWith _) rt
  case gas =>
    exact Confined.withArgs (fun _ _ _ => .bind (.onHost (.callExt _)) fun res => by
      cases res <;> dsimp only <;> (try split) <;> first | exact .pure _ | exact .throw _ | exact .trapWith _) rt
  case free =>
    exact Confined.withArgs (fun _ _ _ => .bind (.onHost (.callExt _)) fun res => by
      cases res <;> first | exact .pure _ | exact .trapWith _) rt
  case blockHeight | blockTimestamp =>
    exact Confined.bind (.onHost (.callExt _)) (fun res => .bind (.coreOrTrap res) fun _ => .output _) rt
  case debug | wake =>
    exact Confined.readThenCall (fun _ _ _ _ _ => .bind (.callExt _) fun _ => .propagate _ _) (fun _ => .pure _) rt
  case leave | wait => exact Confined.bind (.onHost (.callExt _)) (fun _ => .trapWith _) rt
  case exit =>
    exact Confined.readThenCall (fun _ _ _ _ _ => .bind (.callExt _) fun _ => .bind (.propagate _ _) fun _ => .throw _)
      (fun _ => .throw _) rt
  case waitFor | waitUpTo =>
    dsimp only [FuncsHandler.waitFor, FuncsHandler.waitUpTo]
    exact Confined.readThenCall (fun _ _ _ _ _ => .bind (.callExt _) fun _ => .bind (.propagate _ _) fun _ => .pure _)
      (fun _ => .trapWith _) rt
  case forbidden => exact Confined.trapWith _ rt

-- The regions a guest call may write: each call's, read off the context that call starts in, up
-- to the first call that traps.
def writtenRegions : List (Syscall × List Value) → Runtime σ ε → List Region
  | [], _ => []
  | (h, args) :: calls, rt =>
    h.outputRegion E K args rt.host ::
      match run (h.handler E K) args rt with
      | (.ok _, rt') => writtenRegions calls rt'
      | (.error _, _) => []

-- Over a guest call that makes no `alloc`, memory keeps its size, and every byte that lies outside
-- the regions the calls may write keeps its value.
theorem guestCall_writes_only_output_regions (calls : List (Syscall × List Value))
    (noAlloc : ∀ call ∈ calls, call.1 ≠ .alloc) (rt : Runtime σ ε) :
    (guestCall E K calls rt).2.host.memory.length = rt.host.memory.length ∧
      ∀ i, (∀ region ∈ writtenRegions E K calls rt, region.Outside i) →
        (guestCall E K calls rt).2.host.memory[i]? = rt.host.memory[i]? := by
  induction calls generalizing rt with
  | nil => exact ⟨rfl, fun _ _ => rfl⟩
  | cons call calls ih =>
    obtain ⟨h, args⟩ := call
    have step := handler_writes_only_output_region E K h (noAlloc _ (List.mem_cons_self _ _)) args rt
    rcases ran : run (h.handler E K) args rt with ⟨_ | _, rt'⟩ <;> rw [ran] at step <;>
      simp only [guestCall, writtenRegions, ran, List.mem_cons, List.not_mem_nil, or_false, forall_eq_or_imp,
        forall_eq]
    case error => exact ⟨step.1, fun i first => step.2 i first⟩
    case ok =>
      have rest := ih (fun call listed => noAlloc call (List.mem_cons_of_mem _ listed)) rt'
      exact ⟨rest.1.trans step.1, fun i ⟨first, later⟩ => (rest.2 i later).trans (step.2 i first)⟩

-- A `value` query writes its sixteen bytes at `2` and `size` writes none: the two bytes in
-- front of the value keep theirs.
theorem value_then_size_keeps_front_bytes :
    (guestCall (Ext.uniform (.ok 5)) ⟨64, 64, 32⟩ [(.value, [.I32 2 (by decide)]), (.size, [])]
        ⟨⟨(), (List.range 20).map Nat.toUInt8⟩, .NoReplyContext⟩).2.host.memory.length = 20 ∧
      (guestCall (Ext.uniform (.ok 5)) ⟨64, 64, 32⟩ [(.value, [.I32 2 (by decide)]), (.size, [])]
        ⟨⟨(), (List.range 20).map Nat.toUInt8⟩, .NoReplyContext⟩).2.host.memory[0]? = some 0 ∧
      (guestCall (Ext.uniform (.ok 5)) ⟨64, 64, 32⟩ [(.value, [.I32 2 (by decide)]), (.size, [])]
        ⟨⟨(), (List.range 20).map Nat.toUInt8⟩, .NoReplyContext⟩).2.host.memory[1]? = some 1 :=
  have kept := guestCall_writes_only_output_regions (Ext.uniform (.ok 5)) ⟨64, 64, 32⟩
    [(.value, [.I32 2 (by decide)]), (.size, [])] (by decide) ⟨⟨(), (List.range 20).map Nat.toUInt8⟩, .NoReplyContext⟩
  ⟨kept.1, kept.2 0 (by decide), kept.2 1 (by decide)⟩

end Gear.Sandbox
