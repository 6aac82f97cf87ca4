import GearSandbox.Refinement
import GearSandbox.PreDispatch

set_option autoImplicit false

/- The reason a guest call ends with. `into_termination_reason` passes a `Terminated` reason
   through and turns every other error into a trap, so a control-flow reason reaches the host
   only if a handler recorded it. Only the control-flow syscalls record one: `exit` the
   beneficiary it read, `leave` and `wait` their own, `wait_for` and `wait_up_to` the duration
   they read, and `gas` an exceeded allowance. None of the control-flow syscalls returns, and
   each records the error of a failing hook as `Core` in place of its own reason. -/
namespace Gear.Sandbox

variable {σ ε : Type}

-- The control-flow reasons `h` may end a guest call with, given the arguments and the memory
-- it found: each only from its own syscall, carrying what that syscall read at its pointer.
def Syscall.MayTerminate (h : Syscall) (args : List Value) (memory : Bytes) : TerminationReason → Prop
  | .Exit id => h = .exit ∧ ∃ ptr rest, popI32 .u32 args = .ok (ptr, rest) ∧
      ptr.toNat + 32 ≤ memory.length ∧ id.bytes = window memory ptr.toNat 32
  | .Leave => h = .leave
  | .Wait none => h = .wait
  | .Wait (some duration) => (h = .waitFor ∨ h = .waitUpTo) ∧ ∃ ptr rest, popI32 .u32 args = .ok (ptr, rest) ∧
      ptr.toNat + 4 ≤ memory.length ∧ duration = decodeLE (window memory ptr.toNat 4)
  | .GasAllowanceExceeded => h = .gas
  | .Trap _ => True

theorem intoTerminationReason_of_ordinary [ToString ε] {err : FuncError ε} (ordinary : err.Ordinary) :
    err.intoTerminationReason = .Trap (.Other err.toString) :=
  FuncError.intoTerminationReason_of_not_terminated fun _ terminated => by subst terminated; exact ordinary

-- `exit`, `wait_for` and `wait_up_to` pop one pointer and read a value of `D` there.
theorem pointerArgs_of_ok {α : Type} {D : Fixed α} {args rest : List Value} {request : ReadM ε α}
    (decoded : (do let ptr ← popI32 .u32; pure (readMemoryAs D ptr.toNat, ())) args = .ok ((request, ()), rest)) :
    ∃ ptr, popI32 .u32 args = .ok (ptr, rest) ∧ request = readMemoryAs D ptr.toNat := by
  rcases popped : popI32 .u32 args with _ | ⟨ptr, rest'⟩
  · simp only [bind, StateT.bind, Except.bind, popped, reduceCtorEq] at decoded
  · simp only [popped, bind, StateT.bind, Except.bind, pure, StateT.pure, Except.pure, Except.ok.injEq,
      Prod.mk.injEq] at decoded
    obtain ⟨⟨rfl, -⟩, rfl⟩ := decoded
    exact ⟨ptr, rfl, rfl⟩

theorem pointerArgs_of_popped {α : Type} (D : Fixed α) {args rest : List Value} {ptr : Int}
    (popped : popI32 .u32 args = .ok (ptr, rest)) :
    (do let ptr ← popI32 .u32; pure (readMemoryAs D ptr.toNat, ()) : ArgsM (ReadM ε α × Unit)) args =
      .ok ((readMemoryAs D ptr.toNat, ()), rest) := by
  simp only [bind, StateT.bind, Except.bind, popped, pure, StateT.pure, Except.pure]

theorem readMemoryAs_of_ok {α : Type} {D : Fixed α} {ptr : Nat} {memory : Bytes} {v : α}
    (read : (readMemoryAs D ptr memory : Except (ReadError ε) α) = .ok v) :
    ∃ inside : ptr + D.size ≤ memory.length, v = D.decode (window memory ptr D.size) (window_length inside) := by
  unfold readMemoryAs at read
  split at read
  · cases read
    exact ⟨by assumption, rfl⟩
  · cases read

variable (E : Ext σ ε) (K : Config)

theorem terminateWith_run (hook : σ → Except ε Unit × σ) (reason : TerminationReason) (args : List Value)
    (rt : Runtime σ ε) :
    run (FuncsHandler.terminateWith hook reason) args rt =
      (.error ⟨⟩, ⟨⟨(hook rt.host.ext).2, rt.host.memory⟩, coreErrOr (hook rt.host.ext).1 (.Terminated reason)⟩) :=
  rfl

section Read

variable {args rest : List Value} {ptr : Int} {rt : Runtime σ ε}

-- `wait_for` and `wait_up_to` call the hook with the duration read at their pointer, and record
-- its error or the wait.
theorem waitDuration_run (hook : σ → Nat → Except ε Unit × σ) {duration : Nat}
    (popped : popI32 .u32 args = .ok (ptr, rest))
    (read : readMemoryAs (ε := ε) .u32 ptr.toNat rt.host.memory = .ok duration) :
    run (FuncsHandler.waitDuration hook) args rt =
      (.error ⟨⟩, ⟨⟨(hook rt.host.ext duration).2, rt.host.memory⟩,
        coreErrOr (hook rt.host.ext duration).1 (.Terminated (.Wait (some duration)))⟩) := by
  have decoded : FuncsHandler.durationArgs (ε := ε) args = .ok ((readMemoryAs .u32 ptr.toNat, ()), rest) :=
    pointerArgs_of_popped .u32 popped
  rw [run, FuncsHandler.waitDuration, readThenCall_of_read decoded read]
  rcases hooked : (hook rt.host.ext duration).1 with _ | ⟨⟩ <;>
    simp only [propagate, bind_pure_comp, bind_apply, trapOnErr, callExt, hooked, map_apply, throw_apply, pure_apply,
      trapWith, coreErrOr]

-- `exit` calls `ext.exit()` once it read the beneficiary, and records its error or the exit.
theorem exit_run {id : ProgramId} (popped : popI32 .u32 args = .ok (ptr, rest))
    (read : readMemoryAs (ε := ε) .programId ptr.toNat rt.host.memory = .ok id) :
    run (FuncsHandler.exit E) args rt =
      (.error ⟨⟩, ⟨⟨(E.exit rt.host.ext).2, rt.host.memory⟩,
        coreErrOr (E.exit rt.host.ext).1 (.Terminated (.Exit id))⟩) := by
  have decoded : FuncsHandler.exitArgs (ε := ε) args = .ok ((readMemoryAs .programId ptr.toNat, ()), rest) :=
    pointerArgs_of_popped .programId popped
  rw [run, FuncsHandler.exit, readThenCall_of_read decoded read]
  rcases exited : (E.exit rt.host.ext).1 with _ | ⟨⟩ <;>
    simp only [propagate, bind_apply, trapOnErr, callExt, exited, pure_apply, throw_apply, coreErrOr]

end Read

-- Everything `wait_for` and `wait_up_to` can do: fail to pop, fail to read the duration, or call
-- the hook with the duration read.
theorem waitDuration_outcome (hook : σ → Nat → Except ε Unit × σ) (args : List Value) (rt : Runtime σ ε) :
    run (FuncsHandler.waitDuration hook) args rt = (.error ⟨⟩, rt) ∨
      (∃ e : ReadError ε, run (FuncsHandler.waitDuration hook) args rt = (.error ⟨⟩, { rt with err := e.into })) ∨
      ∃ ptr rest duration, popI32 .u32 args = .ok (ptr, rest) ∧
        readMemoryAs (ε := ε) .u32 ptr.toNat rt.host.memory = .ok duration := by
  rcases readThenCall_cases FuncsHandler.durationArgs _ _ args rt with
    kept | ⟨e, trapped⟩ | ⟨request, ⟨⟩, rest, duration, decoded, read, -⟩
  · exact .inl (run_of_error kept)
  · exact .inr (.inl ⟨e, run_of_error trapped⟩)
  · obtain ⟨ptr, popped, rfl⟩ := pointerArgs_of_ok decoded
    exact .inr (.inr ⟨ptr, rest, duration, popped, read⟩)

-- Everything `exit` can do: fail to pop, fail to read the beneficiary, or call `ext.exit()`.
theorem exit_outcome (args : List Value) (rt : Runtime σ ε) :
    run (FuncsHandler.exit E) args rt = (.error ⟨⟩, rt) ∨
      (∃ e : ReadError ε, run (FuncsHandler.exit E) args rt = (.error ⟨⟩, { rt with err := e.into })) ∨
      ∃ ptr rest id, popI32 .u32 args = .ok (ptr, rest) ∧
        readMemoryAs (ε := ε) .programId ptr.toNat rt.host.memory = .ok id := by
  rcases readThenCall_cases FuncsHandler.exitArgs _ _ args rt with
    kept | ⟨e, trapped⟩ | ⟨request, ⟨⟩, rest, id, decoded, read, -⟩
  · exact .inl (run_of_error kept)
  · exact .inr (.inl ⟨e, run_of_error trapped⟩)
  · obtain ⟨ptr, popped, rfl⟩ := pointerArgs_of_ok decoded
    exact .inr (.inr ⟨ptr, rest, id, popped, read⟩)

theorem waitDuration_traps (hook : σ → Nat → Except ε Unit × σ) (args : List Value) (rt : Runtime σ ε) :
    (run (FuncsHandler.waitDuration hook) args rt).1 = .error ⟨⟩ := by
  rcases waitDuration_outcome hook args rt with kept | ⟨_, trapped⟩ | ⟨_, _, _, popped, read⟩
  · rw [kept]
  · rw [trapped]
  · rw [waitDuration_run hook popped read]

theorem exit_traps (args : List Value) (rt : Runtime σ ε) : (run (FuncsHandler.exit E) args rt).1 = .error ⟨⟩ := by
  rcases exit_outcome E args rt with kept | ⟨_, trapped⟩ | ⟨_, _, _, popped, read⟩
  · rw [kept]
  · rw [trapped]
  · rw [exit_run E popped read]

section Slot

variable [ToString ε] {args : List Value} {rt : Runtime σ ε}

theorem exit_may_terminate :
    (run (FuncsHandler.exit E) args rt).2.err = rt.err ∨
      Syscall.exit.MayTerminate args rt.host.memory (run (FuncsHandler.exit E) args rt).2.err.intoTerminationReason := by
  rcases exit_outcome E args rt with kept | ⟨e, trapped⟩ | ⟨ptr, rest, id, popped, read⟩
  · rw [kept]
    exact .inl rfl
  · rw [trapped]
    exact .inr (by rw [intoTerminationReason_of_ordinary e.into_ordinary]; trivial)
  · obtain ⟨inside, rfl⟩ := readMemoryAs_of_ok read
    rw [exit_run E popped read]
    rcases (E.exit rt.host.ext).1 with e | ⟨⟩
    · exact .inr trivial
    · exact .inr ⟨rfl, ptr, rest, popped, inside, rfl⟩

theorem waitDuration_may_terminate {h : Syscall} (hook : σ → Nat → Except ε Unit × σ)
    (waiting : h = .waitFor ∨ h = .waitUpTo) :
    (run (FuncsHandler.waitDuration hook) args rt).2.err = rt.err ∨
      h.MayTerminate args rt.host.memory (run (FuncsHandler.waitDuration hook) args rt).2.err.intoTerminationReason := by
  rcases waitDuration_outcome hook args rt with kept | ⟨e, trapped⟩ | ⟨ptr, rest, duration, popped, read⟩
  · rw [kept]
    exact .inl rfl
  · rw [trapped]
    exact .inr (by rw [intoTerminationReason_of_ordinary e.into_ordinary]; trivial)
  · obtain ⟨inside, rfl⟩ := readMemoryAs_of_ok read
    rw [waitDuration_run hook popped read]
    rcases (hook rt.host.ext _).1 with e | ⟨⟩
    · exact .inr trivial
    · exact .inr ⟨waiting, ptr, rest, popped, inside, rfl⟩

end Slot

-- After a guest call the slot holds what it held before, or a reason that one of the syscalls
-- called may record.
theorem guestCall_slot (calls : List (Syscall × List Value)) (rt : Runtime σ ε) :
    (guestCall E K calls rt).2.err = rt.err ∨ ∃ call ∈ calls, call.1.Records ε (guestCall E K calls rt).2.err := by
  refine guestCall_induction E K (fun rt rt' => rt'.err = rt.err ∨ ∃ call ∈ calls, call.1.Records ε rt'.err)
    (fun _ => .inl rfl) (fun first second => ?_)
    (fun call listed rt => ((handler_refines E K call.1 call.2).slot rt).imp_right fun recorded => ⟨call, listed, recorded⟩) rt
  rcases second with same | found
  · exact same ▸ first
  · exact .inr found

-- The host reads a control-flow reason after a guest call that started with an ordinary slot only
-- when one of the syscalls called is the one that records that reason.
theorem guestCall_terminated {calls : List (Syscall × List Value)} {rt : Runtime σ ε} {reason : TerminationReason}
    (fresh : rt.err.Ordinary) (terminated : (guestCall E K calls rt).2.err = .Terminated reason) :
    ∃ call ∈ calls, call.1.Records ε (.Terminated reason) := by
  rcases guestCall_slot E K calls rt with same | found
  · rw [← same, terminated] at fresh
    exact fresh.elim
  · rwa [terminated] at found

-- After `size` and `exit` the slot holds an exit, and `exit` is the call that records it.
theorem size_then_exit_recorded_by_exit :
    ∃ call ∈ [((.size : Syscall), ([] : List Value)), (.exit, [.I32 0 (by decide)])],
      call.1.Records Unit (.Terminated (.Exit ⟨List.replicate 32 0, List.length_replicate _ _⟩)) :=
  guestCall_terminated (Ext.uniform (.ok 0)) ⟨64, 64, 32⟩ (by exact trivial)
    (show (guestCall (Ext.uniform (.ok 0)) ⟨64, 64, 32⟩ [(.size, []), (.exit, [.I32 0 (by decide)])]
        ⟨⟨(), List.replicate 32 0⟩, .NoReplyContext⟩).2.err = _ from rfl)

theorem control_flow_reason_only_from_its_syscall [ToString ε] (h : Syscall) (args : List Value)
    (rt : Runtime σ ε) :
    (run (h.handler E K) args rt).2.err = rt.err ∨
      h.MayTerminate args rt.host.memory (run (h.handler E K) args rt).2.err.intoTerminationReason := by
  cases h
  case exit => exact exit_may_terminate E
  case waitFor => exact waitDuration_may_terminate _ (.inl rfl)
  case waitUpTo => exact waitDuration_may_terminate _ (.inr rfl)
  all_goals refine ((handler_refines E K _ args).slot rt).imp_right fun recorded => ?_
  case leave | wait =>
    rcases recorded with ordinary | own
    · rw [intoTerminationReason_of_ordinary ordinary]
      trivial
    · rw [own]
      rfl
  case gas =>
    rw [recorded]
    rfl
  all_goals
    unfold Syscall.Records at recorded
    rw [intoTerminationReason_of_ordinary recorded]
    trivial

theorem control_flow_syscalls_terminate :
    (∀ h ∈ [Syscall.exit, .leave, .wait, .waitFor, .waitUpTo], ∀ args rt,
      (run (h.handler E K) args rt).1 = .error ⟨⟩) ∧
    (∀ args rt, (run (Syscall.leave.handler E K) args rt).2.err =
      coreErrOr (E.leave rt.host.ext).1 (.Terminated .Leave)) ∧
    (∀ args rt, (run (Syscall.wait.handler E K) args rt).2.err =
      coreErrOr (E.wait rt.host.ext).1 (.Terminated (.Wait none))) ∧
    (∀ args rt ptr rest duration, popI32 .u32 args = .ok (ptr, rest) →
      readMemoryAs (ε := ε) .u32 ptr.toNat rt.host.memory = .ok duration →
      (run (Syscall.waitFor.handler E K) args rt).2.err =
          coreErrOr (E.waitFor rt.host.ext duration).1 (.Terminated (.Wait (some duration))) ∧
        (run (Syscall.waitUpTo.handler E K) args rt).2.err =
          coreErrOr (E.waitUpTo rt.host.ext duration).1 (.Terminated (.Wait (some duration)))) ∧
    (∀ args rt ptr rest id, popI32 .u32 args = .ok (ptr, rest) →
      readMemoryAs (ε := ε) .programId ptr.toNat rt.host.memory = .ok id →
      (run (Syscall.exit.handler E K) args rt).2.err =
        coreErrOr (E.exit rt.host.ext).1 (.Terminated (.Exit id))) := by
  refine ⟨fun h control args rt => ?_, fun args rt => congrArg (·.2.err) (terminateWith_run E.leave .Leave args rt),
    fun args rt => congrArg (·.2.err) (terminateWith_run E.wait (.Wait none) args rt),
    fun args rt ptr rest duration popped read => ⟨?_, ?_⟩, fun args rt ptr rest id popped read => ?_⟩
  · simp only [List.mem_cons, List.mem_singleton, List.not_mem_nil, or_false] at control
    rcases control with rfl | rfl | rfl | rfl | rfl
    · exact exit_traps E args rt
    · exact congrArg (·.1) (terminateWith_run E.leave .Leave args rt)
    · exact congrArg (·.1) (terminateWith_run E.wait (.Wait none) args rt)
    · exact waitDuration_traps _ args rt
    · exact waitDuration_traps _ args rt
  · exact congrArg (·.2.err) (waitDuration_run E.waitFor popped read)
  · exact congrArg (·.2.err) (waitDuration_run E.waitUpTo popped read)
  · exact congrArg (·.2.err) (exit_run E popped read)

-- `exit` reads the 32 bytes `1, 2, .., 32` at address `1` and exits to them.
theorem exit_records_beneficiary :
    (run (Syscall.exit.handler (Ext.uniform (.ok 0)) ⟨64, 64, 32⟩) [.I32 1 (by decide)]
        ⟨⟨(), (List.range 33).map Nat.toUInt8⟩, .NoReplyContext⟩).2.err =
      .Terminated (.Exit ⟨(List.range 32).map fun i => (i + 1).toUInt8, by simp⟩) :=
  (control_flow_syscalls_terminate (Ext.uniform (.ok 0)) ⟨64, 64, 32⟩).2.2.2.2 _ _ 1 [] _ rfl rfl

-- `exit` reads its beneficiary, then records the error of a failing `ext.exit()`.
theorem exit_records_failing_hook :
    readMemoryAs (ε := Unit) .programId 0 (List.replicate 32 0) = .ok ⟨List.replicate 32 0, List.length_replicate _ _⟩ ∧
      (run (Syscall.exit.handler (Ext.uniform (.error ())) ⟨64, 64, 32⟩) [.I32 0 (by decide)]
          ⟨⟨(), List.replicate 32 0⟩, .NoReplyContext⟩).2.err = .Core () :=
  ⟨rfl, rfl⟩

theorem records_not_allowance [ToString ε] {h : Syscall} (notGas : h ≠ .gas) {err : FuncError ε}
    (recorded : h.Records ε err) : err.intoTerminationReason ≠ .GasAllowanceExceeded := by
  have trap : err.Ordinary → err.intoTerminationReason ≠ .GasAllowanceExceeded := fun ordinary => by
    rw [intoTerminationReason_of_ordinary ordinary]
    nofun
  cases h
  case gas => exact absurd rfl notGas
  case exit | waitFor | waitUpTo => exact recorded.elim trap fun ⟨_, own⟩ => by rw [own]; nofun
  case leave | wait => exact recorded.elim trap fun own => by rw [own]; nofun
  all_goals exact trap recorded

theorem gas_allowance_recorded_only_by_gas [ToString ε] :
    (∀ args rt ptr rest e, popI32 .u32 args = .ok (ptr, rest) →
      (E.gas rt.host.ext ptr.toNat).1 = .error e → E.asTerminationReason e = some .GasAllowanceExceeded →
      run (Syscall.gas.handler E K) args rt =
        (.error ⟨⟩, ⟨⟨(E.gas rt.host.ext ptr.toNat).2, rt.host.memory⟩, .Terminated .GasAllowanceExceeded⟩)) ∧
    ∀ h : Syscall, h ≠ .gas → ∀ args rt,
      (run (h.handler E K) args rt).2.err = rt.err ∨
        (run (h.handler E K) args rt).2.err.intoTerminationReason ≠ .GasAllowanceExceeded := by
  refine ⟨fun args rt ptr rest e popped failed exceeded => ?_, fun h notGas args rt =>
    ((handler_refines E K h args).slot rt).imp_right (records_not_allowance notGas)⟩
  simp only [run, Syscall.handler, FuncsHandler.gas, FuncError.asCore, Option.some_bind, withArgs_of_ok popped,
    bind_apply, onHost, callExt, failed, exceeded, if_true, trapWith]

-- `gas` records the allowance the extension reports exceeded.
theorem gas_records_exceeded_allowance :
    run (Syscall.gas.handler (Ext.uniform (.error ())) ⟨64, 64, 32⟩) [.I32 5 (by decide)]
        ⟨⟨(), []⟩, .NoReplyContext⟩ =
      (.error ⟨⟩, ⟨⟨(), []⟩, .Terminated .GasAllowanceExceeded⟩) :=
  (gas_allowance_recorded_only_by_gas (Ext.uniform (.error ())) ⟨64, 64, 32⟩).1 _ _ 5 [] () rfl rfl rfl

-- `size` gets an error the extension classes as an exceeded allowance, and records it as `Core`,
-- which the host reads as a trap.
theorem size_reports_allowance_as_trap :
    (Ext.uniform (.error ())).asTerminationReason () = some .GasAllowanceExceeded ∧
      (Ext.uniform (.error ())).size () = (.error (), ()) ∧
      run (Syscall.size.handler (Ext.uniform (.error ())) ⟨64, 64, 32⟩) [] ⟨⟨(), []⟩, .NoReplyContext⟩ =
        (.error ⟨⟩, ⟨⟨(), []⟩, .Core ()⟩) ∧
      (FuncError.Core () : FuncError Unit).intoTerminationReason ≠ .GasAllowanceExceeded :=
  ⟨rfl, rfl, rfl, nofun⟩

end Gear.Sandbox
