import GearSandbox.Syscalls

set_option autoImplicit false

/- The pending-trap slot `ctx.err` of `Runtime`. A handler returns `SyscallOutput`, whose error
   `HostError` carries nothing, so the reason of a trap travels beside it in `ctx.err`, a field of
   `Runtime` that the host reads through `FuncError::into_termination_reason` once the guest has
   trapped. What the pair stands for is one per-call result, a value or the reason of a trap.
   `CallM` is that per-call computation and `lower` splits it into `ctx.err` and `HostError`; a
   handler refines its per-call form when it is `lower` of one, and the reasons that per-call
   form may trap with bound what the handler can leave in the slot. Every
   combinator the handlers are built from refines its per-call form, so every handler does:
   none reads the slot, none writes it except on its way out with a trap, and only the
   control-flow syscalls write a `Terminated` reason, each its own. -/
namespace Gear.Sandbox

variable {σ ε : Type}

abbrev CallM (σ ε : Type) := EStateM (Option (FuncError ε)) (Host σ)

def lower {α : Type} (y : CallM σ ε α) : SyscallM σ ε α := fun rt =>
  match y rt.host with
  | .ok a host => .ok a ⟨host, rt.err⟩
  | .error (some reason) host => .error ⟨⟩ ⟨host, reason⟩
  | .error none host => .error ⟨⟩ ⟨host, rt.err⟩

theorem lower_bind {α β : Type} (y : CallM σ ε α) (g : α → CallM σ ε β) :
    lower (y >>= g) = lower y >>= fun a => lower (g a) := by
  funext rt
  simp only [lower, bind_apply]
  rcases y rt.host with ⟨a, host⟩ | ⟨_ | reason, host⟩ <;> rfl

-- Every reason `y` traps with satisfies `P`.
def RecordsOnly {α : Type} (P : FuncError ε → Prop) (y : CallM σ ε α) : Prop :=
  ∀ host reason host', y host = .error (some reason) host' → P reason

-- Every error the closure `x` leaves with satisfies `P`.
def ThrowsOnly {α : Type} (P : FuncError ε → Prop) (x : FuncM σ ε α) : Prop :=
  ∀ host err host', x host = .error err host' → P err

-- `x` refines a per-call computation whose traps record only reasons `P` allows: it never reads
-- `ctx.err` and writes it only when trapping, with such a reason.
def Refines {α : Type} (P : FuncError ε → Prop) (x : SyscallM σ ε α) : Prop :=
  ∃ y, x = lower y ∧ RecordsOnly P y

-- A reason that reports a failure rather than a control-flow termination.
def FuncError.Ordinary : FuncError ε → Prop
  | .Terminated _ => False
  | _ => True

theorem ReadError.into_ordinary (e : ReadError ε) : e.into.Ordinary := by
  cases e <;> trivial

namespace ThrowsOnly

variable {α β δ : Type} {P : FuncError ε → Prop}

theorem bind {x : FuncM σ ε α} {f : α → FuncM σ ε β} (first : ThrowsOnly P x)
    (rest : ∀ a, ThrowsOnly P (f a)) : ThrowsOnly P (x >>= f) := by
  intro host err host' ran
  rcases bind_eq_error ran with failed | ⟨a, host₁, _, failed⟩
  · exact first _ _ _ failed
  · exact rest a _ _ _ failed

theorem pure (a : α) : ThrowsOnly P (Pure.pure a : FuncM σ ε α) := by rintro _ _ _ ⟨⟩

theorem throw {err : FuncError ε} (allowed : P err) : ThrowsOnly P (MonadExcept.throw err : FuncM σ ε α) := by
  rintro _ _ _ ⟨⟩
  exact allowed

theorem callExt (op : σ → Except ε α × σ) : ThrowsOnly P (Gear.Sandbox.callExt op) := by
  rintro _ _ _ ⟨⟩

theorem lastError (E : Ext σ ε) : ThrowsOnly P (Gear.Sandbox.lastError E) := by rintro _ _ _ ⟨⟩

theorem propagate {into : δ → FuncError ε} (allowed : ∀ d, P (into d)) (res : Except δ α) :
    ThrowsOnly P (Gear.Sandbox.propagate into res : FuncM σ ε α) := by
  cases res
  · exact throw (allowed _)
  · exact pure _

theorem reading (allowed : ∀ e : ReadError ε, P e.into) (x : ReadM ε α) :
    ThrowsOnly P (Gear.Sandbox.reading x : FuncM σ ε α) := by
  intro host err host' ran
  simp only [Gear.Sandbox.reading] at ran
  split at ran <;> cases ran
  exact allowed _

theorem writeOutput (allowed : ∀ e, P (.RuntimeCtx e)) (ptr : Nat) (bytes : Bytes) :
    ThrowsOnly P (Gear.Sandbox.writeOutput ptr bytes : FuncM σ ε Unit) := by
  intro host err host' ran
  simp only [Gear.Sandbox.writeOutput] at ran
  split at ran <;> cases ran
  exact allowed _

-- The extension call of a closure, its error converted with `?`.
theorem callExt_propagate {into : ε → FuncError ε} (allowed : ∀ e, P (into e)) (op : σ → Except ε α × σ) :
    ThrowsOnly P (do Gear.Sandbox.propagate into (← Gear.Sandbox.callExt op) : FuncM σ ε α) :=
  bind (callExt op) fun res => propagate allowed res

end ThrowsOnly

namespace Refines

variable {α β : Type} {P : FuncError ε → Prop}

theorem bind {x : SyscallM σ ε α} {f : α → SyscallM σ ε β} (first : Refines P x)
    (rest : ∀ a, Refines P (f a)) : Refines P (x >>= f) := by
  obtain ⟨y, rfl, only⟩ := first
  refine ⟨y >>= fun a => (rest a).choose, ?_, fun host reason host' ran => ?_⟩
  · rw [lower_bind]
    exact congrArg _ (funext fun a => (rest a).choose_spec.1)
  · rcases bind_eq_error ran with failed | ⟨a, host₁, _, failed⟩
    · exact only _ _ _ failed
    · exact (rest a).choose_spec.2 _ _ _ failed

theorem pure (a : α) : Refines P (Pure.pure a : SyscallM σ ε α) := ⟨Pure.pure a, rfl, by rintro _ _ _ ⟨⟩⟩

theorem throw (e : HostError) : Refines P (MonadExcept.throw e : SyscallM σ ε α) :=
  ⟨MonadExcept.throw none, rfl, by rintro _ _ _ ⟨⟩⟩

theorem trapWith {err : FuncError ε} (allowed : P err) :
    Refines P (Gear.Sandbox.trapWith err : SyscallM σ ε α) :=
  ⟨MonadExcept.throw (some err), rfl, by rintro _ _ _ ⟨⟩; exact allowed⟩

theorem trapOnErr_eq (x : FuncM σ ε α) : Gear.Sandbox.trapOnErr x = lower (x.adaptExcept some) := by
  funext rt
  simp only [Gear.Sandbox.trapOnErr, lower, EStateM.adaptExcept]
  rcases x rt.host with ⟨a, host⟩ | ⟨err, host⟩ <;> rfl

theorem trapOnErr {x : FuncM σ ε α} (throws : ThrowsOnly P x) : Refines P (Gear.Sandbox.trapOnErr x) := by
  refine ⟨_, trapOnErr_eq x, fun host reason host' ran => ?_⟩
  simp only [EStateM.adaptExcept] at ran
  split at ran <;> cases ran
  exact throws _ _ _ (by assumption)

theorem onHost_eq (x : EStateM HostError (Host σ) α) :
    (Gear.Sandbox.onHost x : SyscallM σ ε α) = lower (x.adaptExcept fun _ => none) := by
  funext rt
  simp only [Gear.Sandbox.onHost, lower, EStateM.adaptExcept]
  rcases x rt.host with ⟨a, host⟩ | ⟨_, host⟩ <;> rfl

theorem onHost (x : EStateM HostError (Host σ) α) : Refines P (Gear.Sandbox.onHost x : SyscallM σ ε α) := by
  refine ⟨_, onHost_eq x, fun host reason host' ran => ?_⟩
  simp only [EStateM.adaptExcept] at ran
  split at ran <;> cases ran

theorem output (out : SyscallOutput) : Refines P (Gear.Sandbox.output out : SyscallM σ ε ReturnValue) := by
  cases out
  · exact throw _
  · exact pure _

theorem coreOrTrap (allowed : ∀ e, P (.Core e)) (res : Except ε α) :
    Refines P (Gear.Sandbox.coreOrTrap res : SyscallM σ ε α) := by
  cases res
  · exact trapWith (allowed _)
  · exact pure _

theorem withArgs {decode : ArgsM α} {body : α → SyscallM σ ε ReturnValue}
    (refines : ∀ a, Refines P (body a)) {args : List Value} :
    Refines P (Gear.Sandbox.withArgs decode body args) := by
  unfold Gear.Sandbox.withArgs
  split
  · exact refines _
  · exact throw _

theorem closureSyscall {decode : ArgsM α} {f : α → FuncM σ ε β} {finish : β → SyscallM σ ε ReturnValue}
    (throws : ∀ a, ThrowsOnly P (f a)) (refines : ∀ b, Refines P (finish b)) {args : List Value} :
    Refines P (Gear.Sandbox.closureSyscall decode f finish args) :=
  withArgs fun a => bind (trapOnErr (throws a)) refines

theorem readThenCall {R γ : Type} {decode : ArgsM (ReadM ε R × γ)} {call : γ → R → FuncM σ ε β}
    {finish : β → SyscallM σ ε ReturnValue} (reads : ∀ e : ReadError ε, P e.into)
    (throws : ∀ a r, ThrowsOnly P (call a r)) (refines : ∀ b, Refines P (finish b)) {args : List Value} :
    Refines P (Gear.Sandbox.readThenCall decode call finish args) :=
  closureSyscall (fun _ => .bind (.reading reads _) (throws _)) refines

-- When a refining computation returns, the slot is as it found it.
theorem keeps_slot {x : SyscallM σ ε α} (refines : Refines P x) {rt : Runtime σ ε} {a : α}
    {rt' : Runtime σ ε} (returned : x rt = .ok a rt') : rt'.err = rt.err := by
  obtain ⟨y, rfl, -⟩ := refines
  simp only [lower] at returned
  split at returned <;> cases returned
  rfl

-- Whatever a refining handler leaves in the slot was there before, or is a reason `P` allows.
theorem slot {h : Handler σ ε} {args : List Value} (refines : Refines P (h args)) (rt : Runtime σ ε) :
    (run h args rt).2.err = rt.err ∨ P (run h args rt).2.err := by
  obtain ⟨y, lowered, only⟩ := refines
  simp only [run, lowered, lower]
  rcases found : y rt.host with ⟨a, host⟩ | ⟨_ | reason, host⟩
  · exact .inl rfl
  · exact .inl rfl
  · exact .inr (only _ _ _ found)

end Refines

-- The reasons `h` may record in `ctx.err`: only the control-flow syscalls record a `Terminated`
-- reason, each its own, and `gas` records nothing else.
def Syscall.Records (ε : Type) : Syscall → FuncError ε → Prop
  | .exit, err => err.Ordinary ∨ ∃ id, err = .Terminated (.Exit id)
  | .leave, err => err.Ordinary ∨ err = .Terminated .Leave
  | .wait, err => err.Ordinary ∨ err = .Terminated (.Wait none)
  | .waitFor, err | .waitUpTo, err => err.Ordinary ∨ ∃ duration, err = .Terminated (.Wait duration)
  | .gas, err => err = .Terminated .GasAllowanceExceeded
  | _, err => err.Ordinary

variable (E : Ext σ ε) (K : Config)

theorem readRange_ordinary (start len : Nat) :
    ThrowsOnly FuncError.Ordinary (readRange E K start len) :=
  .bind (.callExt _) fun _ => .bind (.propagate (fun _ => trivial) _) fun _ => by
    split
    · exact .throw trivial
    · split
      · exact .throw trivial
      · exact .pure _

theorem statusSyscall_ordinary {R α : Type} {decode : ArgsM (ReadM ε R × Nat)}
    {op : R → σ → Except ε α × σ} {encode : α → Bytes} (args : List Value) :
    Refines FuncError.Ordinary (statusSyscall E decode op encode args) := by
  refine .readThenCall ReadError.into_ordinary (fun _ _ => ?_) (fun _ => .pure _)
  refine .bind (.bind (.callExt _) fun _ => .propagate (fun _ => trivial) _) fun processed => ?_
  cases processed
  · exact .pure _
  · exact .bind (.writeOutput (fun _ => trivial) _ _) fun _ => .pure _

theorem pushSyscall_ordinary {R : Type} {decode : ArgsM (ReadM ε R × Unit)}
    {op : R → σ → Except ε Unit × σ} (args : List Value) :
    Refines FuncError.Ordinary (pushSyscall E decode op args) :=
  .readThenCall ReadError.into_ordinary
    (fun _ _ => .bind (.bind (.callExt _) fun _ => .propagate (fun _ => trivial) _) fun _ => .pure _)
    (fun _ => .pure _)

theorem writeQuery_ordinary {α : Type} (op : σ → Except ε α × σ) (encode : α → Bytes) (args : List Value) :
    Refines FuncError.Ordinary (FuncsHandler.writeQuery op encode args) :=
  .closureSyscall (fun _ => .bind (.callExt _) fun _ => .bind (.propagate (fun _ => trivial) _)
    fun _ => .writeOutput (fun _ => trivial) _ _) (fun _ => .pure _)

-- Every handler is the sandbox form of a per-call computation recording only its own reasons.
theorem handler_refines (h : Syscall) (args : List Value) :
    Refines (h.Records ε) (h.handler E K args) := by
  cases h <;> dsimp only [Syscall.handler]
  case send | sendWgas | sendCommit | sendCommitWgas | sendInit | reply | replyWgas | replyCommit
    | replyCommitWgas | createProgram | createProgramWgas => exact statusSyscall_ordinary E args
  case sendPush | replyPush => exact pushSyscall_ordinary E args
  case origin | msgId | programId | value | valueAvailable => exact writeQuery_ordinary _ _ args
  case read =>
    exact .closureSyscall (fun _ => .bind (readRange_ordinary E K _ _)
      fun _ => .writeOutput (fun _ => trivial) _ _) (fun _ => .pure _)
  case size | gasAvailable =>
    exact .bind (.onHost _) fun res => by
      cases res <;> first | exact .output _ | exact .throw _ | exact .trapWith trivial
  case exitCode =>
    exact .bind (.onHost _) fun res => .bind (.coreOrTrap (fun _ => trivial) res) fun code => by
      cases code <;> first | exact .output _ | exact .trapWith trivial
  case gas =>
    exact .withArgs (fun _ => .bind (.onHost _) fun res => by
      cases res <;> dsimp only <;> (try split) <;> first | exact .pure _ | exact .throw _ | exact .trapWith rfl)
  case alloc | free =>
    exact .withArgs (fun _ => .bind (.onHost _) fun res => by
      cases res <;> first | exact .pure _ | exact .trapWith trivial)
  case blockHeight | blockTimestamp =>
    exact .bind (.onHost _) fun res => .bind (.coreOrTrap (fun _ => trivial) res) fun _ => .output _
  case replyTo =>
    exact .withArgs (fun _ => .bind (.onHost _) fun res => .bind (.coreOrTrap (fun _ => trivial) res) fun id => by
      cases id
      · exact .trapWith trivial
      · exact .bind (.trapOnErr (.writeOutput (fun _ => trivial) _ _)) fun _ => .pure _)
  case source =>
    exact .withArgs (fun _ => .bind (.onHost _) fun res => by
      cases res
      · exact .trapWith trivial
      · exact .bind (.trapOnErr (.writeOutput (fun _ => trivial) _ _)) fun _ => .pure _)
  case debug | wake =>
    refine .readThenCall ReadError.into_ordinary (fun _ _ => ?_) fun _ => .pure _
    exact .callExt_propagate (fun _ => trivial) _
  case error =>
    refine .closureSyscall (fun _ => .bind (.lastError E) fun found => ?_) fun _ => .pure _
    cases found
    · exact .bind (.throw trivial) fun _ => .writeOutput (fun _ => trivial) _ _
    · exact .bind (.pure _) fun _ => .writeOutput (fun _ => trivial) _ _
  case forbidden => exact .trapWith trivial
  case leave | wait =>
    exact .bind (.onHost _) fun res => .trapWith (by cases res; exacts [.inl trivial, .inr rfl])
  case exit =>
    exact .readThenCall (fun e => .inl e.into_ordinary) (fun _ _ => .bind (.callExt _) fun _ =>
      .bind (.propagate (fun _ => .inl trivial) _) fun _ => .throw (.inr ⟨_, rfl⟩)) fun _ => .throw _
  case waitFor | waitUpTo =>
    dsimp only [FuncsHandler.waitFor, FuncsHandler.waitUpTo]
    exact .readThenCall (fun e => .inl e.into_ordinary) (fun _ _ => .bind (.callExt _) fun _ =>
      .bind (.propagate (fun _ => .inl trivial) _) fun _ => .pure _) fun _ => .trapWith (.inr ⟨_, rfl⟩)

-- A handler never reads the slot: from one host it returns or traps alike whatever slot it finds,
-- leaves the same host, and leaves in the slot the reason it recorded, or else the slot it found.
theorem handler_slot_write_only (h : Syscall) (args : List Value) (host : Host σ) :
    ∃ (out : SyscallOutput) (host' : Host σ) (reason : Option (FuncError ε)), ∀ err,
      run (h.handler E K) args ⟨host, err⟩ = (out, ⟨host', reason.getD err⟩) := by
  obtain ⟨y, lowered, -⟩ := handler_refines E K h args
  simp only [run, lowered, lower]
  rcases y host with ⟨a, host'⟩ | ⟨_ | reason, host'⟩
  · exact ⟨.ok a, host', none, fun _ => rfl⟩
  · exact ⟨.error ⟨⟩, host', none, fun _ => rfl⟩
  · exact ⟨.error ⟨⟩, host', some reason, fun _ => rfl⟩

-- A guest call never reads the slot either: from one host it traps or not alike whatever slot it
-- starts with, leaves the same extension and memory, and leaves in the slot one and the same
-- recorded reason, or else the slot it started with.
theorem guestCall_ignores_slot (calls : List (Syscall × List Value)) (host : Host σ) :
    ∃ (trapped : Bool) (host' : Host σ) (reason : Option (FuncError ε)), ∀ err,
      guestCall E K calls ⟨host, err⟩ = (trapped, ⟨host', reason.getD err⟩) := by
  induction calls generalizing host with
  | nil => exact ⟨false, host, none, fun _ => rfl⟩
  | cons call calls ih =>
    obtain ⟨h, args⟩ := call
    obtain ⟨out, host₁, reason₁, first⟩ := handler_slot_write_only E K h args host
    cases out with
    | error => exact ⟨true, host₁, reason₁, fun err => by simp only [guestCall, first]⟩
    | ok =>
      obtain ⟨trapped, host', reason₂, rest⟩ := ih host₁
      refine ⟨trapped, host', reason₂.or reason₁, fun err => ?_⟩
      simp only [guestCall, first, rest]
      cases reason₂ <;> rfl

end Gear.Sandbox
