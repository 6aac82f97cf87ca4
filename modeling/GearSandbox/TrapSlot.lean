import GearSandbox.Refinement

set_option autoImplicit false

/- Traps that record their reason. A trap whose per-call form records no reason (`none`) leaves
   `ctx.err` as it found it, so the host reads a stale reason after it; `Loud` computations
   trap only with a reason. Once its arguments pop, every handler is loud except `gas`,
   `gas_available`, and the queries whose value does not narrow to a stack value. -/
namespace Gear.Sandbox

variable {σ ε : Type}

section Silence

variable {α β : Type}

-- A trap of `y` always records a reason.
def NeverSilent (y : CallM σ ε α) : Prop := ∀ host host', y host ≠ .error none host'

theorem NeverSilent.bind {y : CallM σ ε α} {g : α → CallM σ ε β} (first : NeverSilent y)
    (rest : ∀ a, NeverSilent (g a)) : NeverSilent (y >>= g) := by
  intro host host' ran
  rcases bind_eq_error ran with failed | ⟨a, host₁, _, failed⟩
  · exact first _ _ failed
  · exact rest a _ _ failed

theorem neverSilent_adaptExcept (x : FuncM σ ε α) : NeverSilent (x.adaptExcept some) := by
  intro host host' ran
  simp only [EStateM.adaptExcept] at ran
  split at ran <;> cases ran

end Silence

-- `x` refines a per-call computation none of whose traps is silent.
def Loud {α : Type} (x : SyscallM σ ε α) : Prop := ∃ y, x = lower y ∧ NeverSilent y

-- `x` never returns.
def Fails {δ S α : Type} (x : EStateM δ S α) : Prop := ∀ s a s', x s ≠ .ok a s'

namespace Loud

variable {α β : Type}

theorem bind {x : SyscallM σ ε α} {f : α → SyscallM σ ε β} (first : Loud x)
    (rest : ∀ a, Loud (f a)) : Loud (x >>= f) := by
  obtain ⟨y, rfl, quiet⟩ := first
  refine ⟨y >>= fun a => (rest a).choose, ?_, quiet.bind fun a => (rest a).choose_spec.2⟩
  rw [lower_bind]
  exact congrArg _ (funext fun a => (rest a).choose_spec.1)

theorem pure (a : α) : Loud (Pure.pure a : SyscallM σ ε α) := ⟨Pure.pure a, rfl, by rintro _ _ ⟨⟩⟩

theorem trapWith (err : FuncError ε) : Loud (Gear.Sandbox.trapWith err : SyscallM σ ε α) :=
  ⟨MonadExcept.throw (some err), rfl, by rintro _ _ ⟨⟩⟩

theorem trapOnErr (x : FuncM σ ε α) : Loud (Gear.Sandbox.trapOnErr x) :=
  ⟨_, Refines.trapOnErr_eq x, neverSilent_adaptExcept x⟩

theorem coreOrTrap (res : Except ε α) : Loud (Gear.Sandbox.coreOrTrap res : SyscallM σ ε α) := by
  cases res
  · exact trapWith _
  · exact pure _

-- Work on the host that cannot fail, such as an extension call, records nothing and needs not.
theorem onHost {x : EStateM HostError (Host σ) α} (returns : ∀ host e host', x host ≠ .error e host') :
    Loud (Gear.Sandbox.onHost x : SyscallM σ ε α) := by
  refine ⟨_, Refines.onHost_eq x, fun host host' ran => ?_⟩
  simp only [EStateM.adaptExcept] at ran
  split at ran
  · exact returns _ _ _ (by assumption)
  · cases ran

theorem closureSyscall {decode : ArgsM α} {f : α → FuncM σ ε β}
    {finish : β → SyscallM σ ε ReturnValue} (loud : ∀ b, Loud (finish b)) {args : List Value}
    (decodes : (decode args).isOk) : Loud (Gear.Sandbox.closureSyscall decode f finish args) := by
  obtain ⟨⟨a, rest⟩, decoded⟩ := exists_ok_of_isOk decodes
  rw [Gear.Sandbox.closureSyscall, withArgs_of_ok decoded]
  exact bind (trapOnErr _) loud

theorem withArgs {decode : ArgsM α} {body : α → SyscallM σ ε ReturnValue} (loud : ∀ a, Loud (body a))
    {args : List Value} (decodes : (decode args).isOk) : Loud (Gear.Sandbox.withArgs decode body args) := by
  obtain ⟨⟨a, rest⟩, decoded⟩ := exists_ok_of_isOk decodes
  rw [withArgs_of_ok decoded]
  exact loud a

end Loud

theorem Fails.bind {δ S α β : Type} (x : EStateM δ S α) {f : α → EStateM δ S β}
    (rest : ∀ a, Fails (f a)) : Fails (x >>= f) := by
  intro s b s' ran
  obtain ⟨a, s₁, -, ranRest⟩ := bind_eq_ok ran
  exact rest a _ _ _ ranRest

theorem Fails.throw {δ S α : Type} (e : δ) : Fails (MonadExcept.throw e : EStateM δ S α) := nofun

variable (E : Ext σ ε) (K : Config)

theorem guestCall_keeps_slot (calls : List (Syscall × List Value)) (rt : Runtime σ ε)
    (noTrap : (guestCall E K calls rt).1 = false) : (guestCall E K calls rt).2.err = rt.err := by
  induction calls generalizing rt with
  | nil => rfl
  | cons call calls ih =>
    obtain ⟨h, args⟩ := call
    unfold guestCall at noTrap ⊢
    unfold run at noTrap ⊢
    split at noTrap <;> rename_i returned
    · split at returned
      · cases returned
        rw [ih _ noTrap]
        exact (handler_refines E K h args).keeps_slot (by assumption)
      · cases returned
    · cases noTrap

-- The slot `h` leaves does not depend on the slot it found: `h` recorded it.
def Recorded (h : Handler σ ε) (args : List Value) (rt : Runtime σ ε) : Prop :=
  ∀ err, (run h args { rt with err := err }).2.err = (run h args rt).2.err

theorem Loud.recorded {h : Handler σ ε} {args : List Value} (loud : Loud (h args)) (rt : Runtime σ ε)
    (trapped : (run h args rt).1 = .error ⟨⟩) : Recorded h args rt := by
  obtain ⟨y, lowered, quiet⟩ := loud
  intro err
  simp only [run, lowered, lower] at trapped ⊢
  rcases found : y rt.host with ⟨a, host⟩ | ⟨_ | reason, host⟩
  · simp [found] at trapped
  · exact absurd found (quiet _ _)
  · simp [found]

theorem success_never_touches_trap_slot :
    (∀ (h : Syscall) (args : List Value) (rt : Runtime σ ε) (v : ReturnValue),
      (run (h.handler E K) args rt).1 = .ok v → (run (h.handler E K) args rt).2.err = rt.err) ∧
    ∀ (calls : List (Syscall × List Value)) (rt : Runtime σ ε),
      (guestCall E K calls rt).1 = false → (guestCall E K calls rt).2.err = rt.err := by
  refine ⟨fun h args rt v returned => ?_, guestCall_keeps_slot E K⟩
  unfold run at returned ⊢
  split at returned
  · exact (handler_refines E K h args).keeps_slot (by assumption)
  · cases returned

end Gear.Sandbox
