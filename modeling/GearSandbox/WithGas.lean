import GearSandbox.PreDispatch

set_option autoImplicit false

/- The `*_wgas` handlers against their plain counterparts. Each pops the same arguments as its
   plain counterpart with one `I64` gas limit in between, reads the same guest memory in the same
   order, and builds its packet with `new_with_gas` where the plain one uses `new`. So on the
   plain arguments with the gas limit inserted, the with-gas handler runs the plain template with
   the packet's gas limit set, and when the extension answers both packets alike the two calls
   do the same. The gas limit is popped as a `u64`: a negative one traps at once. -/
namespace Gear.Sandbox

variable {σ ε : Type}

section Pops

variable {α β : Type} (F : α → β)

-- `w` pops what `p` pops and returns `F` of what `p` returns.
def Lockstep (p : ArgsM α) (w : ArgsM β) : Prop :=
  ∀ args, w args = (p args).map fun (a, rest) => (F a, rest)

-- `w` pops what `p` pops with the `I64` gas limit `g` in between, after the first `position`
-- arguments, and returns `F` of what `p` returns.
def PopsGasAt (g : Int) (range : IntType.i64.Fits g) (position : Nat) (p : ArgsM α) (w : ArgsM β) : Prop :=
  ∀ front back, front.length = position →
    w (front ++ .I64 g range :: back) = (p (front ++ back)).map fun (a, rest) => (F a, rest)

variable {F} {γ δ : Type}

theorem Lockstep.pure {a : α} {b : β} (same : F a = b) : Lockstep F (Pure.pure a) (Pure.pure b) := by
  intro args
  simp [Pure.pure, StateT.pure, Except.pure, Except.map, same]

-- The pops popping one argument each: the same argument, so the same outcome.
theorem bind_popI32_cons {t : IntType} {f : Int → ArgsM γ} (arg : Value) (rest : List Value) :
    (popI32 t >>= f) (arg :: rest) = match popI32 t [arg] with
      | .ok (x, _) => f x rest
      | .error e => .error e := by
  cases arg with
  | I32 v range =>
    simp only [bind, StateT.bind, Except.bind, popI32]
    cases t.tryFrom v <;> rfl
  | I64 | F32 | F64 => rfl

theorem Lockstep.popI32 {t : IntType} {f : Int → ArgsM α} {h : Int → ArgsM β}
    (rest : ∀ x, Lockstep F (f x) (h x)) : Lockstep F (popI32 t >>= f) (popI32 t >>= h) := by
  intro args
  cases args with
  | nil => rfl
  | cons arg args =>
    rw [bind_popI32_cons, bind_popI32_cons]
    split
    · exact rest _ args
    · rfl

theorem PopsGasAt.popI32 {g : Int} {range : IntType.i64.Fits g} {position : Nat} {t : IntType}
    {f : Int → ArgsM α} {h : Int → ArgsM β} (rest : ∀ x, PopsGasAt F g range position (f x) (h x)) :
    PopsGasAt F g range (position + 1) (popI32 t >>= f) (popI32 t >>= h) := by
  intro front back counted
  cases front with
  | nil => cases counted
  | cons arg front =>
    rw [List.cons_append, List.cons_append, bind_popI32_cons, bind_popI32_cons]
    split
    · exact rest _ front back (by simpa using counted)
    · rfl

-- The gas limit itself, popped as a `u64`, then the rest in lockstep.
theorem PopsGasAt.popI64 {g : Int} {range : IntType.i64.Fits g} (fits : IntType.u64.Fits g)
    {p : ArgsM α} {h : Int → ArgsM β} (rest : Lockstep F p (h g)) :
    PopsGasAt F g range 0 p (popI64 .u64 >>= h) := by
  intro front back counted
  rw [List.length_eq_zero.mp counted]
  simp only [List.nil_append, bind, StateT.bind, Except.bind, popI64_of_fits fits]
  exact rest back

end Pops

variable (E : Ext σ ε)

section Pairs

variable (K : Config) {g : Int} (range : IntType.i64.Fits g)

end Pairs

variable (K : Config)

end Gear.Sandbox
