import Mathlib

set_option autoImplicit false

/- The calling convention of the sandbox syscalls (`funcs.rs`): the stack values the guest
   passes, and the argument codec `pop_i32`/`pop_i64`/`return_i32`/`return_i64`. A Rust
   integer type is described by its width and signedness and its values are the integers of
   its range, so `TryFrom`/`TryInto` between two of them is a range check and `as` wraps
   modulo `2 ^ bits`. What `return_i32` hands back pops back as the same value, and a pop
   succeeds exactly on a stack value of its kind that the target type holds. -/
namespace Gear.Sandbox

structure IntType where
  bits : Nat
  signed : Bool
deriving DecidableEq, Repr

namespace IntType

def u32 : IntType := ⟨32, false⟩
def u64 : IntType := ⟨64, false⟩
def i32 : IntType := ⟨32, true⟩
def i64 : IntType := ⟨64, true⟩
-- `usize` is as wide as a pointer of the target the runtime is compiled for.
def usize (width : Nat) : IntType := ⟨width, false⟩

def min (t : IntType) : Int := if t.signed then -2 ^ (t.bits - 1) else 0
def max (t : IntType) : Int := if t.signed then 2 ^ (t.bits - 1) - 1 else 2 ^ t.bits - 1

def Fits (t : IntType) (x : Int) : Prop := t.min ≤ x ∧ x ≤ t.max

instance (t : IntType) (x : Int) : Decidable (t.Fits x) := inferInstanceAs (Decidable (_ ∧ _))

-- `T::try_from(x)` between two integer types.
def tryFrom (t : IntType) (x : Int) : Option Int := if t.Fits x then some x else none

-- `x as T`: the value of `T` congruent to `x` modulo `2 ^ bits`.
def cast (t : IntType) (x : Int) : Int := if t.signed then x.bmod (2 ^ t.bits) else x % 2 ^ t.bits

@[simp] theorem tryFrom_of_fits {t : IntType} {x : Int} (fits : t.Fits x) : t.tryFrom x = some x := by
  simp [tryFrom, fits]

@[simp] theorem tryFrom_of_not_fits {t : IntType} {x : Int} (outside : ¬ t.Fits x) :
    t.tryFrom x = none := by
  simp [tryFrom, outside]

theorem fits_u32 {x : Int} : u32.Fits x ↔ 0 ≤ x ∧ x < 2 ^ 32 := by
  simp only [Fits, min, max, u32, Bool.false_eq_true, if_false]
  omega

theorem fits_i32 {x : Int} : i32.Fits x ↔ -2 ^ 31 ≤ x ∧ x < 2 ^ 31 := by
  simp only [Fits, min, max, i32, if_true]
  omega

theorem fits_usize {width : Nat} {x : Int} : (usize width).Fits x ↔ 0 ≤ x ∧ x < 2 ^ width := by
  simp only [Fits, min, max, usize, Bool.false_eq_true, if_false]
  omega

theorem cast_i32_of_fits {x : Int} (range : i32.Fits x) : i32.cast x = x := by
  rw [fits_i32] at range
  simp only [cast, i32, if_true, Int.bmod_def]
  split <;> omega

theorem cast_fits_i32 (x : Int) : i32.Fits (i32.cast x) := by
  have lower := Int.le_bmod (x := x) (m := 2 ^ 32) (by decide)
  have upper := Int.bmod_lt (x := x) (m := 2 ^ 32) (by decide)
  simp only [cast, i32, if_true]
  rw [← i32, fits_i32]
  omega

end IntType

-- `sp_sandbox::Value`. Floats travel as their bit patterns; no handler reads them.
inductive Value where
  | I32 (v : Int) (range : IntType.i32.Fits v)
  | I64 (v : Int) (range : IntType.i64.Fits v)
  | F32 (bits : UInt32)
  | F64 (bits : UInt64)
deriving DecidableEq

inductive ReturnValue where
  | Unit
  | Value (v : Value)
deriving DecidableEq

-- The sandbox's trap signal carries no payload.
structure HostError where
deriving DecidableEq, Repr

abbrev SyscallOutput := Except HostError ReturnValue

-- The argument cursor `args.iter()`; every `?` on a pop returns `Err(HostError)` at once.
abbrev ArgsM := StateT (List Value) (Except HostError)

def popI32 (t : IntType) : ArgsM Int := fun args =>
  match args with
  | .I32 v _ :: rest =>
    match t.tryFrom v with
    | some x => .ok (x, rest)
    | none => .error ⟨⟩
  | _ => .error ⟨⟩

def popI64 (t : IntType) : ArgsM Int := fun args =>
  match args with
  | .I64 v _ :: rest =>
    match t.tryFrom v with
    | some x => .ok (x, rest)
    | none => .error ⟨⟩
  | _ => .error ⟨⟩

def returnI32 (x : Int) : SyscallOutput :=
  if range : IntType.i32.Fits x then .ok (.Value (.I32 x range)) else .error ⟨⟩

def returnI64 (x : Int) : SyscallOutput :=
  if range : IntType.i64.Fits x then .ok (.Value (.I64 x range)) else .error ⟨⟩

theorem exists_ok_of_isOk {δ α : Type} {x : Except δ α} (ok : x.isOk) : ∃ a, x = .ok a := by
  cases x <;> simp_all [Except.isOk, Except.toBool]

theorem popI32_of_fits {t : IntType} {v : Int} {range : IntType.i32.Fits v} (fits : t.Fits v)
    (rest : List Value) : popI32 t (.I32 v range :: rest) = .ok (v, rest) := by
  simp [popI32, fits]

-- A pop succeeds exactly on an `I32` whose value the target type holds.
theorem popI32_eq_ok {t : IntType} {args rest : List Value} {x : Int} :
    popI32 t args = .ok (x, rest) ↔ ∃ range, args = .I32 x range :: rest ∧ t.Fits x := by
  refine ⟨fun popped => ?_, fun ⟨range, listed, fits⟩ => listed ▸ popI32_of_fits fits rest⟩
  unfold popI32 at popped
  split at popped
  · rename_i v range rest'
    by_cases fits : t.Fits v
    · rw [IntType.tryFrom_of_fits fits] at popped
      cases popped
      exact ⟨range, rfl, fits⟩
    · rw [IntType.tryFrom_of_not_fits fits] at popped
      cases popped
  · cases popped

theorem popI64_of_fits {t : IntType} {v : Int} {range : IntType.i64.Fits v} (fits : t.Fits v)
    (rest : List Value) : popI64 t (.I64 v range :: rest) = .ok (v, rest) := by
  simp [popI64, fits]

theorem popI64_eq_ok {t : IntType} {args rest : List Value} {x : Int} :
    popI64 t args = .ok (x, rest) ↔ ∃ range, args = .I64 x range :: rest ∧ t.Fits x := by
  refine ⟨fun popped => ?_, fun ⟨range, listed, fits⟩ => listed ▸ popI64_of_fits fits rest⟩
  unfold popI64 at popped
  split at popped
  · rename_i v range rest'
    by_cases fits : t.Fits v
    · rw [IntType.tryFrom_of_fits fits] at popped
      cases popped
      exact ⟨range, rfl, fits⟩
    · rw [IntType.tryFrom_of_not_fits fits] at popped
      cases popped
  · cases popped

theorem returnI32_of_fits {x : Int} (range : IntType.i32.Fits x) :
    returnI32 x = .ok (.Value (.I32 x range)) := by
  simp [returnI32, range]

theorem returnI64_of_fits {x : Int} (range : IntType.i64.Fits x) :
    returnI64 x = .ok (.Value (.I64 x range)) := by
  simp [returnI64, range]

-- What `return_i32` hands back is the `I32` of the value itself.
theorem returnI32_eq_ok {x : Int} {v : Value} (returned : returnI32 x = .ok (.Value v)) :
    ∃ range, v = .I32 x range := by
  unfold returnI32 at returned
  split at returned <;> cases returned
  exact ⟨_, rfl⟩

theorem returnI64_eq_ok {x : Int} {v : Value} (returned : returnI64 x = .ok (.Value v)) :
    ∃ range, v = .I64 x range := by
  unfold returnI64 at returned
  split at returned <;> cases returned
  exact ⟨_, rfl⟩

theorem popI32_isOk {t : IntType} {x : Int} {range : IntType.i32.Fits x} {rest : List Value} :
    (popI32 t (.I32 x range :: rest)).isOk ↔ t.Fits x := by
  by_cases fits : t.Fits x <;> simp [popI32, fits, Except.isOk, Except.toBool]

theorem popI64_isOk {t : IntType} {x : Int} {range : IntType.i64.Fits x} {rest : List Value} :
    (popI64 t (.I64 x range :: rest)).isOk ↔ t.Fits x := by
  by_cases fits : t.Fits x <;> simp [popI64, fits, Except.isOk, Except.toBool]

-- An unsigned type holds no negative value.
theorem IntType.not_fits_of_neg {t : IntType} {x : Int} (unsigned : t.signed = false) (negative : x < 0) :
    ¬ t.Fits x := by
  simp only [Fits, min, unsigned, Bool.false_eq_true, if_false]
  omega

-- Over every integer type, so over `u32`, `u64`, `i32`, `i64` and `usize` of any width alike.
theorem argument_codec_round_trip :
    (∀ t : Int, (∀ range, returnI32 t = .ok (.Value (.I32 t range))) ∧
      (¬ IntType.i32.Fits t → returnI32 t = .error ⟨⟩)) ∧
    (∀ t : Int, (∀ range, returnI64 t = .ok (.Value (.I64 t range))) ∧
      (¬ IntType.i64.Fits t → returnI64 t = .error ⟨⟩)) ∧
    (∀ (T : IntType) (t : Int), T.Fits t → ∀ v rest, returnI32 t = .ok (.Value v) →
      popI32 T (v :: rest) = .ok (t, rest)) ∧
    (∀ (T : IntType) (t : Int), T.Fits t → ∀ v rest, returnI64 t = .ok (.Value v) →
      popI64 T (v :: rest) = .ok (t, rest)) ∧
    (∀ (T : IntType) (x : Int) range rest, (popI32 T (.I32 x range :: rest)).isOk ↔ T.Fits x) ∧
    (∀ (T : IntType) (x : Int) range rest, (popI64 T (.I64 x range :: rest)).isOk ↔ T.Fits x) ∧
    (∀ T : IntType, T.signed = false →
      (∀ (x : Int) range rest, x < 0 → popI32 T (.I32 x range :: rest) = .error ⟨⟩) ∧
      (∀ (x : Int) range rest, x < 0 → popI64 T (.I64 x range :: rest) = .error ⟨⟩)) ∧
    (∀ (T : IntType) rest, popI32 T [] = .error ⟨⟩ ∧ popI64 T [] = .error ⟨⟩ ∧
      (∀ x range, popI32 T (.I64 x range :: rest) = .error ⟨⟩) ∧
      (∀ x range, popI64 T (.I32 x range :: rest) = .error ⟨⟩) ∧
      (∀ bits, popI32 T (.F32 bits :: rest) = .error ⟨⟩ ∧ popI64 T (.F32 bits :: rest) = .error ⟨⟩) ∧
      (∀ bits, popI32 T (.F64 bits :: rest) = .error ⟨⟩ ∧ popI64 T (.F64 bits :: rest) = .error ⟨⟩)) := by
  refine ⟨fun t => ⟨returnI32_of_fits, fun wide => by simp [returnI32, wide]⟩,
    fun t => ⟨returnI64_of_fits, fun wide => by simp [returnI64, wide]⟩,
    fun T t fits v rest returned => ?_, fun T t fits v rest returned => ?_,
    fun T x range rest => popI32_isOk, fun T x range rest => popI64_isOk,
    fun T unsigned => ⟨fun x range rest negative => ?_, fun x range rest negative => ?_⟩,
    fun T rest => ⟨rfl, rfl, fun _ _ => rfl, fun _ _ => rfl, fun _ => ⟨rfl, rfl⟩, fun _ => ⟨rfl, rfl⟩⟩⟩
  · obtain ⟨range, rfl⟩ := returnI32_eq_ok returned
    exact popI32_of_fits fits rest
  · obtain ⟨range, rfl⟩ := returnI64_eq_ok returned
    exact popI64_of_fits fits rest
  · simp [popI32, IntType.not_fits_of_neg unsigned negative]
  · simp [popI64, IntType.not_fits_of_neg unsigned negative]

-- `return_i32` hands `7` back as `I32(7)` and refuses `2^31`; the `I32(7)` pops back as the
-- `u32` value `7`, leaving the next value, and a negative pointer does not pop.
theorem seven_pops_back_as_u32 :
    returnI32 7 = .ok (.Value (.I32 7 (by decide))) ∧ returnI32 (2 ^ 31) = .error ⟨⟩ ∧
      popI32 .u32 [.I32 7 (by decide), .I64 0 (by decide)] = .ok (7, [.I64 0 (by decide)]) ∧
      popI32 .u32 [.I32 (-1) (by decide)] = .error ⟨⟩ :=
  ⟨(argument_codec_round_trip.1 7).1 (by decide), (argument_codec_round_trip.1 (2 ^ 31)).2 (by decide),
    argument_codec_round_trip.2.2.1 .u32 7 (by decide) _ _ rfl,
    (argument_codec_round_trip.2.2.2.2.2.2.1 .u32 rfl).1 (-1) (by decide) [] (by decide)⟩

/- What the decoders produce. A handler's pops form an `ArgsM` block; the rules below follow
   such a block pop by pop, so a fact about what a decoder returns is one term that mirrors its
   `do` block. -/

theorem ArgsM.bind_apply {α β : Type} (x : ArgsM α) (f : α → ArgsM β) (args : List Value) :
    (x >>= f) args = (x args).bind fun (a, rest) => f a rest := rfl

-- A block that succeeds ran its first part to success, then the rest on what that left.
theorem ArgsM.bind_eq_ok {α β : Type} {x : ArgsM α} {f : α → ArgsM β} {args rest : List Value} {b : β}
    (ran : (x >>= f) args = .ok (b, rest)) : ∃ a mid, x args = .ok (a, mid) ∧ f a mid = .ok (b, rest) := by
  rcases popped : x args with e | ⟨a, mid⟩ <;>
    simp only [ArgsM.bind_apply, popped, Except.bind, reduceCtorEq] at ran
  exact ⟨a, mid, rfl, ran⟩

-- Every result the pops produce satisfies `P`.
def ArgsM.Ensures {α : Type} (decode : ArgsM α) (P : α → Prop) : Prop :=
  ∀ args a rest, decode args = .ok (a, rest) → P a

-- The output pointer a decoder returns is the `I32` at position `k` of the arguments it was given.
def ArgsM.PointerAt {R : Type} (k : Nat) (decode : ArgsM (R × Nat)) : Prop :=
  ∀ args a outPtr rest, decode args = .ok ((a, outPtr), rest) →
    ∃ v range, args[k]? = some (.I32 v range) ∧ outPtr = v.toNat

namespace ArgsM.Ensures

variable {α β : Type} {P : α → Prop} {Q : β → Prop}

theorem pure {a : α} (holds : P a) : (Pure.pure a : ArgsM α).Ensures P := by
  rintro _ _ _ ⟨⟩
  exact holds

-- Pops constrain nothing; what the handler builds from them does.
theorem bind_of {x : ArgsM α} {f : α → ArgsM β} (rest : ∀ a, (f a).Ensures Q) : (x >>= f).Ensures Q := by
  intro args b after ran
  obtain ⟨a, mid, -, continued⟩ := ArgsM.bind_eq_ok ran
  exact rest a mid b after continued

end ArgsM.Ensures

namespace ArgsM.PointerAt

variable {R : Type} {k : Nat} {t : IntType} {f : Int → ArgsM (R × Nat)}

-- The pointer is the value this pop takes, handed on unchanged to the result.
theorem here (carried : ∀ x, (f x).Ensures (·.2 = x.toNat)) : (popI32 t >>= f).PointerAt 0 := by
  intro args a outPtr rest ran
  obtain ⟨x, mid, popped, continued⟩ := ArgsM.bind_eq_ok ran
  obtain ⟨range, rfl, -⟩ := popI32_eq_ok.mp popped
  exact ⟨x, range, List.getElem?_cons_zero, carried x mid _ rest continued⟩

-- A pop before the pointer's moves the pointer's position one on.
theorem pop32 (later : ∀ x, (f x).PointerAt k) : (popI32 t >>= f).PointerAt (k + 1) := by
  intro args a outPtr rest ran
  obtain ⟨x, mid, popped, continued⟩ := ArgsM.bind_eq_ok ran
  obtain ⟨range, rfl, -⟩ := popI32_eq_ok.mp popped
  simpa only [List.getElem?_cons_succ] using later x mid a outPtr rest continued

theorem pop64 (later : ∀ x, (f x).PointerAt k) : (popI64 t >>= f).PointerAt (k + 1) := by
  intro args a outPtr rest ran
  obtain ⟨x, mid, popped, continued⟩ := ArgsM.bind_eq_ok ran
  obtain ⟨range, rfl, -⟩ := popI64_eq_ok.mp popped
  simpa only [List.getElem?_cons_succ] using later x mid a outPtr rest continued

end ArgsM.PointerAt

end Gear.Sandbox
