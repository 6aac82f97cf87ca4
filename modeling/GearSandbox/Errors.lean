import GearSandbox.Codec

set_option autoImplicit false

/- The error taxonomy of `funcs.rs`: `FuncError` with its display texts, the termination
   reasons the host reads back after a trap, and `into_termination_reason` between the two.
   The error types `FuncError` wraps come from `gear_core`, `gear_core_errors` and
   `gear_backend_common`; they keep the variants the modelled handlers produce, and their own
   `Display`, defined outside this repository, is rendered by variant name. -/
namespace Gear.Sandbox

abbrev Bytes := List UInt8

-- Identifiers are 32 opaque bytes, read from and written to guest memory verbatim.
structure ProgramId where
  bytes : Bytes
  size : bytes.length = 32
deriving DecidableEq, Repr

structure MessageId where
  bytes : Bytes
  size : bytes.length = 32
deriving DecidableEq, Repr

inductive MemoryError where
  | OutOfBounds
deriving DecidableEq, Repr

structure PayloadSizeError where
deriving DecidableEq, Repr

structure RuntimeBufferSizeError where
deriving DecidableEq, Repr

-- `String::from_utf8` refused these bytes.
structure FromUtf8Error where
  bytes : Bytes
deriving DecidableEq, Repr

inductive RuntimeCtxError (ε : Type) where
  | Ext (e : ε)
  | Memory (e : MemoryError)
deriving DecidableEq, Repr

inductive TrapExplanation where
  | Other (description : String)
deriving DecidableEq, Repr

inductive TerminationReason where
  | Exit (beneficiary : ProgramId)
  | Leave
  | Wait (duration : Option Nat)
  | GasAllowanceExceeded
  | Trap (explanation : TrapExplanation)
deriving DecidableEq, Repr

inductive FuncError (ε : Type) where
  | Core (e : ε)
  | RuntimeCtx (e : RuntimeCtxError ε)
  | Memory (e : MemoryError)
  | PayloadSize (e : PayloadSizeError)
  | RuntimeBufferSize (e : RuntimeBufferSizeError)
  | SetU128 (e : MemoryError)
  | NonReplyExitCode
  | NoReplyContext
  | DebugString (e : FromUtf8Error)
  | SyscallErrorExpected
  | Terminated (reason : TerminationReason)
  -- `start..end` and the payload length
  | ReadWrongRange (range : Nat × Nat) (size : Nat)
  | ReadLenOverflow (start len : Nat)
deriving DecidableEq, Repr

instance : ToString MemoryError := ⟨reprStr⟩
instance : ToString PayloadSizeError := ⟨reprStr⟩
instance : ToString RuntimeBufferSizeError := ⟨reprStr⟩
instance : ToString FromUtf8Error := ⟨reprStr⟩

variable {ε : Type}

def RuntimeCtxError.toString [ToString ε] : RuntimeCtxError ε → String
  | .Ext e => ToString.toString e
  | .Memory e => ToString.toString e

namespace FuncError

-- The `#[display(...)]` attributes of `FuncError`.
def toString [ToString ε] : FuncError ε → String
  | .Core e => ToString.toString e
  | .RuntimeCtx e => e.toString
  | .Memory e => ToString.toString e
  | .PayloadSize e => ToString.toString e
  | .RuntimeBufferSize e => ToString.toString e
  | .SetU128 e => "Cannot set u128: " ++ ToString.toString e
  | .NonReplyExitCode => "Exit code ran into non-reply scenario"
  | .NoReplyContext => "Not running in reply context"
  | .DebugString e => "Failed to parse debug string: " ++ ToString.toString e
  | .SyscallErrorExpected => "`gr_error` expects error occurred earlier"
  | .Terminated reason => "Terminated: " ++ reprStr reason
  | .ReadWrongRange (start, stop) size =>
    "Cannot take data by indexes " ++ ToString.toString start ++ ".." ++ ToString.toString stop ++
      " from message with size " ++ ToString.toString size
  | .ReadLenOverflow start len =>
    "Overflow at " ++ ToString.toString start ++ " + len " ++ ToString.toString len ++ " in `gr_read`"

def asCore : FuncError ε → Option ε
  | .Core err => some err
  | _ => none

def intoTerminationReason [ToString ε] : FuncError ε → TerminationReason
  | .Terminated reason => reason
  | err => .Trap (.Other err.toString)

-- The reasons that unwind a guest call on purpose rather than report a failure.
def ControlFlow : TerminationReason → Prop
  | .Trap _ => False
  | _ => True

theorem intoTerminationReason_of_not_terminated [ToString ε] {err : FuncError ε}
    (notTerminated : ∀ reason, err ≠ .Terminated reason) :
    err.intoTerminationReason = .Trap (.Other err.toString) := by
  cases err <;> simp_all [intoTerminationReason]

@[simp] theorem intoTerminationReason_terminated [ToString ε] (reason : TerminationReason) :
    (Terminated reason : FuncError ε).intoTerminationReason = reason := rfl

end FuncError

/-- Modelled from the spec: `gear_core_errors::ExtError`, the domain error an outgoing-message
operation reports to the guest as a status. The crate only SCALE-encodes it: a variant index
followed by fixed-width fields, so its encoding is never empty and a few dozen bytes long. -/
structure ExtError where
  encoding : Bytes
  nonempty : encoding ≠ []
  short : encoding.length < 2 ^ 31
deriving DecidableEq

def ExtError.encodedSize (e : ExtError) : Nat := e.encoding.length

theorem ExtError.encodedSize_pos (e : ExtError) : 0 < e.encodedSize :=
  List.length_pos.mpr e.nonempty

/-- Modelled from the spec: `ProcessError::process_error` of `gear_backend_common`. An
extension error that `into_ext_error` turns into an `ExtError` is a domain failure the guest
sees as a status; any other error stays an error of the call. -/
def processError {α : Type} (intoExtError : ε → Except ε ExtError) :
    Except ε α → Except ε (Except ExtError α)
  | .ok a => .ok (.ok a)
  | .error e =>
    match intoExtError e with
    | .ok extError => .ok (.error extError)
    | .error e => .error e

/-- Modelled from the spec: `ErrorProcessor::error_len`, the status of a processed outcome:
`0` on success, else the encoded length of the error as `u32`. -/
def errorLen {α : Type} : Except ExtError α → Int
  | .ok _ => 0
  | .error e => IntType.u32.cast e.encodedSize

theorem errorLen_error {α : Type} (e : ExtError) :
    errorLen (.error e : Except ExtError α) = e.encodedSize := by
  have small := e.short
  simp only [errorLen, IntType.cast, IntType.u32, Bool.false_eq_true, if_false]
  exact Int.emod_eq_of_lt (by omega) (by unfold ExtError.encodedSize; omega)

end Gear.Sandbox
