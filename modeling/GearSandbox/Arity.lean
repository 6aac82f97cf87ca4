import GearSandbox.Syscalls

set_option autoImplicit false

/- Arity is trusted. A handler pops the values it needs from the front of `args` and never looks
   at what is left, so values after the last one it pops change nothing: a handler whose pops
   succeed runs alike with any values appended, and so does a guest call whose calls each carry
   such values. Only the values themselves are checked, never their number. -/
namespace Gear.Sandbox

variable {σ ε : Type}

-- The pops read the front of the arguments: appending values leaves the result alone and comes
-- back as part of what is left.
def ArgsM.IgnoresTail {α : Type} (decode : ArgsM α) : Prop :=
  ∀ args a rest extra, decode args = .ok (a, rest) → decode (args ++ extra) = .ok (a, rest ++ extra)

namespace ArgsM.IgnoresTail

variable {α β : Type}

theorem pure (a : α) : (Pure.pure a : ArgsM α).IgnoresTail := by
  rintro _ _ _ _ ⟨⟩
  rfl

theorem bind {x : ArgsM α} {f : α → ArgsM β} (first : x.IgnoresTail) (rest : ∀ a, (f a).IgnoresTail) :
    (x >>= f).IgnoresTail := by
  intro args b after extra ran
  obtain ⟨a, mid, popped, continued⟩ := ArgsM.bind_eq_ok ran
  simp only [ArgsM.bind_apply, first args a mid extra popped, Except.bind, rest a mid b after extra continued]

theorem popI32 (t : IntType) : (Gear.Sandbox.popI32 t).IgnoresTail := by
  rintro (_ | ⟨v, args⟩) x rest extra popped
  · cases popped
  cases v
  case I32 v _ =>
    simp only [Gear.Sandbox.popI32, List.cons_append] at popped ⊢
    rcases fits : t.tryFrom v with _ | y <;> simp only [fits, reduceCtorEq, Except.ok.injEq, Prod.mk.injEq] at popped ⊢
    obtain ⟨rfl, rfl⟩ := popped
    exact ⟨rfl, rfl⟩
  all_goals cases popped

theorem popI64 (t : IntType) : (Gear.Sandbox.popI64 t).IgnoresTail := by
  rintro (_ | ⟨v, args⟩) x rest extra popped
  · cases popped
  cases v
  case I64 v _ =>
    simp only [Gear.Sandbox.popI64, List.cons_append] at popped ⊢
    rcases fits : t.tryFrom v with _ | y <;> simp only [fits, reduceCtorEq, Except.ok.injEq, Prod.mk.injEq] at popped ⊢
    obtain ⟨rfl, rfl⟩ := popped
    exact ⟨rfl, rfl⟩
  all_goals cases popped

-- A pop followed by the rest of a decoder, as the decoders' `do` blocks are written.
theorem pop32 {t : IntType} {f : Int → ArgsM β} (rest : ∀ x, (f x).IgnoresTail) :
    (Gear.Sandbox.popI32 t >>= f).IgnoresTail :=
  bind (popI32 t) rest

theorem pop64 {t : IntType} {f : Int → ArgsM β} (rest : ∀ x, (f x).IgnoresTail) :
    (Gear.Sandbox.popI64 t >>= f).IgnoresTail :=
  bind (popI64 t) rest

end ArgsM.IgnoresTail

section Decoders

open ArgsM.IgnoresTail

variable (K : Config)

-- Each proof follows its decoder's `do` block: one `pop32` or `pop64` per pop, in order.

theorem sendArgs_ignoresTail : (FuncsHandler.sendArgs (ε := ε) K).IgnoresTail :=
  pop32 fun _ => pop32 fun _ => pop32 fun _ => pop32 fun _ => pop32 fun _ => pop32 fun _ => pure _

theorem sendWgasArgs_ignoresTail : (FuncsHandler.sendWgasArgs (ε := ε) K).IgnoresTail :=
  pop32 fun _ => pop32 fun _ => pop32 fun _ => pop64 fun _ => pop32 fun _ => pop32 fun _ => pop32 fun _ => pure _

theorem sendCommitArgs_ignoresTail : (FuncsHandler.sendCommitArgs (ε := ε)).IgnoresTail :=
  pop32 fun _ => pop32 fun _ => pop32 fun _ => pop32 fun _ => pop32 fun _ => pure _

theorem sendCommitWgasArgs_ignoresTail : (FuncsHandler.sendCommitWgasArgs (ε := ε)).IgnoresTail :=
  pop32 fun _ => pop32 fun _ => pop32 fun _ => pop64 fun _ => pop32 fun _ => pop32 fun _ => pure _

theorem sendInitArgs_ignoresTail : (FuncsHandler.sendInitArgs (ε := ε)).IgnoresTail :=
  pop32 fun _ => pure _

theorem sendPushArgs_ignoresTail : (FuncsHandler.sendPushArgs (ε := ε)).IgnoresTail :=
  pop32 fun _ => pop32 fun _ => pop32 fun _ => pure _

theorem readArgs_ignoresTail : (FuncsHandler.readArgs K).IgnoresTail :=
  pop32 fun _ => pop32 fun _ => pop32 fun _ => pure _

theorem exitArgs_ignoresTail : (FuncsHandler.exitArgs (ε := ε)).IgnoresTail :=
  pop32 fun _ => pure _

theorem replyArgs_ignoresTail : (FuncsHandler.replyArgs (ε := ε) K).IgnoresTail :=
  pop32 fun _ => pop32 fun _ => pop32 fun _ => pop32 fun _ => pop32 fun _ => pure _

theorem replyWgasArgs_ignoresTail : (FuncsHandler.replyWgasArgs (ε := ε) K).IgnoresTail :=
  pop32 fun _ => pop32 fun _ => pop64 fun _ => pop32 fun _ => pop32 fun _ => pop32 fun _ => pure _

theorem replyCommitArgs_ignoresTail : (FuncsHandler.replyCommitArgs (ε := ε)).IgnoresTail :=
  pop32 fun _ => pop32 fun _ => pop32 fun _ => pure _

theorem replyCommitWgasArgs_ignoresTail : (FuncsHandler.replyCommitWgasArgs (ε := ε)).IgnoresTail :=
  pop64 fun _ => pop32 fun _ => pop32 fun _ => pop32 fun _ => pure _

theorem replyPushArgs_ignoresTail : (FuncsHandler.replyPushArgs (ε := ε)).IgnoresTail :=
  pop32 fun _ => pop32 fun _ => pure _

theorem debugArgs_ignoresTail : (FuncsHandler.debugArgs (ε := ε) K).IgnoresTail :=
  pop32 fun _ => pop32 fun _ => pure _

theorem durationArgs_ignoresTail : (FuncsHandler.durationArgs (ε := ε)).IgnoresTail :=
  pop32 fun _ => pure _

theorem wakeArgs_ignoresTail : (FuncsHandler.wakeArgs (ε := ε)).IgnoresTail :=
  pop32 fun _ => pop32 fun _ => pure _

theorem createProgramArgs_ignoresTail : (FuncsHandler.createProgramArgs (ε := ε) K).IgnoresTail :=
  pop32 fun _ => pop32 fun _ => pop32 fun _ => pop32 fun _ => pop32 fun _ => pop32 fun _ => pop32 fun _ =>
    pop32 fun _ => pure _

theorem createProgramWgasArgs_ignoresTail : (FuncsHandler.createProgramWgasArgs (ε := ε) K).IgnoresTail :=
  pop32 fun _ => pop32 fun _ => pop32 fun _ => pop32 fun _ => pop32 fun _ => pop64 fun _ => pop32 fun _ =>
    pop32 fun _ => pop32 fun _ => pure _

end Decoders

theorem withArgs_append {α : Type} {decode : ArgsM α} (front : decode.IgnoresTail)
    {body : α → SyscallM σ ε ReturnValue} {args : List Value} (decodes : (decode args).isOk) (extra : List Value) :
    withArgs decode body (args ++ extra) = withArgs decode body args := by
  obtain ⟨⟨a, rest⟩, decoded⟩ := exists_ok_of_isOk decodes
  rw [withArgs_of_ok decoded, withArgs_of_ok (front args a rest extra decoded)]

variable (E : Ext σ ε) (K : Config)

-- A handler whose pops succeed on `args` runs alike on `args` with any values appended.
theorem handler_ignores_trailing_args (h : Syscall) {args : List Value} (decodes : h.Decodes K ε args)
    (extra : List Value) : h.handler E K (args ++ extra) = h.handler E K args := by
  cases h
  case send => exact withArgs_append (sendArgs_ignoresTail K) decodes extra
  case sendWgas => exact withArgs_append (sendWgasArgs_ignoresTail K) decodes extra
  case sendCommit => exact withArgs_append sendCommitArgs_ignoresTail decodes extra
  case sendCommitWgas => exact withArgs_append sendCommitWgasArgs_ignoresTail decodes extra
  case sendInit => exact withArgs_append sendInitArgs_ignoresTail decodes extra
  case sendPush => exact withArgs_append sendPushArgs_ignoresTail decodes extra
  case read => exact withArgs_append (readArgs_ignoresTail K) decodes extra
  case exit => exact withArgs_append exitArgs_ignoresTail decodes extra
  case reply => exact withArgs_append (replyArgs_ignoresTail K) decodes extra
  case replyWgas => exact withArgs_append (replyWgasArgs_ignoresTail K) decodes extra
  case replyCommit => exact withArgs_append replyCommitArgs_ignoresTail decodes extra
  case replyCommitWgas => exact withArgs_append replyCommitWgasArgs_ignoresTail decodes extra
  case replyPush => exact withArgs_append replyPushArgs_ignoresTail decodes extra
  case debug => exact withArgs_append (debugArgs_ignoresTail K) decodes extra
  case waitFor => exact withArgs_append durationArgs_ignoresTail decodes extra
  case waitUpTo => exact withArgs_append durationArgs_ignoresTail decodes extra
  case wake => exact withArgs_append wakeArgs_ignoresTail decodes extra
  case createProgram => exact withArgs_append (createProgramArgs_ignoresTail K) decodes extra
  case createProgramWgas => exact withArgs_append (createProgramWgasArgs_ignoresTail K) decodes extra
  case gas | alloc | free | origin | replyTo | msgId | programId | source | value | valueAvailable | error =>
    exact withArgs_append (.popI32 .u32) decodes extra
  case size | exitCode | blockHeight | blockTimestamp | gasAvailable | leave | wait | forbidden => rfl

-- A guest call whose calls carry values after the ones they pop runs as the plain one: each
-- call names the same syscall, its arguments extend the plain call's, and those decode.
theorem trailing_args_never_change_guest_call {calls padded : List (Syscall × List Value)}
    (extended : List.Forall₂ (fun call call' => call'.1 = call.1 ∧ call.2 <+: call'.2 ∧ call.1.Decodes K ε call.2)
      calls padded) (rt : Runtime σ ε) :
    guestCall E K padded rt = guestCall E K calls rt := by
  induction extended generalizing rt with
  | nil => rfl
  | @cons call call' _ _ head _ ih =>
    obtain ⟨h, args⟩ := call
    obtain ⟨h', args'⟩ := call'
    dsimp only at head
    obtain ⟨rfl, ⟨extra, rfl⟩, decodes⟩ := head
    simp only [guestCall, run, handler_ignores_trailing_args E K _ decodes extra, ih]

-- `read` with a stray `I64` after its three arguments copies as it would without it.
theorem read_ignores_stray_i64 :
    guestCall (Ext.uniform (.ok 3)) ⟨64, 64, 32⟩
        [(.read, [.I32 1 (by decide), .I32 2 (by decide), .I32 0 (by decide), .I64 7 (by decide)])]
        ⟨⟨(), [9, 9]⟩, .NoReplyContext⟩ =
      guestCall (Ext.uniform (.ok 3)) ⟨64, 64, 32⟩
        [(.read, [.I32 1 (by decide), .I32 2 (by decide), .I32 0 (by decide)])]
        ⟨⟨(), [9, 9]⟩, .NoReplyContext⟩ := by
  apply trailing_args_never_change_guest_call
  exact .cons ⟨rfl, ⟨[.I64 7 (by decide)], rfl⟩, rfl⟩ .nil

end Gear.Sandbox
