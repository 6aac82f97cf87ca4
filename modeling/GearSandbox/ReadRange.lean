import GearSandbox.Syscalls

set_option autoImplicit false

/- The range check of `read`. Its `at` and `len` come from `I32` stack values, so they stay
   below `2 ^ 31` and their sum below `2 ^ 32`: on a `usize` of at least 32 bits the checked
   addition never overflows. The slice is then taken exactly when it lies inside the message,
   and is what `write_validated_output` writes at `dest`; past the end, `read` traps with the
   range it was asked for and leaves guest memory alone. Reads compose: two adjacent chunks
   leave memory as one read of both, and the length `size` reports is a range `read` accepts. -/
namespace Gear.Sandbox

variable {σ ε : Type}

theorem checkedAdd_of_lt {bits a b : Nat} (below : a + b < 2 ^ bits) : checkedAdd bits a b = some (a + b) := by
  simp [checkedAdd, below]

-- An `I32` popped as a `usize` is below `2 ^ 31`.
theorem popI32_usize_lt {bits : Nat} {args rest : List Value} {x : Int}
    (popped : popI32 (.usize bits) args = .ok (x, rest)) : 0 ≤ x ∧ x < 2 ^ 31 := by
  obtain ⟨range, -, fits⟩ := popI32_eq_ok.mp popped
  have inI32 := IntType.fits_i32.mp range
  have inUsize := IntType.fits_usize.mp fits
  omega

theorem readArgs_lt {K : Config} {args rest : List Value} {start len dest : Nat}
    (decoded : FuncsHandler.readArgs K args = .ok ((start, len, dest), rest)) :
    start < 2 ^ 31 ∧ len < 2 ^ 31 := by
  simp only [FuncsHandler.readArgs, bind, StateT.bind, Except.bind, pure, StateT.pure, Except.pure] at decoded
  split at decoded
  · cases decoded
  rename_i startPopped
  split at decoded
  · cases decoded
  rename_i lenPopped
  split at decoded
  · cases decoded
  simp only [Except.ok.injEq, Prod.mk.injEq] at decoded
  obtain ⟨⟨rfl, rfl, -⟩, -⟩ := decoded
  have startRange := popI32_usize_lt startPopped
  have lenRange := popI32_usize_lt lenPopped
  omega

variable (E : Ext σ ε) (K : Config)

-- The producer of `read`, once the message is `msg` and the sum does not overflow.
theorem readRange_of_answer {start len : Nat} (host : Host σ) {msg : Bytes} {ext' : σ}
    (added : checkedAdd K.usizeBits start len = some (start + len))
    (answered : E.read host.ext = (.ok msg, ext')) :
    readRange E K start len host =
      if start + len ≤ msg.length then .ok (window msg start len) ⟨ext', host.memory⟩
      else .error (.ReadWrongRange (start, start + len) msg.length) ⟨ext', host.memory⟩ := by
  unfold readRange
  split
  · rename_i overflow
    rw [added] at overflow
    cases overflow
  rename_i lastIdx sum
  rw [added] at sum
  cases sum
  simp only [bind_apply, callExt, answered, propagate, pure_apply]
  by_cases inside : start + len ≤ msg.length
  · rw [dif_neg (by omega), if_pos inside]
    simp [sliceRange]
  · rw [dif_pos (by omega), if_neg inside]
    rfl

-- `read`'s three `I32` arguments, none negative, pop as they are.
theorem readArgs_of_i32 (wide : 32 ≤ K.usizeBits) {start len dest : Nat} (startRange : IntType.i32.Fits start)
    (lenRange : IntType.i32.Fits len) (destRange : IntType.i32.Fits dest) (rest : List Value) :
    FuncsHandler.readArgs K (.I32 start startRange :: .I32 len lenRange :: .I32 dest destRange :: rest) =
      .ok ((start, len, dest), rest) := by
  have usize : ∀ x : Nat, IntType.i32.Fits x → (IntType.usize K.usizeBits).Fits x := fun x range =>
    IntType.fits_usize.mpr ⟨by omega,
      lt_of_lt_of_le (IntType.fits_i32.mp range).2 (pow_le_pow_right₀ (by norm_num) (by omega))⟩
  have destU32 : IntType.u32.Fits dest :=
    IntType.fits_u32.mpr ⟨by omega, by have := (IntType.fits_i32.mp destRange).2; omega⟩
  simp only [FuncsHandler.readArgs, bind, StateT.bind, Except.bind, pure, StateT.pure, Except.pure,
    popI32_of_fits (usize start startRange), popI32_of_fits (usize len lenRange), popI32_of_fits destU32,
    Int.toNat_ofNat]

theorem read_checks_range (wide : 32 ≤ K.usizeBits) (start len dest : Nat) (startRange : IntType.i32.Fits start)
    (lenRange : IntType.i32.Fits len) (destRange : IntType.i32.Fits dest) (rest : List Value) (rt : Runtime σ ε)
    (msg : Bytes) (ext' : σ) (answered : E.read rt.host.ext = (.ok msg, ext')) :
    checkedAdd K.usizeBits start len = some (start + len) ∧
    (start + len ≤ msg.length →
      run (Syscall.read.handler E K) (.I32 start startRange :: .I32 len lenRange :: .I32 dest destRange :: rest) rt =
        if dest + len ≤ rt.host.memory.length then
          (.ok .Unit, ⟨⟨ext', overwrite rt.host.memory dest (window msg start len)⟩, rt.err⟩)
        else (.error ⟨⟩, ⟨⟨ext', rt.host.memory⟩, .RuntimeCtx (.Memory .OutOfBounds)⟩)) ∧
    (msg.length < start + len →
      run (Syscall.read.handler E K) (.I32 start startRange :: .I32 len lenRange :: .I32 dest destRange :: rest) rt =
        (.error ⟨⟩, ⟨⟨ext', rt.host.memory⟩, .ReadWrongRange (start, start + len) msg.length⟩)) := by
  have decoded := readArgs_of_i32 K wide startRange lenRange destRange rest
  have startBelow := (IntType.fits_i32.mp startRange).2
  have lenBelow := (IntType.fits_i32.mp lenRange).2
  have added : checkedAdd K.usizeBits start len = some (start + len) :=
    checkedAdd_of_lt (lt_of_lt_of_le (by omega) (Nat.pow_le_pow_right (by decide) wide))
  have produced := readRange_of_answer E K rt.host added answered
  refine ⟨added, fun inside => ?_, fun beyond => ?_⟩
  · rw [if_pos inside] at produced
    have sliceLength : (window msg start len).length = len := window_length inside
    change run (FuncsHandler.read E K) _ rt = _
    by_cases writable : dest + len ≤ rt.host.memory.length <;>
      simp only [run, FuncsHandler.read, closureSyscall, writeValidatedOutput, bind_pure_comp,
        withArgs_of_ok decoded, map_apply, trapOnErr, bind_apply, produced, writeOutput, Host.writeOutput,
        sliceLength, writable, if_true, if_false]
  · rw [if_neg (by omega)] at produced
    change run (FuncsHandler.read E K) _ rt = _
    simp only [run, FuncsHandler.read, closureSyscall, writeValidatedOutput, bind_pure_comp,
      withArgs_of_ok decoded, map_apply, trapOnErr, bind_apply, produced]

-- `read` copies bytes `1..3` of the message `1, 2, 3` to the second and third bytes of memory.
theorem read_copies_inside_range :
    run (Syscall.read.handler (Ext.uniform (.ok 3)) ⟨64, 64, 32⟩)
        [.I32 1 (by decide), .I32 2 (by decide), .I32 1 (by decide)] ⟨⟨(), [7, 8, 9, 10]⟩, .NoReplyContext⟩ =
      (.ok .Unit, ⟨⟨(), [7, 2, 3, 10]⟩, .NoReplyContext⟩) :=
  (read_checks_range (Ext.uniform (.ok 3)) ⟨64, 64, 32⟩ (by decide) 1 2 1 (by decide) (by decide) (by decide) []
    ⟨⟨(), [7, 8, 9, 10]⟩, .NoReplyContext⟩ [1, 2, 3] () rfl).2.1 (by decide)

-- Two adjacent windows of a message make the window over both.
theorem window_append (msg : Bytes) (start len₁ len₂ : Nat) :
    window msg start (len₁ + len₂) = window msg start len₁ ++ window msg (start + len₁) len₂ := by
  simp only [window, List.take_add, List.drop_drop]

-- Writing two byte strings one after the other is writing them at once.
theorem overwrite_append {memory : Bytes} {ptr : Nat} (bytes₁ bytes₂ : Bytes) (reached : ptr ≤ memory.length) :
    overwrite memory ptr (bytes₁ ++ bytes₂) = overwrite (overwrite memory ptr bytes₁) (ptr + bytes₁.length) bytes₂ := by
  have front : (memory.take ptr ++ bytes₁).length = ptr + bytes₁.length := by
    simp only [List.length_append, List.length_take, Nat.min_eq_left reached]
  have first : overwrite memory ptr bytes₁ = (memory.take ptr ++ bytes₁) ++ memory.drop (ptr + bytes₁.length) := rfl
  conv_rhs => rw [first, overwrite, List.take_left' front, List.drop_append_eq_append_drop,
    List.drop_eq_nil_of_le (by omega), front, List.drop_drop]
  simp only [overwrite, List.length_append, List.append_assoc, List.nil_append]
  -- The two sides now differ only in where the rest of memory is dropped from.
  congr 4
  omega

-- `read` of a range inside the message, to a destination inside memory, writes the slice there.
theorem read_run_of_inside (wide : 32 ≤ K.usizeBits) {args rest : List Value} {start len dest : Nat}
    (decoded : FuncsHandler.readArgs K args = .ok ((start, len, dest), rest)) (rt : Runtime σ ε) {msg : Bytes}
    {ext' : σ} (answered : E.read rt.host.ext = (.ok msg, ext')) (inside : start + len ≤ msg.length)
    (writable : dest + len ≤ rt.host.memory.length) :
    run (Syscall.read.handler E K) args rt =
      (.ok .Unit, ⟨⟨ext', overwrite rt.host.memory dest (window msg start len)⟩, rt.err⟩) := by
  obtain ⟨startRange, lenRange⟩ := readArgs_lt decoded
  have added : checkedAdd K.usizeBits start len = some (start + len) :=
    checkedAdd_of_lt (lt_of_lt_of_le (by omega) (Nat.pow_le_pow_right (by decide) wide))
  have produced := readRange_of_answer E K rt.host added answered
  rw [if_pos inside] at produced
  have sliceLength : (window msg start len).length = len := window_length inside
  change run (FuncsHandler.read E K) args rt = _
  simp only [run, FuncsHandler.read, closureSyscall, writeValidatedOutput, bind_pure_comp, withArgs_of_ok decoded,
    map_apply, trapOnErr, bind_apply, produced, writeOutput, Host.writeOutput, sliceLength, writable, if_true]

-- Reading a message in two adjacent chunks leaves the same memory as reading both at once; only
-- the extension has answered once more.
theorem read_in_two_chunks (wide : 32 ≤ K.usizeBits) {args₁ args₂ args rest₁ rest₂ rest : List Value}
    {start len₁ len₂ dest : Nat}
    (first : FuncsHandler.readArgs K args₁ = .ok ((start, len₁, dest), rest₁))
    (second : FuncsHandler.readArgs K args₂ = .ok ((start + len₁, len₂, dest + len₁), rest₂))
    (whole : FuncsHandler.readArgs K args = .ok ((start, len₁ + len₂, dest), rest)) (rt : Runtime σ ε)
    {msg : Bytes} {ext₁ ext₂ : σ} (answered₁ : E.read rt.host.ext = (.ok msg, ext₁))
    (answered₂ : E.read ext₁ = (.ok msg, ext₂)) (inside : start + len₁ + len₂ ≤ msg.length)
    (writable : dest + len₁ + len₂ ≤ rt.host.memory.length) :
    guestCall E K [(.read, args₁), (.read, args₂)] rt =
        (false, ⟨⟨ext₂, overwrite rt.host.memory dest (window msg start (len₁ + len₂))⟩, rt.err⟩) ∧
      guestCall E K [(.read, args)] rt =
        (false, ⟨⟨ext₁, overwrite rt.host.memory dest (window msg start (len₁ + len₂))⟩, rt.err⟩) := by
  have firstLength : (window msg start len₁).length = len₁ := window_length (by omega)
  have grown : (overwrite rt.host.memory dest (window msg start len₁)).length = rt.host.memory.length := by
    simp only [overwrite, List.length_append, List.length_take, List.length_drop, firstLength]
    omega
  have ranFirst := read_run_of_inside E K wide first rt answered₁ (by omega) (by omega)
  have ranSecond := read_run_of_inside E K wide second
    ⟨⟨ext₁, overwrite rt.host.memory dest (window msg start len₁)⟩, rt.err⟩ answered₂ (by omega)
    (by simp only [grown]; omega)
  have ranWhole := read_run_of_inside E K wide whole rt answered₁ (by omega) (by omega)
  have chunked : overwrite rt.host.memory dest (window msg start (len₁ + len₂)) =
      overwrite (overwrite rt.host.memory dest (window msg start len₁)) (dest + len₁)
        (window msg (start + len₁) len₂) := by
    rw [window_append, overwrite_append _ _ (by omega), firstLength]
  refine ⟨?_, by simp only [guestCall, ranWhole]⟩
  rw [chunked]
  simp only [guestCall, ranFirst, ranSecond]

-- Of the message `1, 2, 3, 4`, a read of byte `1` then of bytes `2..4`, to the bytes from `1` on,
-- leaves the memory one read of bytes `1..4` leaves.
theorem three_bytes_read_in_two_chunks :
    guestCall (Ext.uniform (.ok 4)) ⟨64, 64, 32⟩
        [(.read, [.I32 1 (by decide), .I32 1 (by decide), .I32 1 (by decide)]),
          (.read, [.I32 2 (by decide), .I32 2 (by decide), .I32 2 (by decide)])]
        ⟨⟨(), [7, 8, 9, 10, 11]⟩, .NoReplyContext⟩ =
        (false, ⟨⟨(), [7, 2, 3, 4, 11]⟩, .NoReplyContext⟩) ∧
      guestCall (Ext.uniform (.ok 4)) ⟨64, 64, 32⟩
        [(.read, [.I32 1 (by decide), .I32 3 (by decide), .I32 1 (by decide)])]
        ⟨⟨(), [7, 8, 9, 10, 11]⟩, .NoReplyContext⟩ = (false, ⟨⟨(), [7, 2, 3, 4, 11]⟩, .NoReplyContext⟩) :=
  read_in_two_chunks (Ext.uniform (.ok 4)) ⟨64, 64, 32⟩ (by decide)
    (show FuncsHandler.readArgs _ [.I32 1 (by decide), .I32 1 (by decide), .I32 1 (by decide)] = .ok ((1, 1, 1), [])
      from rfl)
    (show FuncsHandler.readArgs _ [.I32 2 (by decide), .I32 2 (by decide), .I32 2 (by decide)] = .ok ((2, 2, 2), [])
      from rfl)
    (show FuncsHandler.readArgs _ [.I32 1 (by decide), .I32 3 (by decide), .I32 1 (by decide)] = .ok ((1, 3, 1), [])
      from rfl)
    ⟨⟨(), [7, 8, 9, 10, 11]⟩, .NoReplyContext⟩ rfl rfl (by decide) (by decide)

-- `size` reports the message's length, when it fits an `i32`.
theorem size_run (args : List Value) {rt : Runtime σ ε} {msg : Bytes} {ext' : σ}
    (sized : E.size rt.host.ext = (.ok msg.length, ext')) (range : IntType.i32.Fits msg.length) :
    run (Syscall.size.handler E K) args rt =
      (.ok (.Value (.I32 msg.length range)), ⟨⟨ext', rt.host.memory⟩, rt.err⟩) := by
  change run (FuncsHandler.size E) args rt = _
  simp only [run, FuncsHandler.size, bind_apply, onHost, callExt, sized, output, returnI32_of_fits range]

-- A guest that asks `size` and reads that many bytes from the start copies the whole message.
theorem whole_message_read_after_size (wide : 32 ≤ K.usizeBits) (rt : Runtime σ ε) {msg : Bytes} {ext₁ ext₂ : σ}
    (sized : E.size rt.host.ext = (.ok msg.length, ext₁)) (answered : E.read ext₁ = (.ok msg, ext₂))
    (range : IntType.i32.Fits msg.length) (dest : Int) (destRange : IntType.i32.Fits dest) (nonneg : 0 ≤ dest)
    (writable : dest.toNat + msg.length ≤ rt.host.memory.length) :
    run (Syscall.size.handler E K) [] rt = (.ok (.Value (.I32 msg.length range)), ⟨⟨ext₁, rt.host.memory⟩, rt.err⟩) ∧
      guestCall E K [(.size, []), (.read, [.I32 0 (by decide), .I32 msg.length range, .I32 dest destRange])] rt =
        (false, ⟨⟨ext₂, overwrite rt.host.memory dest.toNat msg⟩, rt.err⟩) := by
  have reported := size_run E K [] sized range
  have inI32 := IntType.fits_i32.mp range
  have destInI32 := IntType.fits_i32.mp destRange
  have usize : ∀ x : Int, 0 ≤ x → x < 2 ^ 31 → (IntType.usize K.usizeBits).Fits x := fun x low high =>
    IntType.fits_usize.mpr ⟨low, lt_of_lt_of_le high (pow_le_pow_right₀ (by norm_num) (by omega))⟩
  have decoded : FuncsHandler.readArgs K [.I32 0 (by decide), .I32 msg.length range, .I32 dest destRange] =
      .ok ((0, msg.length, dest.toNat), []) := by
    simp only [FuncsHandler.readArgs, bind, StateT.bind, Except.bind, pure, StateT.pure, Except.pure,
      popI32_of_fits (usize 0 le_rfl (by decide)), popI32_of_fits (usize msg.length (by omega) (by omega)),
      popI32_of_fits (IntType.fits_u32.mpr ⟨nonneg, by omega⟩), Int.toNat_ofNat, Int.toNat_zero]
  have copied := read_run_of_inside E K wide decoded ⟨⟨ext₁, rt.host.memory⟩, rt.err⟩ answered (by omega) writable
  have whole : window msg 0 msg.length = msg := by simp [window]
  rw [whole] at copied
  exact ⟨reported, by simp only [guestCall, reported, copied]⟩

-- `size` reports `3`, and a read of three bytes from the start copies the message `1, 2, 3` to
-- the bytes from `1` on.
theorem three_byte_message_read_whole :
    run (Syscall.size.handler (Ext.uniform (.ok 3)) ⟨64, 64, 32⟩) [] ⟨⟨(), [7, 8, 9, 10]⟩, .NoReplyContext⟩ =
        (.ok (.Value (.I32 3 (by decide))), ⟨⟨(), [7, 8, 9, 10]⟩, .NoReplyContext⟩) ∧
      guestCall (Ext.uniform (.ok 3)) ⟨64, 64, 32⟩
          [(.size, []), (.read, [.I32 0 (by decide), .I32 3 (by decide), .I32 1 (by decide)])]
          ⟨⟨(), [7, 8, 9, 10]⟩, .NoReplyContext⟩ =
        (false, ⟨⟨(), [7, 1, 2, 3]⟩, .NoReplyContext⟩) :=
  whole_message_read_after_size (Ext.uniform (.ok 3)) ⟨64, 64, 32⟩ (by decide) ⟨⟨(), [7, 8, 9, 10]⟩, .NoReplyContext⟩
    (by rfl) (show (Ext.uniform (.ok 3)).read () = (.ok [1, 2, 3], ()) from rfl) (by decide) 1 (by decide) (by decide)
    (by decide)

end Gear.Sandbox
