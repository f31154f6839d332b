import Sammo.Util.BoundedDraw

/-! A bounded draw returns its first draw in range, and every integer in range has one pattern. -/

namespace Sammo

theorem testBit_smear {n filled width : Nat}
    (reaches : ∀ bit, filled.testBit bit ↔ ∃ above < width, n.testBit (bit + above)) (bit : Nat) :
    (filled ||| filled >>> width).testBit bit ↔ ∃ above < width + width, n.testBit (bit + above) := by
  rw [Nat.testBit_or, Bool.or_eq_true, Nat.testBit_shiftRight, reaches, reaches]
  constructor
  · rintro (⟨above, below, set⟩ | ⟨above, below, set⟩)
    · exact ⟨above, by omega, set⟩
    · exact ⟨width + above, by omega, by rwa [← Nat.add_assoc, Nat.add_comm bit width]⟩
  · rintro ⟨above, below, set⟩
    by_cases near : above < width
    · exact .inl ⟨above, near, set⟩
    · refine .inr ⟨above - width, by omega, ?_⟩
      have place : width + bit + (above - width) = bit + above := by omega
      rwa [place]

theorem calcBitMask_eq {n : Nat} (small : n.size ≤ 64) : calcBitMask n = 2 ^ n.size - 1 := by
  have reaches : ∀ bit, (calcBitMask n).testBit bit ↔ ∃ above < 64, n.testBit (bit + above) := by
    -- Each step doubles the distance over which bits are joined.
    have one : ∀ bit, n.testBit bit ↔ ∃ above < 1, n.testBit (bit + above) := by simp
    exact testBit_smear (testBit_smear (testBit_smear (testBit_smear (testBit_smear (testBit_smear one)))))
  refine Nat.eq_of_testBit_eq fun bit => ?_
  rw [Nat.testBit_two_pow_sub_one, Bool.eq_iff_iff, reaches, decide_eq_true_iff, Nat.lt_size]
  constructor
  · rintro ⟨above, -, set⟩
    exact (Nat.pow_le_pow_right (by decide) (Nat.le_add_right bit above)).trans (Nat.ge_two_pow_of_testBit set)
  · intro atLeast
    obtain ⟨place, behind, set⟩ := Nat.exists_ge_and_testBit_of_ge_two_pow atLeast
    have inside := Nat.lt_size.mpr (Nat.ge_two_pow_of_testBit set)
    refine ⟨place - bit, by omega, ?_⟩
    rwa [Nat.add_sub_cancel' behind]

theorem lookup_calcBitMask {max : Nat} (positive : 0 < max) (within : max ≤ maxInt) :
    (intBitMapMask.lookup (calcBitMask max)).getD 0 = max.size := by
  have atMost : max.size ≤ 53 := Nat.size_le.mpr (lt_of_le_of_lt within (by decide))
  have atLeast : 0 < max.size := Nat.size_pos.mpr positive
  have table : ∀ index < 53, intBitMapMask.lookup (2 ^ (index + 1) - 1) = some (index + 1) := by decide
  have found := table (max.size - 1) (by omega)
  rw [Nat.sub_add_cancel atLeast] at found
  rw [calcBitMask_eq (by omega), found, Option.getD_some]

theorem littleEndian_append (front back : List UInt8) :
    littleEndian (front ++ back) = littleEndian front + 256 ^ front.length * littleEndian back := by
  induction front with
  | nil => simp [littleEndian]
  | cons byte rest ih =>
    simp only [littleEndian, List.cons_append, List.foldr_cons, List.length_cons] at ih ⊢
    rw [ih, pow_succ]
    ring

theorem littleEndian_zeros (count : Nat) : littleEndian (List.replicate count 0) = 0 := by
  induction count with
  | zero => rfl
  | succ count ih => simpa [littleEndian, List.replicate_succ] using ih

theorem littleEndian_lt (bytes : List UInt8) : littleEndian bytes < 256 ^ bytes.length := by
  induction bytes with
  | nil => decide
  | cons byte rest ih =>
    have small := byte.toNat_lt
    simp only [littleEndian, List.foldr_cons, List.length_cons] at ih ⊢
    rw [pow_succ]
    omega

theorem littleEndian_injective {bytes others : List UInt8} (length : bytes.length = others.length)
    (same : littleEndian bytes = littleEndian others) : bytes = others := by
  induction bytes generalizing others with
  | nil => exact (List.length_eq_zero_iff.mp length.symm).symm
  | cons byte rest ih =>
    cases others with
    | nil => simp at length
    | cons other left =>
      have small := byte.toNat_lt
      have little := other.toNat_lt
      simp only [littleEndian, List.foldr_cons] at same
      have head : byte = other := UInt8.toNat_inj.mp (by omega)
      have tail : littleEndian rest = littleEndian left := by
        simp only [littleEndian]
        omega
      rw [head, ih (by simpa using length) tail]

theorem exists_littleEndian {count value : Nat} (small : value < 256 ^ count) :
    ∃ bytes : List UInt8, bytes.length = count ∧ littleEndian bytes = value := by
  induction count generalizing value with
  | zero =>
    have zero : value = 0 := by simpa using small
    exact ⟨[], rfl, zero.symm⟩
  | succ count ih =>
    rw [pow_succ] at small
    obtain ⟨bytes, length, spelled⟩ := ih (Nat.div_lt_of_lt_mul (by omega : value < 256 * 256 ^ count))
    refine ⟨UInt8.ofNat value :: bytes, by simp [length], ?_⟩
    simp only [littleEndian, List.foldr_cons] at spelled ⊢
    rw [spelled, UInt8.toNat_ofNat']
    omega

theorem length_clearHead (bytes : List UInt8) (width headBits : Nat) :
    (clearHead bytes width headBits).length = bytes.length := by
  unfold clearHead
  split
  · rfl
  · exact List.length_set

theorem toNat_and_mask (byte : UInt8) {headBits : Nat} (few : headBits < 8) :
    (byte &&& UInt8.ofNat (0xff >>> (8 - headBits))).toNat = byte.toNat % 2 ^ headBits := by
  have mask : (0xff >>> (8 - headBits)) = 2 ^ headBits - 1 := by interval_cases headBits <;> rfl
  have fits : 2 ^ headBits - 1 < 2 ^ 8 := by
    have bound := Nat.pow_lt_pow_right (by decide : 1 < 2) few
    omega
  rw [UInt8.toNat_and, mask, UInt8.toNat_ofNat', Nat.mod_eq_of_lt fits, Nat.and_two_pow_sub_one_eq_mod]

theorem littleEndian_clearHead {bits : Nat} {bytes : List UInt8} (zeros : Nat) (positive : 0 < bits)
    (width : bytes.length = (bits + 7) / 8) :
    littleEndian (clearHead (bytes ++ List.replicate zeros 0) bytes.length (bits % 8)) =
      littleEndian bytes % 2 ^ bits := by
  obtain ⟨front, last, rfl⟩ : ∃ front last, bytes = front ++ [last] := by
    cases bytes using List.reverseRecOn with
    | nil => simp at width; omega
    | append_singleton front last => exact ⟨front, last, rfl⟩
  have small := littleEndian_lt front
  have power : 256 ^ front.length = 2 ^ (8 * front.length) := by rw [pow_mul]; rfl
  simp only [List.length_append, List.length_singleton] at width ⊢
  rw [List.append_assoc, List.singleton_append]
  unfold clearHead
  split
  · -- Whole bytes are kept as they are.
    have whole : bits = 8 * front.length + 8 := by omega
    have below := littleEndian_lt (front ++ [last])
    rw [List.length_append, List.length_singleton, pow_succ] at below
    rw [List.append_cons, littleEndian_append, littleEndian_zeros, whole, pow_add, ← power, Nat.mul_zero, Nat.add_zero]
    exact (Nat.mod_eq_of_lt below).symm
  · rename_i headed
    have split : bits = 8 * front.length + bits % 8 := by omega
    have few : bits % 8 < 8 := Nat.mod_lt _ (by decide)
    have positive : 0 < 256 ^ front.length := by positivity
    rw [Nat.add_sub_cancel, List.set_append_right _ _ (Nat.le_refl _), Nat.sub_self, List.set_cons_zero,
      List.getD_append_right _ _ _ _ (Nat.le_refl _), Nat.sub_self, List.getD_cons_zero, List.append_cons,
      littleEndian_append, littleEndian_zeros, littleEndian_append, littleEndian_append, split, pow_add, ← power,
      Nat.mod_mul]
    simp only [littleEndian, List.foldr_cons, List.foldr_nil, Nat.mul_zero, Nat.add_zero]
    change littleEndian front + _ = (littleEndian front + _) % _ + _ * ((littleEndian front + _) / _ % _)
    rw [toNat_and_mask last (by omega), Nat.add_mul_mod_self_left, Nat.add_mul_div_left _ _ positive,
      Nat.mod_eq_of_lt small, Nat.div_eq_of_lt small, Nat.zero_add, ← split]

theorem drop_setBytes {buffer piece : List UInt8} {offset position : Nat} (offsetInside : offset ≤ buffer.length)
    (behind : offset + piece.length ≤ position) : (setBytes buffer piece offset).drop position = buffer.drop position := by
  have front : (buffer.take offset ++ piece).length = offset + piece.length := by
    rw [List.length_append, List.length_take_of_le offsetInside]
  rw [setBytes, List.drop_append, List.drop_eq_nil_of_le (by omega), front, List.nil_append, List.drop_drop]
  congr 1
  omega

namespace LiteHashDRBG

variable {sha512 : List UInt8 → Digest} {seed : List UInt8} {start : Nat}

theorem nextBytes_padded {drbg next : LiteHashDRBG} {bytes : Int} {size : Nat} {answer : List UInt8}
    (asked : toInt32 bytes = size) (few : size ≤ 8) (bounded : drbg.bufferIdx ≤ bufferByteSize)
    (ran : drbg.nextBytes sha512 bytes (some 8) = .ok (answer, next)) :
    answer.drop size = List.replicate (8 - size) 0 := by
  unfold nextBytes at ran
  rw [asked] at ran
  simp only [Int.toNat_natCast] at ran
  by_cases positive : (size : Int) ≤ 0
  · rw [if_pos positive] at ran
    cases ran
  · rw [if_neg positive] at ran
    have eight : (max (size : Int) 8).toNat = 8 := by omega
    by_cases inside : drbg.bufferIdx + size ≤ bufferByteSize
    · rw [if_pos inside] at ran
      split at ran
      · -- All eight bytes were asked for.
        obtain ⟨rfl, -⟩ := Prod.mk.inj (Except.ok.inj ran)
        have whole : size = 8 := by omega
        subst whole
        rw [List.drop_eq_nil_of_le (List.length_take_le _ _)]
        rfl
      · obtain ⟨rfl, -⟩ := Prod.mk.inj (Except.ok.inj ran)
        rw [eight, drop_setBytes (Nat.zero_le _) (by rw [Nat.zero_add]; exact List.length_take_le _ _),
          List.drop_replicate]
    · rw [if_neg inside] at ran
      have block : bufferByteSize = 64 := rfl
      have room : answerSize size (some 8) = 8 := by
        rw [answerSize, if_neg (by decide), eight]
      have done : ¬ bufferByteSize < size - (bufferByteSize - drbg.bufferIdx) := by omega
      unfold fillBlocks at ran
      rw [if_neg done, room] at ran
      simp only at ran
      rw [if_neg (by omega)] at ran
      obtain ⟨rfl, -⟩ := Prod.mk.inj (Except.ok.inj ran)
      -- The two pieces end where the wanted bytes end.
      have first : (drbg.buffer.toList.drop drbg.bufferIdx).length = bufferByteSize - drbg.bufferIdx := by
        rw [List.length_drop, Vector.length_toList]
      have fits : 0 + (drbg.buffer.toList.drop drbg.bufferIdx).length ≤ (List.replicate 8 (0 : UInt8)).length := by
        rw [first, List.length_replicate]
        omega
      have offset : bufferByteSize - drbg.bufferIdx ≤
          (setBytes (List.replicate 8 0) (drbg.buffer.toList.drop drbg.bufferIdx) 0).length := by
        rw [length_setBytes fits, List.length_replicate]
        omega
      rw [drop_setBytes offset, drop_setBytes (Nat.zero_le _), List.drop_replicate]
      · omega
      · have piece := List.length_take_le (size - (bufferByteSize - drbg.bufferIdx))
          (genNextBlock sha512 drbg).buffer.toList
        omega

theorem toInt32_natCast {value : Nat} (small : value < 2147483648) : toInt32 value = value := by
  unfold toInt32
  rw [Int.bmod_eq_of_le] <;> omega

theorem nextBytes_window {drbg : LiteHashDRBG} {position width : Nat} (positive : 0 < width) (few : width ≤ 8)
    (held : drbg.AtPosition sha512 seed start position) :
    ∃ next : LiteHashDRBG, next.AtPosition sha512 seed start (position + width) ∧
      drbg.nextBytes sha512 width (some 8) =
        .ok (((stream sha512 seed start).drop position).take width ++ List.replicate (8 - width) 0, next) := by
  have asked : toInt32 (width : Int) = width := toInt32_natCast (by omega)
  obtain ⟨block, atBlock, rfl⟩ := held
  -- The bytes may lie in one block or in two.
  have read : ∃ answer next, drbg.nextBytes sha512 width (some 8) = .ok (answer, next) ∧
      next.AtPosition sha512 seed start (bufferByteSize * block + drbg.bufferIdx + width) ∧
      Filled sha512 seed start (bufferByteSize * block + drbg.bufferIdx) answer width := by
    by_cases inside : drbg.bufferIdx + width ≤ bufferByteSize
    · exact nextBytes_inside (some 8) atBlock asked positive inside
    · exact nextBytes_across (some 8) atBlock asked positive inside
  obtain ⟨answer, next, ran, reached, filled⟩ := read
  refine ⟨next, reached, ?_⟩
  rw [ran, ← nextBytes_padded asked few atBlock.bounded ran, ← filled, List.take_append_drop]

theorem drawBits_reads {drbg : LiteHashDRBG} {position bits : Nat} (positive : 0 < bits) (few : bits ≤ 64)
    (held : drbg.AtPosition sha512 seed start position) :
    ∃ next : LiteHashDRBG, next.AtPosition sha512 seed start (position + (bits + 7) / 8) ∧
      drbg.drawBits sha512 bits = .ok (littleEndian (clearHead
        (((stream sha512 seed start).drop position).take ((bits + 7) / 8)) ((bits + 7) / 8) (bits % 8)), next) := by
  have whole : toInt32 (bits : Int) = bits := toInt32_natCast (by omega)
  have bytes : toInt32 ((bits : Int) + 7) / 8 = ((bits + 7) / 8 : Nat) := by
    have sum : (bits : Int) + 7 = ((bits + 7 : Nat) : Int) := by omega
    rw [sum, toInt32_natCast (by omega)]
    omega
  have head : ((bits : Int) % 8).toNat = bits % 8 := by omega
  obtain ⟨next, reached, ran⟩ := nextBytes_window (by omega : 0 < (bits + 7) / 8) (by omega) held
  refine ⟨next, reached, ?_⟩
  have length : (((stream sha512 seed start).drop position).take ((bits + 7) / 8)).length = (bits + 7) / 8 :=
    Stream'.length_take _ _
  have cut := littleEndian_clearHead (8 - (bits + 7) / 8) positive length
  have plain := littleEndian_clearHead 0 positive length
  rw [length] at cut plain
  rw [List.replicate_zero, List.append_nil] at plain
  -- The buffer has eight bytes, so all of it is read.
  have eight : (clearHead (((stream sha512 seed start).drop position).take ((bits + 7) / 8) ++
      List.replicate (8 - (bits + 7) / 8) 0) ((bits + 7) / 8) (bits % 8)).length ≤ 8 := by
    rw [length_clearHead, List.length_append, length, List.length_replicate]
    omega
  have masked : drbg.nextBits sha512 bits (some 8) = .ok (clearHead
      (((stream sha512 seed start).drop position).take ((bits + 7) / 8) ++
        List.replicate (8 - (bits + 7) / 8) 0) ((bits + 7) / 8) (bits % 8), next) := by
    unfold nextBits
    simp only [whole, bytes, head, Int.toNat_natCast]
    rw [ran]
    rfl
  unfold drawBits
  rw [masked]
  change Except.ok (littleEndian (List.take 8 _), next) = _
  rw [List.take_of_length_le eight, cut, plain]

end LiteHashDRBG

variable {source : Stream' UInt8} {position max : Nat}

theorem size_le_of_le_maxInt (within : max ≤ maxInt) : max.size ≤ 53 :=
  Nat.size_le.mpr (lt_of_le_of_lt within (by decide))

theorem drawValue_lt (positive : 0 < max) (draw : Nat) : drawValue source position max draw < 2 ^ max.size := by
  have cut := littleEndian_clearHead 0 (Nat.size_pos.mpr positive)
    (Stream'.length_take (drawWidth max) (source.drop (position + draw * drawWidth max)))
  rw [Stream'.length_take, List.replicate_zero, List.append_nil] at cut
  rw [drawValue, drawPattern, cut]
  exact Nat.mod_lt _ (by positivity)

theorem drawValue_succ (draw : Nat) :
    drawValue source position max (draw + 1) = drawValue source (position + drawWidth max) max draw := by
  have place : position + (draw + 1) * drawWidth max = position + drawWidth max + draw * drawWidth max := by ring
  rw [drawValue, drawValue, drawPattern, drawPattern, place]

namespace LiteHashDRBG

variable {sha512 : List UInt8 → Digest} {seed : List UInt8} {start : Nat} {drbg : LiteHashDRBG}

theorem drawBits_draw (positive : 0 < max) (within : max ≤ maxInt)
    (held : drbg.AtPosition sha512 seed start position) :
    ∃ next : LiteHashDRBG, next.AtPosition sha512 seed start (position + drawWidth max) ∧
      drbg.drawBits sha512 max.size = .ok (drawValue (stream sha512 seed start) position max 0, next) := by
  have few := size_le_of_le_maxInt within
  obtain ⟨next, reached, ran⟩ := drawBits_reads (Nat.size_pos.mpr positive) (by omega) held
  refine ⟨next, reached, ?_⟩
  rw [ran, drawValue, drawPattern, Nat.zero_mul, Nat.add_zero]
  rfl

theorem drawUntil_step {bits fuel n : Nat} {next : LiteHashDRBG} (ran : drbg.drawBits sha512 bits = .ok (n, next)) :
    drawUntil sha512 bits max (fuel + 1) drbg =
      if max < n then drawUntil sha512 bits max fuel next else .ok (some (n, next)) := by
  rw [drawUntil, ran]
  rfl

theorem drawUntil_accepted (positive : 0 < max) (within : max ≤ maxInt) {draw fuel : Nat}
    (held : drbg.AtPosition sha512 seed start position)
    (earlier : ∀ other < draw, max < drawValue (stream sha512 seed start) position max other)
    (inRange : drawValue (stream sha512 seed start) position max draw ≤ max) (enough : draw < fuel) :
    ∃ next : LiteHashDRBG, next.AtPosition sha512 seed start (position + (draw + 1) * drawWidth max) ∧
      drawUntil sha512 max.size max fuel drbg =
        .ok (some (drawValue (stream sha512 seed start) position max draw, next)) := by
  -- The induction is on the draws that are too great.
  obtain ⟨fuel, rfl⟩ := Nat.exists_eq_succ_of_ne_zero (Nat.ne_zero_of_lt enough)
  obtain ⟨next, reached, ran⟩ := drawBits_draw positive within held
  induction draw generalizing drbg position fuel next with
  | zero =>
    refine ⟨next, by rwa [Nat.zero_add, Nat.one_mul], ?_⟩
    rw [drawUntil_step ran, if_neg (Nat.not_lt.mpr inRange)]
  | succ draw ih =>
    obtain ⟨fuel, rfl⟩ := Nat.exists_eq_succ_of_ne_zero (Nat.ne_zero_of_lt (Nat.lt_of_succ_lt_succ enough))
    obtain ⟨second, reachedSecond, ranSecond⟩ := drawBits_draw positive within reached
    rw [drawValue_succ] at inRange
    have later : ∀ other < draw,
        max < drawValue (stream sha512 seed start) (position + drawWidth max) max other := by
      intro other below
      rw [← drawValue_succ]
      exact earlier (other + 1) (Nat.succ_lt_succ below)
    obtain ⟨last, atLast, ended⟩ := ih reached later inRange fuel (Nat.lt_of_succ_lt_succ enough) second reachedSecond
      ranSecond
    refine ⟨last, ?_, ?_⟩
    · have place : position + (draw + 1 + 1) * drawWidth max = position + drawWidth max + (draw + 1) * drawWidth max := by
        ring
      rwa [place]
    · rw [drawUntil_step ran, if_pos (earlier 0 (Nat.succ_pos draw)), drawValue_succ, ended]

theorem drawUntil_rejected (positive : 0 < max) (within : max ≤ maxInt) (fuel : Nat)
    (held : drbg.AtPosition sha512 seed start position)
    (rejected : ∀ draw, max < drawValue (stream sha512 seed start) position max draw) :
    drawUntil sha512 max.size max fuel drbg = .ok none := by
  induction fuel generalizing drbg position with
  | zero => rfl
  | succ fuel ih =>
    obtain ⟨next, reached, ran⟩ := drawBits_draw positive within held
    rw [drawUntil_step ran, if_pos (rejected 0)]
    exact ih reached fun draw => by
      rw [← drawValue_succ]
      exact rejected (draw + 1)

theorem nextIntUpTo_eq (positive : 0 < max) (within : max ≤ maxInt) {fuel : Nat}
    (held : drbg.AtPosition sha512 seed start position) (enough : 0 < fuel) :
    nextIntUpTo sha512 fuel drbg max = drawUntil sha512 max.size max fuel drbg := by
  unfold nextIntUpTo
  by_cases greatest : max = maxInt
  · -- Any number of all bits is in range at once.
    obtain ⟨fuel, rfl⟩ := Nat.exists_eq_succ_of_ne_zero (Nat.ne_of_gt enough)
    obtain ⟨next, reached, ran⟩ := drawBits_draw positive within held
    have bits : max.size = maxRngSupportBit :=
      Nat.le_antisymm (size_le_of_le_maxInt within) (Nat.lt_size.mpr (by rw [greatest]; decide))
    have below : drawValue (stream sha512 seed start) position max 0 < 2 ^ max.size := drawValue_lt positive 0
    have inRange : ¬ max < drawValue (stream sha512 seed start) position max 0 := by
      have power : 2 ^ max.size = maxInt + 1 := by rw [bits]; rfl
      omega
    rw [if_pos greatest, ← bits, drawUntil_step ran, if_neg inRange, ran]
    rfl
  · rw [if_neg greatest, if_neg (by omega), if_neg (by omega), lookup_calcBitMask positive within]

theorem nextInt_eq {fuel : Nat} {drawn : Option (Nat × LiteHashDRBG)}
    (ran : nextIntUpTo sha512 fuel drbg max = .ok drawn) :
    drbg.nextInt sha512 fuel (some max) = .ok (drawn.map fun result => ((result.1 : Int), result.2)) ∧
      (0 < max → drbg.nextInt sha512 fuel (some (-max)) = .ok (drawn.map fun result => (-(result.1 : Int), result.2))) := by
  constructor
  · rw [nextInt, Int.natAbs_natCast, ran]
    have above : ¬ (max : Int) < 0 := by omega
    simp only [if_neg above]
    rfl
  · intro positive
    have below : -(max : Int) < 0 := by omega
    rw [nextInt, Int.natAbs_neg, Int.natAbs_natCast, ran]
    simp only [if_pos below]
    rfl

theorem drawValue_zero (source : Stream' UInt8) (draw : Nat) : drawValue source position 0 draw = 0 := by
  simp [drawValue, drawPattern, drawWidth, clearHead, littleEndian]

theorem pattern_unique {value : Nat} (inRange : value ≤ max) :
    ∃! pattern : List UInt8, pattern.length = drawWidth max ∧
      clearHead pattern (drawWidth max) (max.size % 8) = pattern ∧ littleEndian pattern = value := by
  have small : value < 2 ^ max.size := lt_of_le_of_lt inRange (Nat.lt_size_self max)
  have room : 2 ^ max.size ≤ 256 ^ drawWidth max := by
    have bytes : (256 : Nat) ^ drawWidth max = 2 ^ (8 * drawWidth max) := by rw [pow_mul]; rfl
    rw [bytes]
    refine Nat.pow_le_pow_right (by decide) ?_
    unfold drawWidth
    omega
  obtain ⟨pattern, length, spelled⟩ := exists_littleEndian (lt_of_lt_of_le small room)
  refine ⟨pattern, ⟨length, ?_, spelled⟩, fun other found =>
    littleEndian_injective (found.1.trans length.symm) (found.2.2.trans spelled.symm)⟩
  rcases Nat.eq_zero_or_pos max with rfl | positive
  · rfl
  · -- Masking keeps a number that has only the bound's bits.
    have cut := littleEndian_clearHead 0 (Nat.size_pos.mpr positive) length
    rw [List.replicate_zero, List.append_nil, length, spelled, Nat.mod_eq_of_lt small, ← spelled] at cut
    exact littleEndian_injective (length_clearHead _ _ _) cut

/--
A bounded draw returns the first draw that is in range, having read whole draws, and draws on while none is.

Each integer in range is spelled by one masked pattern, so none is favoured.
-/
theorem nextInt_draws {position max : Nat} (within : max ≤ maxInt)
    (held : drbg.AtPosition sha512 seed start position) : DrawsBounded sha512 seed start drbg position max := by
  rcases Nat.eq_zero_or_pos max with rfl | positive
  · have nothing (fuel : Nat) : nextIntUpTo sha512 fuel drbg 0 = .ok (some (0, drbg)) := by
      rw [nextIntUpTo, if_neg (by decide), if_neg (by decide), if_pos rfl]
    refine ⟨fun draw _ _ fuel _ => ⟨drbg, ?_, ?_⟩, fun rejected => ?_, fun _ => pattern_unique⟩
    · rwa [show drawWidth 0 = 0 from rfl, Nat.mul_zero, Nat.add_zero]
    · rw [drawValue_zero]
      exact ⟨(nextInt_eq (nothing fuel)).1, (nextInt_eq (nothing fuel)).1⟩
    · exact absurd (rejected 0) (by rw [drawValue_zero]; exact Nat.lt_irrefl 0)
  · refine ⟨fun draw earlier inRange fuel enough => ?_, fun rejected fuel => ?_, fun _ => pattern_unique⟩
    · obtain ⟨next, reached, ran⟩ := drawUntil_accepted positive within held earlier inRange enough
      rw [← nextIntUpTo_eq positive within held (by omega)] at ran
      exact ⟨next, reached, (nextInt_eq ran).1, (nextInt_eq ran).2 positive⟩
    · -- A bound of all bits rejects nothing, so the loop runs, and uses up its fuel.
      have ran : nextIntUpTo sha512 fuel drbg max = .ok none := by
        have looped := drawUntil_rejected positive within fuel held rejected
        rcases Nat.eq_zero_or_pos fuel with rfl | some
        · have partly : max ≠ maxInt := by
            rintro rfl
            have below : drawValue (stream sha512 seed start) position maxInt 0 < 2 ^ maxInt.size :=
              drawValue_lt positive 0
            have bound : 2 ^ maxInt.size ≤ 2 ^ 53 := Nat.pow_le_pow_right (by decide) (size_le_of_le_maxInt within)
            have above := rejected 0
            simp only [maxInt] at above bound below
            omega
          rw [nextIntUpTo, if_neg partly, if_neg (by omega), if_neg (by omega)]
          rfl
        · rw [nextIntUpTo_eq positive within held some, looped]
      exact ⟨(nextInt_eq ran).1, (nextInt_eq ran).2 positive⟩

/-- The stand-in generator draws up to nine as it should. -/
theorem nextInt_draws_sum : ∃ drbg, build sumDigest [1, 2] 3 = .ok drbg ∧
    DrawsBounded sumDigest [1, 2] 3 drbg 0 9 := by
  obtain ⟨drbg, built⟩ : ∃ drbg, build sumDigest [1, 2] 3 = .ok drbg := ⟨_, rfl⟩
  exact ⟨drbg, built, nextInt_draws (by decide) (create_position built)⟩

/-- A digest of full bytes, whatever the message. -/
def fullDigest (_ : List UInt8) : Digest := Vector.replicate _ 255

theorem get_stream_full (seed : List UInt8) (start place : Nat) : (stream fullDigest seed start).get place = 255 := by
  simp [stream, Stream'.get, Stream'.ofBlocks, fullDigest, Vector.get]

/-- Of a stream of full bytes no draw up to two is in range, so the drawing never ends. -/
theorem nextInt_endless :
    ¬ ∀ (sha512 : List UInt8 → Digest) (seed : List UInt8) (drbg : LiteHashDRBG) (max : Nat), max ≤ maxInt →
      build sha512 seed 0 = .ok drbg → ∃ fuel n next, drbg.nextInt sha512 fuel (some max) = .ok (some (n, next)) ∧
        0 ≤ n ∧ n ≤ max := by
  intro returns
  obtain ⟨drbg, built⟩ : ∃ drbg, build fullDigest [] 0 = .ok drbg := ⟨_, rfl⟩
  obtain ⟨fuel, n, next, ran, -⟩ := returns fullDigest [] drbg 2 (by decide) built
  have full : ∀ draw, 2 < drawValue (stream fullDigest [] 0) 0 2 draw := by
    intro draw
    -- Each draw is one full byte, of which two bits are kept.
    have width : drawWidth 2 = 1 := by decide
    have byte : ((stream fullDigest [] 0).drop (0 + draw * drawWidth 2)).take (drawWidth 2) = [255] := by
      rw [width, Stream'.take_succ, Stream'.take_zero, Stream'.head_drop, get_stream_full]
    rw [drawValue, drawPattern, byte]
    decide
  have held : drbg.AtPosition fullDigest [] 0 0 := create_position built
  rw [((nextInt_draws (by decide) held).rejected full fuel).1] at ran
  cases ran

end LiteHashDRBG

end Sammo
