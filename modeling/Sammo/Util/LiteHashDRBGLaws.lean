import Sammo.Util.LiteHashDRBG

/-! However its bytes are asked for, the generator hands out its stream in order and without gaps. -/

namespace Sammo

variable {buffer piece : List UInt8}

theorem length_setBytes {offset : Nat} (fits : offset + piece.length ≤ buffer.length) :
    (setBytes buffer piece offset).length = buffer.length := by
  simp only [setBytes, List.length_append, List.length_take, List.length_drop]
  omega

theorem take_setBytes {offset : Nat} (fits : offset + piece.length ≤ buffer.length) :
    (setBytes buffer piece offset).take (offset + piece.length) = buffer.take offset ++ piece := by
  -- The kept front is as long as the offset, so the cut falls right behind the piece.
  apply List.take_left'
  simp only [List.length_append, List.length_take]
  omega

namespace LiteHashDRBG

variable {sha512 : List UInt8 → Digest} {seed : List UInt8} {start : Nat}

/-- The generator holds a block of the stream and has read some of it, perhaps all. -/
structure AtBlock (sha512 : List UInt8 → Digest) (seed : List UInt8) (start : Nat) (drbg : LiteHashDRBG)
    (block : Nat) : Prop where
  seeded : drbg.seed = seed
  counted : drbg.stateIdx = start + block + 1
  digest : drbg.buffer = sha512 (seed ++ littleEndian32 (start + block))
  bounded : drbg.bufferIdx ≤ bufferByteSize

/-- The front of a buffer holds the stream from a position on. -/
def Filled (sha512 : List UInt8 → Digest) (seed : List UInt8) (start position : Nat) (result : List UInt8)
    (size : Nat) : Prop :=
  result.take size = ((stream sha512 seed start).drop position).take size

variable {drbg : LiteHashDRBG} {block : Nat} {index : Nat} {size : Nat} {position : Nat}

theorem AtBlock.genNextBlock (held : drbg.AtBlock sha512 seed start block) :
    (drbg.genNextBlock sha512).AtBlock sha512 seed start (block + 1) where
  seeded := held.seeded
  counted := by
    simp only [LiteHashDRBG.genNextBlock, held.counted]
    omega
  digest := by
    -- The stored block number is already the one of the block behind the current one.
    simp only [LiteHashDRBG.genNextBlock, held.counted, held.seeded]
    rw [Nat.add_assoc]
  bounded := Nat.zero_le _

theorem AtBlock.seek (held : drbg.AtBlock sha512 seed start block) (bounded : index ≤ bufferByteSize) :
    { drbg with bufferIdx := index }.AtBlock sha512 seed start block :=
  { held with bounded }

theorem AtBlock.window (held : drbg.AtBlock sha512 seed start block) (inside : index + size ≤ bufferByteSize) :
    (drbg.buffer.toList.drop index).take size =
      ((stream sha512 seed start).drop (bufferByteSize * block + index)).take size := by
  rw [held.digest, stream, Stream'.take_drop_ofBlocks _ inside]

theorem AtBlock.rest (held : drbg.AtBlock sha512 seed start block) :
    drbg.buffer.toList.drop drbg.bufferIdx =
      ((stream sha512 seed start).drop (bufferByteSize * block + drbg.bufferIdx)).take
        (bufferByteSize - drbg.bufferIdx) := by
  have bounded := held.bounded
  rw [← held.window (by omega), List.take_of_length_le]
  rw [List.length_drop, Vector.length_toList]

theorem Filled.extend {added : Nat} {result piece : List UInt8}
    (filled : Filled sha512 seed start position result size) (fits : size + added ≤ result.length)
    (next : piece = ((stream sha512 seed start).drop (position + size)).take added) :
    Filled sha512 seed start position (setBytes result piece size) (size + added) ∧
      (setBytes result piece size).length = result.length := by
  -- The piece is as long as the stretch it was taken from.
  have length : piece.length = added := by rw [next, Stream'.length_take]
  have within : size + piece.length ≤ result.length := by omega
  constructor
  · unfold Filled
    rw [← length, take_setBytes within, filled, Stream'.take_add, Stream'.drop_drop, length, ← next]
  · exact length_setBytes within

theorem fillBlocks_filled {offset remain : Nat} {result : List UInt8}
    (held : drbg.AtBlock sha512 seed start block) (filled : Filled sha512 seed start position result offset)
    (aligned : bufferByteSize * (block + 1) = position + offset) (fits : offset + remain ≤ result.length) :
    ∃ lastDrbg lastResult lastOffset lastRemain lastBlock,
      fillBlocks sha512 drbg result offset remain = (lastDrbg, lastResult, lastOffset, lastRemain) ∧
      lastDrbg.AtBlock sha512 seed start lastBlock ∧
      Filled sha512 seed start position lastResult lastOffset ∧
      bufferByteSize * (lastBlock + 1) = position + lastOffset ∧
      lastOffset + lastRemain = offset + remain ∧ lastResult.length = result.length ∧
      lastRemain ≤ bufferByteSize := by
  -- The induction is on the bytes still missing, one digest less after each pass.
  induction remain using Nat.strong_induction_on generalizing drbg result offset block with
  | _ remain ih =>
    unfold fillBlocks
    split
    · rename_i more
      have positive : 0 < bufferByteSize := by decide
      have next := held.genNextBlock
      have digest : (drbg.genNextBlock sha512).buffer.toList =
          ((stream sha512 seed start).drop (position + offset)).take bufferByteSize := by
        rw [← aligned, ← Nat.add_zero (bufferByteSize * (block + 1))]
        exact next.rest
      have room : offset + bufferByteSize ≤ result.length := by omega
      obtain ⟨longer, length⟩ := filled.extend room digest
      obtain ⟨lastDrbg, lastResult, lastOffset, lastRemain, lastBlock, ran, atLast, filledLast, alignedLast,
          total, sameLength, small⟩ :=
        ih (remain - bufferByteSize) (by omega) next longer (by rw [Nat.mul_add, aligned]; omega) (by omega)
      refine ⟨lastDrbg, lastResult, lastOffset, lastRemain, lastBlock, ran, atLast, filledLast, alignedLast,
        ?_, ?_, small⟩
      · omega
      · omega
    · rename_i enough
      exact ⟨drbg, result, offset, remain, block, rfl, held, filled, aligned, rfl, rfl, by omega⟩

/-- Where the generator stands in its stream: in some block, so many bytes from the stream's start. -/
def AtPosition (sha512 : List UInt8 → Digest) (seed : List UInt8) (start : Nat) (drbg : LiteHashDRBG)
    (position : Nat) : Prop :=
  ∃ block, drbg.AtBlock sha512 seed start block ∧ position = bufferByteSize * block + drbg.bufferIdx

theorem AtBlock.turnPage (held : drbg.AtBlock sha512 seed start block) (read : drbg.bufferIdx = bufferByteSize) :
    (drbg.genNextBlock sha512).AtPosition sha512 seed start (bufferByteSize * block + drbg.bufferIdx) := by
  -- The end of one block is the start of the next.
  refine ⟨block + 1, held.genNextBlock, ?_⟩
  rw [read, Nat.mul_add]
  simp [LiteHashDRBG.genNextBlock]

theorem nextBytes_inside {bytes : Int} (baseBytes : Option Int) (held : drbg.AtBlock sha512 seed start block)
    (asked : toInt32 bytes = size) (positive : 0 < size) (inside : drbg.bufferIdx + size ≤ bufferByteSize) :
    ∃ answer next, drbg.nextBytes sha512 bytes baseBytes = .ok (answer, next) ∧
      next.AtPosition sha512 seed start (bufferByteSize * block + drbg.bufferIdx + size) ∧
      Filled sha512 seed start (bufferByteSize * block + drbg.bufferIdx) answer size := by
  have window := held.window inside
  have length : ((drbg.buffer.toList.drop drbg.bufferIdx).take size).length = size := by
    rw [window, Stream'.length_take]
  have moved : ({ drbg with bufferIdx := drbg.bufferIdx + size } : LiteHashDRBG).AtBlock sha512 seed start block :=
    held.seek inside
  -- At the end of the digest the next one is made at once.
  have reached : (if drbg.bufferIdx + size = bufferByteSize then
        LiteHashDRBG.genNextBlock sha512 { drbg with bufferIdx := drbg.bufferIdx + size }
      else { drbg with bufferIdx := drbg.bufferIdx + size }).AtPosition sha512 seed start
        (bufferByteSize * block + drbg.bufferIdx + size) := by
    rw [Nat.add_assoc]
    split
    · rename_i full
      exact moved.turnPage full
    · exact ⟨block, moved, rfl⟩
  have plain : Filled sha512 seed start (bufferByteSize * block + drbg.bufferIdx)
      ((drbg.buffer.toList.drop drbg.bufferIdx).take size) size := by
    unfold Filled
    rw [window, List.take_of_length_le (by rw [Stream'.length_take])]
  unfold nextBytes
  rw [asked]
  simp only [Int.toNat_natCast]
  rw [if_neg (by omega), if_pos inside]
  cases baseBytes with
  | none => exact ⟨_, _, rfl, reached, plain⟩
  | some base =>
    by_cases short : base ≤ size
    · simp only [if_pos short]
      exact ⟨_, _, rfl, reached, plain⟩
    · simp only [if_neg short]
      refine ⟨_, _, rfl, reached, ?_⟩
      -- The bytes stand at the front of the larger buffer.
      have room : 0 + size ≤ (List.replicate (max (size : Int) base).toNat (0 : UInt8)).length := by
        rw [List.length_replicate]
        omega
      have started : Filled sha512 seed start (bufferByteSize * block + drbg.bufferIdx)
          (List.replicate (max (size : Int) base).toNat 0) 0 := by simp [Filled]
      have copied := (started.extend room window).1
      rwa [Nat.zero_add] at copied

theorem le_answerSize (bytes : Nat) (baseBytes : Option Int) : bytes ≤ answerSize bytes baseBytes := by
  unfold answerSize
  split
  · exact Nat.le_refl bytes
  · split
    · exact Nat.le_refl bytes
    · omega

theorem nextBytes_across {bytes : Int} (baseBytes : Option Int) (held : drbg.AtBlock sha512 seed start block)
    (asked : toInt32 bytes = size) (positive : 0 < size) (across : ¬ drbg.bufferIdx + size ≤ bufferByteSize) :
    ∃ answer next, drbg.nextBytes sha512 bytes baseBytes = .ok (answer, next) ∧
      next.AtPosition sha512 seed start (bufferByteSize * block + drbg.bufferIdx + size) ∧
      Filled sha512 seed start (bufferByteSize * block + drbg.bufferIdx) answer size := by
  have bounded := held.bounded
  unfold nextBytes
  rw [asked]
  simp only [Int.toNat_natCast]
  rw [if_neg (by omega), if_neg across]
  have enough := le_answerSize size baseBytes
  generalize answerSize size baseBytes = room at enough
  have started : Filled sha512 seed start (bufferByteSize * block + drbg.bufferIdx)
      (List.replicate room 0) 0 := by simp [Filled]
  have width : 0 + (bufferByteSize - drbg.bufferIdx) ≤ (List.replicate room (0 : UInt8)).length := by
    rw [List.length_replicate]
    omega
  obtain ⟨opened, length⟩ := started.extend width held.rest
  rw [Nat.zero_add] at opened
  rw [List.length_replicate] at length
  have aligned : bufferByteSize * (block + 1) =
      bufferByteSize * block + drbg.bufferIdx + (bufferByteSize - drbg.bufferIdx) := by
    rw [Nat.mul_add]
    omega
  have rest : bufferByteSize - drbg.bufferIdx + (size - (bufferByteSize - drbg.bufferIdx)) ≤
      (setBytes (List.replicate room 0) (drbg.buffer.toList.drop drbg.bufferIdx) 0).length := by omega
  obtain ⟨lastDrbg, lastResult, lastOffset, lastRemain, lastBlock, ran, atLast, filledLast, alignedLast, total,
      sameLength, small⟩ :=
    fillBlocks_filled held opened aligned rest
  rw [ran]
  have next := atLast.genNextBlock
  by_cases complete : lastRemain = 0
  · simp only [if_pos complete]
    refine ⟨_, _, rfl, ⟨_, next, ?_⟩, ?_⟩
    · simp only [LiteHashDRBG.genNextBlock]
      omega
    · have whole : lastOffset = size := by omega
      rwa [whole] at filledLast
  · simp only [if_neg complete]
    -- The last digest supplies its front, perhaps all of it.
    have front : (lastDrbg.genNextBlock sha512).buffer.toList.take lastRemain =
        ((stream sha512 seed start).drop (bufferByteSize * block + drbg.bufferIdx + lastOffset)).take
          lastRemain := by
      have inside : 0 + lastRemain ≤ bufferByteSize := by omega
      have window := next.window inside
      rwa [List.drop_zero, Nat.add_zero, alignedLast] at window
    have copied := (filledLast.extend (by omega) front).1
    have whole : lastOffset + lastRemain = size := by omega
    rw [whole] at copied
    refine ⟨_, _, rfl, ⟨_, next.seek small, ?_⟩, copied⟩
    simp only
    omega

theorem nextBytes_reads (request : ByteRequest) (held : drbg.AtPosition sha512 seed start position) :
    match drbg.nextBytes sha512 request.bytes request.baseBytes with
    | .ok (answer, next) => next.AtPosition sha512 seed start (position + request.size) ∧
        Filled sha512 seed start position answer request.size
    | .error _ => request.size = 0 := by
  obtain ⟨block, atBlock, rfl⟩ := held
  by_cases refused : toInt32 request.bytes ≤ 0
  · have answer : drbg.nextBytes sha512 request.bytes request.baseBytes =
        .error s!"{toInt32 request.bytes} <= 0" := by
      unfold nextBytes
      rw [if_pos refused]
    rw [answer]
    exact Int.toNat_of_nonpos refused
  · have asked : toInt32 request.bytes = request.size := by
      unfold ByteRequest.size
      omega
    have positive : 0 < request.size := by omega
    by_cases inside : drbg.bufferIdx + request.size ≤ bufferByteSize
    · obtain ⟨answer, next, ran, reached, filled⟩ :=
        nextBytes_inside request.baseBytes atBlock asked positive inside
      rw [ran]
      exact ⟨reached, filled⟩
    · obtain ⟨answer, next, ran, reached, filled⟩ :=
        nextBytes_across request.baseBytes atBlock asked positive inside
      rw [ran]
      exact ⟨reached, filled⟩

theorem serve_reads (held : drbg.AtPosition sha512 seed start position) (requests : List ByteRequest) :
    (drbg.serve sha512 requests).flatten =
      ((stream sha512 seed start).drop position).take (requests.map ByteRequest.size).sum := by
  -- Each answer ends where the answers to the later requests begin.
  induction requests generalizing drbg position with
  | nil => simp [serve]
  | cons request rest ih =>
    have read := nextBytes_reads request held
    cases ran : drbg.nextBytes sha512 request.bytes request.baseBytes with
    | ok result =>
      obtain ⟨answer, next⟩ := result
      rw [ran] at read
      obtain ⟨reached, filled⟩ := read
      simp only [serve, ran, List.flatten_cons, List.map_cons, List.sum_cons]
      rw [ih reached, filled, Stream'.take_add, Stream'.drop_drop]
    | error message =>
      rw [ran] at read
      simp only [serve, ran, List.flatten_cons, List.map_cons, List.sum_cons]
      rw [ih held, read, Nat.zero_add, List.nil_append]

theorem create_position {stateIdx bufferIdx : Int} (created : create sha512 seed stateIdx bufferIdx = .ok drbg) :
    drbg.AtPosition sha512 seed stateIdx.toNat bufferIdx.toNat := by
  unfold create at created
  split at created
  · cases created
  · split at created
    · cases created
    · rename_i below
      split at created
      · cases created
      · have same := Except.ok.inj created
        refine ⟨0, ⟨?_, ?_, ?_, ?_⟩, ?_⟩
        · rw [← same]
          rfl
        · rw [← same]
          rfl
        · rw [← same]
          rfl
        · rw [← same]
          simp only
          omega
        · rw [← same]
          simp

/--
The answers to any requests, put together, are the stream of the seed from the generator's start on.

Splitting or merging requests therefore never repeats, drops or reorders a byte.
-/
theorem nextBytes_stream_law (sha512 : List UInt8 → Digest) (seed : List UInt8) (stateIdx bufferIdx : Int)
    (drbg : LiteHashDRBG) (created : create sha512 seed stateIdx bufferIdx = .ok drbg)
    (requests : List ByteRequest) :
    (drbg.serve sha512 requests).flatten =
      ((stream sha512 seed stateIdx.toNat).drop bufferIdx.toNat).take (requests.map ByteRequest.size).sum :=
  serve_reads (create_position created) requests

/-- A stand-in digest whose every byte depends on the whole message. -/
def sumDigest (message : List UInt8) : Digest :=
  Vector.ofFn fun index => message.foldl (· + ·) (UInt8.ofNat index)

/-- Requests of a few bytes, up to a block edge, of several blocks, and one that is refused. -/
theorem nextBytes_stream_law_requests :
    ∃ drbg, build sumDigest [1, 2] 3 = .ok drbg ∧
      (drbg.serve sumDigest [⟨4, some 8⟩, ⟨60, none⟩, ⟨0, none⟩, ⟨192, none⟩, ⟨1, none⟩]).flatten =
        ((stream sumDigest [1, 2] 3).drop 0).take 257 :=
  ⟨_, rfl, nextBytes_stream_law sumDigest [1, 2] 3 0 _ rfl
    [⟨4, some 8⟩, ⟨60, none⟩, ⟨0, none⟩, ⟨192, none⟩, ⟨1, none⟩]⟩

end LiteHashDRBG

end Sammo
