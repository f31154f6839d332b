import Sammo.Lib.BlockStream

/-! A random byte generator that hands out the digests of a seed and a running block number. -/

namespace Sammo

/-- The bytes in one digest. -/
def bufferByteSize : Nat := 64

instance : NeZero bufferByteSize := ⟨by decide⟩

/-- The bytes of one digest. -/
abbrev Digest := Vector UInt8 bufferByteSize

/-- The low thirty-two bits of a number, the smallest byte first. -/
def littleEndian32 (value : Nat) : List UInt8 :=
  -- Higher bits fall away when a larger number is stored.
  (List.range 4).map fun index => UInt8.ofNat (value / 256 ^ index)

/-- The signed thirty-two bit integer a number is cut to. -/
def toInt32 (value : Int) : Int := value.bmod (2 ^ 32)

/-- Copies bytes into a buffer from a position on. -/
def setBytes (buffer piece : List UInt8) (offset : Nat) : List UInt8 :=
  buffer.take offset ++ piece ++ buffer.drop (offset + piece.length)

/-- A generator: its seed, the current digest, the next unread byte of it and the next block number. -/
structure LiteHashDRBG where
  seed : List UInt8
  buffer : Digest
  bufferIdx : Nat
  stateIdx : Nat

namespace LiteHashDRBG

variable (sha512 : List UInt8 → Digest)

/-- Replaces the current digest by the one of the next block number. -/
def genNextBlock (drbg : LiteHashDRBG) : LiteHashDRBG :=
  { drbg with
    buffer := sha512 (drbg.seed ++ littleEndian32 drbg.stateIdx)
    bufferIdx := 0
    stateIdx := drbg.stateIdx + 1 }

/-- Starts a generator at a byte of a block. -/
def create (seed : List UInt8) (stateIdx bufferIdx : Int) : Except String LiteHashDRBG :=
  if bufferIdx < 0 then .error s!"bufferIdx {bufferIdx} < 0"
  else if (bufferByteSize : Int) ≤ bufferIdx then .error s!"bufferidx {bufferIdx} >= {bufferByteSize}"
  else if stateIdx < 0 then .error s!"stateIdx {stateIdx} < 0"
  else
    -- The first digest is made at once; its buffer before that is never read.
    let empty : LiteHashDRBG := ⟨seed, Vector.replicate _ 0, 0, stateIdx.toNat⟩
    .ok { genNextBlock sha512 empty with bufferIdx := bufferIdx.toNat }

/-- Starts a generator at the first byte of a block. -/
def build (seed : List UInt8) (stateIdx : Int) : Except String LiteHashDRBG :=
  create sha512 seed stateIdx 0

/-- Copies whole digests into a result while more than one digest is still missing. -/
def fillBlocks (drbg : LiteHashDRBG) (result : List UInt8) (offset remain : Nat) :
    LiteHashDRBG × List UInt8 × Nat × Nat :=
  if bufferByteSize < remain then
    let drbg := genNextBlock sha512 drbg
    fillBlocks drbg (setBytes result drbg.buffer.toList offset) (offset + bufferByteSize)
      (remain - bufferByteSize)
  else (drbg, result, offset, remain)
termination_by remain
decreasing_by
  have positive : 0 < bufferByteSize := by decide
  omega

/-- The size of the buffer for bytes that are read across digests. -/
def answerSize (bytes : Nat) : Option Int → Nat
  | none => bytes
  -- A least size of zero counts as none.
  | some base => if base = 0 then bytes else (max (bytes : Int) base).toNat

/-- Hands out the next bytes, in a buffer of at least a given size. -/
def nextBytes (drbg : LiteHashDRBG) (bytes : Int) (baseBytes : Option Int) :
    Except String (List UInt8 × LiteHashDRBG) :=
  let bytes := toInt32 bytes
  if bytes ≤ 0 then .error s!"{bytes} <= 0"
  else
    let bytes := bytes.toNat
    if drbg.bufferIdx + bytes ≤ bufferByteSize then
      let read := (drbg.buffer.toList.drop drbg.bufferIdx).take bytes
      let moved := { drbg with bufferIdx := drbg.bufferIdx + bytes }
      let next := if moved.bufferIdx = bufferByteSize then genNextBlock sha512 moved else moved
      match baseBytes with
      | none => .ok (read, next)
      | some base =>
        if base ≤ bytes then .ok (read, next)
        else .ok (setBytes (List.replicate (max (bytes : Int) base).toNat 0) read 0, next)
    else
      let result := List.replicate (answerSize bytes baseBytes) 0
      let result := setBytes result (drbg.buffer.toList.drop drbg.bufferIdx) 0
      let offset := bufferByteSize - drbg.bufferIdx
      let (drbg, result, offset, remain) := fillBlocks sha512 drbg result offset (bytes - offset)
      let drbg := genNextBlock sha512 drbg
      if remain = 0 then .ok (result, drbg)
      else
        -- The index stays behind the digest when all of it was needed.
        .ok (setBytes result (drbg.buffer.toList.take remain) offset, { drbg with bufferIdx := remain })

end LiteHashDRBG

/-- A call for bytes: how many, and the least size of the buffer they come in. -/
structure ByteRequest where
  bytes : Int
  baseBytes : Option Int

/-- The number of bytes a request is answered with; none when it is refused. -/
def ByteRequest.size (request : ByteRequest) : Nat := (toInt32 request.bytes).toNat

namespace LiteHashDRBG

variable (sha512 : List UInt8 → Digest)

/-- The answers to requests made one after another, each cut to the bytes that were asked for. -/
def serve (drbg : LiteHashDRBG) : List ByteRequest → List (List UInt8)
  | [] => []
  | request :: rest =>
    match drbg.nextBytes sha512 request.bytes request.baseBytes with
    | .ok (answer, next) => answer.take request.size :: serve next rest
    -- A refused request leaves the generator as it was.
    | .error _ => [] :: serve drbg rest

/-- The byte stream of a seed from a block number on. -/
def stream (seed : List UInt8) (stateIdx : Nat) : Stream' UInt8 :=
  .ofBlocks fun block => sha512 (seed ++ littleEndian32 (stateIdx + block))

end LiteHashDRBG

end Sammo
