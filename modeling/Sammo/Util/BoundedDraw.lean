import Mathlib
import Sammo.Util.LiteHashDRBGLaws

/-! Integers and fractions drawn from the bytes of a generator, by cutting to bits and drawing again. -/

namespace Sammo

/-- The most bits of a drawn integer. -/
def maxRngSupportBit : Nat := 53

/-- The greatest integer that can be drawn. -/
def maxInt : Nat := 2 ^ 53 - 1

/-- The number whose multiples make the drawn fractions. -/
def maxIntMore1 : Nat := 2 ^ 53

/-- Fills the bits below the highest one. -/
def calcBitMask (n : Nat) : Nat :=
  let n := n ||| n >>> 1
  let n := n ||| n >>> 2
  let n := n ||| n >>> 4
  let n := n ||| n >>> 8
  let n := n ||| n >>> 16
  n ||| n >>> 32

/-- The masks with the number of their bits. -/
def intBitMapMask : List (Nat × Nat) :=
  (List.range maxRngSupportBit).map fun index => (2 ^ (index + 1) - 1, index + 1)

/-- Clears the bits of the last byte that are above the wanted ones. -/
def clearHead (result : List UInt8) (bytes headBits : Nat) : List UInt8 :=
  if headBits = 0 then result
  else result.set (bytes - 1) (result.getD (bytes - 1) 0 &&& UInt8.ofNat (0xff >>> (8 - headBits)))

/-- The number that bytes spell, the smallest byte first. -/
def littleEndian (bytes : List UInt8) : Nat := bytes.foldr (fun byte rest => byte.toNat + 256 * rest) 0

namespace LiteHashDRBG

variable (sha512 : List UInt8 → Digest)

/-- Hands out the next bits, in whole bytes. -/
def nextBits (drbg : LiteHashDRBG) (bits : Int) (baseBytes : Option Int) :
    Except String (List UInt8 × LiteHashDRBG) := do
  let bits := toInt32 bits
  let bytes := toInt32 (bits + 7) / 8
  let headBits := (bits % 8).toNat
  let (result, next) ← drbg.nextBytes sha512 bytes baseBytes
  .ok (clearHead result bytes.toNat headBits, next)

/-- Draws an integer of some bits. -/
def drawBits (drbg : LiteHashDRBG) (bits : Nat) : Except String (Nat × LiteHashDRBG) := do
  let (buffer, next) ← drbg.nextBits sha512 bits (some 8)
  .ok (littleEndian (buffer.take 8), next)

/-- Draws integers of some bits until one is not too great; nothing when the fuel is used up before. -/
def drawUntil (bits max : Nat) : Nat → LiteHashDRBG → Except String (Option (Nat × LiteHashDRBG))
  | 0, _ => .ok none
  | fuel + 1, drbg => do
    let (n, next) ← drbg.drawBits sha512 bits
    if max < n then drawUntil bits max fuel next else .ok (some (n, next))

/-- Draws an integer up to a bound that is not negative. -/
def nextIntUpTo (fuel : Nat) (drbg : LiteHashDRBG) (max : Nat) : Except String (Option (Nat × LiteHashDRBG)) :=
  if max = maxInt then (drbg.drawBits sha512 maxRngSupportBit).map some
  else if maxInt < max then .error "Over max int"
  else if max = 0 then .ok (some (0, drbg))
  else drawUntil sha512 ((intBitMapMask.lookup (calcBitMask max)).getD 0) max fuel drbg

/-- Draws an integer between zero and a bound, or of all supported bits. -/
def nextInt (fuel : Nat) (drbg : LiteHashDRBG) : Option Int → Except String (Option (Int × LiteHashDRBG))
  | none => (drbg.drawBits sha512 maxRngSupportBit).map fun (n, next) => some (n, next)
  | some max => do
    let drawn ← nextIntUpTo sha512 fuel drbg max.natAbs
    -- Below zero the integer for the opposite bound is negated.
    .ok (drawn.map fun (n, next) => (if max < 0 then -(n : Int) else n, next))

/-- Draws a fraction, both ends included; nothing when the fuel is used up before. -/
def nextFloat1 : Nat → LiteHashDRBG → Except String (Option (ℚ × LiteHashDRBG))
  | 0, _ => .ok none
  | fuel + 1, drbg => do
    let (n, next) ← drbg.drawBits sha512 (maxRngSupportBit + 1)
    if n < maxIntMore1 then .ok (some ((n : ℚ) / maxIntMore1, next))
    else if n = maxIntMore1 then .ok (some (1, next))
    else nextFloat1 fuel next

end LiteHashDRBG

/-- The bytes of one draw for a bound. -/
def drawWidth (max : Nat) : Nat := (max.size + 7) / 8

/-- The masked bytes of the draw of some number, counted from a position of the stream. -/
def drawPattern (stream : Stream' UInt8) (position max draw : Nat) : List UInt8 :=
  clearHead ((stream.drop (position + draw * drawWidth max)).take (drawWidth max)) (drawWidth max) (max.size % 8)

/-- The integer of a draw. -/
def drawValue (stream : Stream' UInt8) (position max draw : Nat) : Nat :=
  littleEndian (drawPattern stream position max draw)

/-- How an integer up to a bound is drawn by a generator at a position of its stream. -/
structure DrawsBounded (sha512 : List UInt8 → Digest) (seed : List UInt8) (start : Nat) (drbg : LiteHashDRBG)
    (position max : Nat) : Prop where
  /-- The first draw that is not too great is the result, and nothing is read beyond it. -/
  accepted : ∀ draw, (∀ earlier < draw, max < drawValue (LiteHashDRBG.stream sha512 seed start) position max earlier) →
    drawValue (LiteHashDRBG.stream sha512 seed start) position max draw ≤ max → ∀ fuel, draw < fuel →
      ∃ next : LiteHashDRBG, next.AtPosition sha512 seed start (position + (draw + 1) * drawWidth max) ∧
        drbg.nextInt sha512 fuel (some max) =
          .ok (some ((drawValue (LiteHashDRBG.stream sha512 seed start) position max draw : Int), next)) ∧
        drbg.nextInt sha512 fuel (some (-max)) =
          .ok (some (-(drawValue (LiteHashDRBG.stream sha512 seed start) position max draw : Int), next))
  /-- While all draws are too great it goes on drawing. -/
  rejected : (∀ draw, max < drawValue (LiteHashDRBG.stream sha512 seed start) position max draw) → ∀ fuel,
    drbg.nextInt sha512 fuel (some max) = .ok none ∧ drbg.nextInt sha512 fuel (some (-max)) = .ok none
  /-- Every integer up to the bound comes from exactly one masked pattern of a draw's width. -/
  unbiased : ∀ value ≤ max, ∃! pattern : List UInt8, pattern.length = drawWidth max ∧
    clearHead pattern (drawWidth max) (max.size % 8) = pattern ∧ littleEndian pattern = value

end Sammo
