import Mathlib.Data.Rat.Floor
import Sammo.World.GeneralTurn

/-! The stored world row as the commands that hand out generals read it, and the draws they make. -/

namespace Sammo

/-- The stored world row. -/
structure WorldStateRow where
  config : Record
  metadata : Record
  tickSeconds : ℚ
  currentYear : Int
  currentMonth : Int

/-- The first value that is there and is not null. -/
def firstPresent : List (Option Json) → Option Json
  | [] => none
  | some .null :: rest => firstPresent rest
  | some value :: _ => some value
  | none :: rest => firstPresent rest

/-- Drops the fraction of a number. -/
def truncate (value : ℚ) : Int := if 0 ≤ value then ⌊value⌋ else ⌈value⌉

/-- The length of a turn in minutes, at least one. -/
def resolveTurnTermMinutes (row : WorldStateRow) : Nat :=
  max 1 (truncate (asNumber (row.config.get? "turnTermMinutes") (roundHalfUp (row.tickSeconds / 60)))).natAbs

/-- The largest number of generals, from the first setting that is there. -/
def maxGeneralOf (settings : List (Option Json)) : Int := max 0 ⌊asNumber (firstPresent settings) 500⌋

/-- A part of the text a generator is seeded with. -/
inductive SeedPart where
  | text (value : String)
  | number (value : ℚ)
  deriving DecidableEq

/-- The length of a text in the units that string lengths are measured in. -/
def textLength (text : String) : Nat :=
  -- A character outside of the basic plane takes two units.
  (text.toList.map fun character => if 65535 < character.val.toNat then 2 else 1).sum

/-- A number with at most six decimals, without trailing zeros. -/
def sixDecimals (value : ℚ) : String :=
  let scaled : Nat := ⌊|value| * 1000000 + 1 / 2⌋.natAbs
  let digits := toString (scaled % 1000000)
  let padded := (List.replicate (6 - digits.length) '0') ++ digits.toList
  let fraction := (padded.reverse.dropWhile (· = '0')).reverse
  (if value < 0 then "-" else "") ++ toString (scaled / 1000000) ++
    (if fraction.isEmpty then "" else "." ++ String.ofList fraction)

/-- One part of a seed, with its kind and for a text its length. -/
def SeedPart.serialize : SeedPart → String
  | .text value => "str(" ++ toString (textLength value) ++ "," ++ value ++ ")"
  | .number value =>
    if value.den = 1 then "int(" ++ toString value.num ++ ")" else "float(" ++ sixDecimals value ++ ")"

/-- The seed of some parts. -/
def simpleSerialize (parts : List SeedPart) : String := "|".intercalate (parts.map SeedPart.serialize)

/-- The secret seed of the world: a text or a number. -/
def hiddenSeed? (row : WorldStateRow) : Option SeedPart :=
  match firstPresent [row.metadata.get? "hiddenSeed", row.metadata.get? "seed"] with
  | some (.str value) => some (.text value)
  | some (.num value) => some (.number value)
  | _ => none

/-- The part of a walk over weighted items that stops at the drawn one. -/
def stopAtWeight {ι : Type} : List (ι × ℚ) → ℚ → Except String ι
  | [], _ => .error "Unreacheable"
  | (item, weight) :: rest, left =>
    if weight ≤ 0 then if left ≤ 0 then .ok item else stopAtWeight rest left
    else if left ≤ weight then .ok item
    else stopAtWeight rest (left - weight)

/-- The item a number between zero and one draws, by weight. -/
def choiceUsingWeight {ι : Type} (items : List (ι × ℚ)) (random : ℚ) : Except String ι :=
  if items.isEmpty then .error "Empty items"
  else
    -- Weights that are not positive do not count.
    let sum := (items.map fun entry => if entry.2 ≤ 0 then 0 else entry.2).sum
    stopAtWeight items (random * sum)

/-- Which kind of trait a code names. -/
inductive TraitKind where
  | personality
  | domestic
  | war
  | eventDomestic
  deriving DecidableEq

/-- What the commands take from outside: random numbers, powers, dates as texts and the texts of traits. -/
structure SelectionServices where
  /-- The numbers between zero and one that the generator of a seed gives, one after another. -/
  nextFloat1 : String → Nat → ℚ
  /-- The integer from zero to a largest one that the generator of a seed gives after earlier ones. -/
  nextInt : String → List Nat → Nat → Nat
  /-- A power with a fractional exponent. -/
  pow : ℚ → ℚ → ℚ
  /-- The name and the description of a trait, if its code is a key of its kind. -/
  trait : TraitKind → String → Option (String × String)
  /-- The codes of the personalities, in the order they are drawn from. -/
  personalityKeys : List String
  /-- The text of an instant, and the instant of a text. -/
  isoString : Int → String
  parseDate : String → Option Int
  /-- The form of a particle that fits a name. -/
  josaPick : String → String → String

namespace General

/-- The user who owns a general. -/
def userId? (general : General) : Option String := (general.columns.get? "userId").bind Json.string?

/-- The code of a trait or an item, as its column stores it. -/
def code (general : General) (key : String) : String :=
  match (general.role.get? key).bind Json.string? with
  | some value => if value = "" then "None" else value
  | none => "None"

end General

end Sammo
