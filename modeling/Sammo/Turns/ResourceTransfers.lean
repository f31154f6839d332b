import Mathlib.Data.Rat.Floor
import Sammo.Lib.Overlay
import Sammo.Lib.Totals

/-! The commands that pass gold and rice on between generals and nations, and the turns they are run in. -/

namespace Sammo.Transfers

/-- The two resources. -/
inductive ResourceKey where
  | gold
  | rice
  deriving DecidableEq

/-- The resource that a command names by a flag. -/
def resKeyOf (isGold : Bool) : ResourceKey := if isGold then .gold else .rice

structure General where
  nationId : Int
  officerLevel : Int
  gold : Int
  rice : Int
  experience : ℚ
  dedication : ℚ
  leadershipExp : ℚ

structure Nation where
  level : Int
  gold : Int
  rice : Int
  surlimit : Int
  /-- What the nation has been given, by the nation it came from. -/
  recvAssist : OrderedMap Int Int

def General.resource (general : General) : ResourceKey → Int
  | .gold => general.gold
  | .rice => general.rice

def Nation.resource (nation : Nation) : ResourceKey → Int
  | .gold => nation.gold
  | .rice => nation.rice

/-- Values for some fields of a general. -/
structure GeneralPatch where
  gold : Option Int := none
  rice : Option Int := none
  experience : Option ℚ := none
  dedication : Option ℚ := none
  leadershipExp : Option ℚ := none

/-- Values for some fields of a nation. -/
structure NationPatch where
  gold : Option Int := none
  rice : Option Int := none
  surlimit : Option Int := none
  recvAssist : Option (OrderedMap Int Int) := none

def applyGeneralPatch (base : General) (patch : GeneralPatch) : General :=
  { base with
    gold := patch.gold.getD base.gold
    rice := patch.rice.getD base.rice
    experience := patch.experience.getD base.experience
    dedication := patch.dedication.getD base.dedication
    leadershipExp := patch.leadershipExp.getD base.leadershipExp }

def applyNationPatch (base : Nation) (patch : NationPatch) : Nation :=
  { base with
    gold := patch.gold.getD base.gold
    rice := patch.rice.getD base.rice
    surlimit := patch.surlimit.getD base.surlimit
    recvAssist := patch.recvAssist.getD base.recvAssist }

/-- A value for one resource, and for nothing else unless it is given. -/
def GeneralPatch.ofResource (key : ResourceKey) (value : Int) (experience dedication leadershipExp : Option ℚ) :
    GeneralPatch :=
  match key with
  | .gold => { gold := some value, experience, dedication, leadershipExp }
  | .rice => { rice := some value, experience, dedication, leadershipExp }

/-- A value for one resource of a nation. -/
def NationPatch.ofResource (key : ResourceKey) (value : Int) : NationPatch :=
  match key with
  | .gold => { gold := some value }
  | .rice => { rice := some value }

/-- What the commands read from the scenario, and what the triggers of a general make of what a donation earns. -/
structure TransferEnv where
  generalMinimumGold : Option Int
  generalMinimumRice : Option Int
  baseGold : Int
  baseRice : Int
  maxResourceActionAmount : Int
  donationExperience : General → ℚ
  donationDedication : General → ℚ

namespace TransferEnv

variable (env : TransferEnv)

/-- What a general keeps. -/
def generalMinimum : ResourceKey → Int
  | .gold => env.generalMinimumGold.getD 0
  | .rice => env.generalMinimumRice.getD 500

/-- What a nation keeps. -/
def base : ResourceKey → Int
  | .gold => env.baseGold
  | .rice => env.baseRice

end TransferEnv

/-- Between two bounds; the upper one prevails. -/
def clamp (value lower upper : Int) : Int := min (max value lower) upper

def normalizeResourceActionAmount (amount : ℚ) (configuredMaxAmount : Int) : Int :=
  let maxAmount := if 0 < configuredMaxAmount then configuredMaxAmount else 10000
  max 100 (min (round (amount / 100) * 100) maxAmount)

/-- The amount of an award. -/
def normalizeAmount (env : TransferEnv) (amount : ℚ) : Int :=
  let maxAmount :=
    if 0 < env.maxResourceActionAmount then env.maxResourceActionAmount else max (max env.baseGold env.baseRice) 1000
  clamp (round (amount / 100) * 100) 100 maxAmount

/-- A command as it is reserved. -/
inductive RawCommand where
  | gift (isGold : Bool) (amount : ℚ) (destGeneralId : Int)
  | donate (isGold : Bool) (amount : ℚ)
  | materialAid (destNationId goldAmount riceAmount : Int)
  | award (isGold : Bool) (amount : ℚ) (destGeneralId : Int)
  | seizure (isGold : Bool) (amount : ℚ) (destGeneralId : Int)

/-- A command with its amounts in order. -/
inductive Command where
  | gift (isGold : Bool) (amount : Int) (destGeneralId : Int)
  | donate (isGold : Bool) (amount : Int)
  | materialAid (destNationId goldAmount riceAmount : Int)
  | award (isGold : Bool) (amount : Int) (destGeneralId : Int)
  | seizure (isGold : Bool) (amount : Int) (destGeneralId : Int)

/-- The general that a command names. -/
def Command.destGeneralId : Command → Option Int
  | .gift _ _ destGeneralId | .award _ _ destGeneralId | .seizure _ _ destGeneralId => some destGeneralId
  | .donate _ _ | .materialAid _ _ _ => none

/-- The nation that a command names. -/
def Command.destNationId : Command → Option Int
  | .materialAid destNationId _ _ => some destNationId
  | .gift _ _ _ | .donate _ _ | .award _ _ _ | .seizure _ _ _ => none

def parseArgs (env : TransferEnv) : RawCommand → Option Command
  | .gift isGold amount destGeneralId =>
    if 0 < destGeneralId then
      some (.gift isGold (normalizeResourceActionAmount amount env.maxResourceActionAmount) destGeneralId)
    else none
  | .donate isGold amount =>
    some (.donate isGold (normalizeResourceActionAmount amount env.maxResourceActionAmount))
  | .materialAid destNationId goldAmount riceAmount =>
    if 0 < destNationId ∧ 0 ≤ goldAmount ∧ 0 ≤ riceAmount ∧ (0 < goldAmount ∨ 0 < riceAmount) then
      some (.materialAid destNationId goldAmount riceAmount)
    else none
  | .award isGold amount destGeneralId =>
    let amount := normalizeAmount env amount
    if amount ≤ 0 then none else some (.award isGold amount destGeneralId)
  | .seizure isGold amount destGeneralId =>
    some (.seizure isGold (normalizeResourceActionAmount amount env.maxResourceActionAmount) destGeneralId)

/-- What a command is run with. -/
structure ActionContext where
  generalId : Int
  general : General
  nation : Option (Int × Nation)
  destGeneral : Option General
  destNation : Option Nation

/-- The constraints of a command on generals and nations. -/
def buildConstraints (env : TransferEnv) (ctx : ActionContext) : Command → Bool
  | .gift isGold _ destGeneralId =>
    ctx.generalId ≠ destGeneralId ∧ ctx.general.nationId ≠ 0 ∧
      (∃ dest ∈ ctx.destGeneral, dest.nationId = ctx.general.nationId) ∧
      env.generalMinimum (resKeyOf isGold) ≤ ctx.general.resource (resKeyOf isGold)
  | .donate isGold _ =>
    ctx.general.nationId ≠ 0 ∧ env.generalMinimum (resKeyOf isGold) ≤ ctx.general.resource (resKeyOf isGold)
  | .materialAid destNationId goldAmount riceAmount =>
    4 < ctx.general.officerLevel ∧
      ∃ own ∈ ctx.nation, ∃ dest ∈ ctx.destNation, destNationId ≠ own.1 ∧
        goldAmount ≤ own.2.level * 10000 ∧ riceAmount ≤ own.2.level * 10000 ∧
        env.baseGold + (if 0 < goldAmount then 1 else 0) ≤ own.2.gold ∧
        env.baseRice + (if 0 < riceAmount then 1 else 0) ≤ own.2.rice ∧ own.2.surlimit = 0 ∧ dest.surlimit = 0
  | .award isGold _ destGeneralId =>
    destGeneralId ≠ ctx.generalId ∧ ctx.general.nationId ≠ 0 ∧ 4 < ctx.general.officerLevel ∧
      (∃ dest ∈ ctx.destGeneral, dest.nationId = ctx.general.nationId) ∧
      ∃ own ∈ ctx.nation, 1 + env.base (resKeyOf isGold) ≤ own.2.resource (resKeyOf isGold)
  | .seizure _ _ destGeneralId =>
    ctx.general.nationId ≠ 0 ∧ 4 < ctx.general.officerLevel ∧
      (∃ dest ∈ ctx.destGeneral, dest.nationId = ctx.general.nationId) ∧ ctx.generalId ≠ destGeneralId

/-- What a command asks to be changed. -/
inductive GeneralActionEffect where
  | generalPatch (patch : GeneralPatch) (targetId : Int)
  | nationPatch (patch : NationPatch) (targetId : Int)

/-- A command run: the acting general after direct changes, and the effects. -/
def resolve (env : TransferEnv) (ctx : ActionContext) (command : Command) :
    Except String (General × List GeneralActionEffect) :=
  let general := ctx.general
  match command with
  | .gift isGold amount destGeneralId =>
    match ctx.destGeneral with
    | none => .error "증여 대상 장수가 없습니다."
    | some dest =>
      let key := resKeyOf isGold
      let available := max 0 (general.resource key - env.generalMinimum key)
      let amount := max 0 (min amount available)
      .ok (general,
        [.generalPatch (.ofResource key (general.resource key - amount) (some (general.experience + 70))
          (some (general.dedication + 100)) (some (general.leadershipExp + 1))) ctx.generalId,
         .generalPatch (.ofResource key (dest.resource key + amount) none none none) destGeneralId])
  | .donate isGold amount =>
    match ctx.nation with
    | none => .error "Donate requires a nation context."
    | some (nationId, nation) =>
      let key := resKeyOf isGold
      let realAmount := max 0 (min amount (general.resource key))
      .ok (general,
        [.generalPatch (.ofResource key (general.resource key - realAmount)
          (some (general.experience + env.donationExperience general))
          (some (general.dedication + env.donationDedication general))
          (some (general.leadershipExp + 1))) ctx.generalId,
         .nationPatch (.ofResource key (nation.resource key + realAmount)) nationId])
  | .materialAid destNationId goldAmount riceAmount =>
    match ctx.nation, ctx.destNation with
    | some (nationId, nation), some dest =>
      let actualGold := clamp goldAmount 0 (max 0 (nation.gold - env.baseGold))
      let actualRice := clamp riceAmount 0 (max 0 (nation.rice - env.baseRice))
      let received := (dest.recvAssist.get? nationId).getD 0 + actualGold + actualRice
      .ok ({ general with experience := general.experience + 5, dedication := general.dedication + 5 },
        [.nationPatch { gold := some (nation.gold - actualGold), rice := some (nation.rice - actualRice)
                        surlimit := some (nation.surlimit + 12) } nationId,
         .nationPatch { gold := some (dest.gold + actualGold), rice := some (dest.rice + actualRice)
                        recvAssist := some (dest.recvAssist.set nationId received) } destNationId])
    | _, _ => .ok (general, [])
  | .award isGold amount destGeneralId =>
    match ctx.nation, ctx.destGeneral with
    | some (nationId, nation), some dest =>
      let key := resKeyOf isGold
      let amount := clamp (normalizeAmount env amount) 0 (max (nation.resource key - env.base key) 0)
      if amount ≤ 0 then .ok (general, [])
      else
        .ok (general,
          [.generalPatch (.ofResource key (dest.resource key + amount) none none none) destGeneralId,
           .nationPatch (.ofResource key (nation.resource key - amount)) nationId])
    | _, _ => .ok (general, [])
  | .seizure isGold amount destGeneralId =>
    match ctx.nation, ctx.destGeneral with
    | some (nationId, nation), some dest =>
      let key := resKeyOf isGold
      let actualAmount := clamp amount 0 (dest.resource key)
      .ok (general,
        [.generalPatch (.ofResource key (dest.resource key - actualAmount) none none none) destGeneralId,
         .nationPatch (.ofResource key (nation.resource key + actualAmount)) nationId])
    | _, _ => .ok (general, [])

/-- What a command has led to: the acting general and its nation, and patches for the others. -/
structure GeneralActionResolution where
  general : General
  nation : Option (Int × Nation)
  generalPatches : List (Int × GeneralPatch)
  nationPatches : List (Int × NationPatch)

/-- One effect: the acting general and its nation are changed at once, the others are patched later. -/
def applyEffect (ctx : ActionContext) (draft : GeneralActionResolution) : GeneralActionEffect → GeneralActionResolution
  | .generalPatch patch targetId =>
    if targetId ≠ ctx.generalId then { draft with generalPatches := draft.generalPatches ++ [(targetId, patch)] }
    else { draft with general := applyGeneralPatch draft.general patch }
  | .nationPatch patch targetId =>
    match draft.nation with
    | none => { draft with nationPatches := draft.nationPatches ++ [(targetId, patch)] }
    | some (nationId, nation) =>
      if targetId ≠ nationId then { draft with nationPatches := draft.nationPatches ++ [(targetId, patch)] }
      else { draft with nation := some (nationId, applyNationPatch nation patch) }

def resolveGeneralAction (env : TransferEnv) (ctx : ActionContext) (command : Command) :
    Except String GeneralActionResolution := do
  let (general, effects) ← resolve env ctx command
  .ok (effects.foldl (applyEffect ctx) ⟨general, ctx.nation, [], []⟩)

/-- All generals and nations. -/
structure World where
  generals : OrderedMap Int General
  nations : OrderedMap Int Nation

/-- A turn under way: what it holds itself, and the changes to the world that are shown before they are stored. -/
structure Turn where
  generalId : Int
  general : General
  nation : Option (Int × Nation)
  generals : Overlay Int General GeneralPatch
  nations : Overlay Int Nation NationPatch

/-- A general's turn begins. -/
def startTurn (world : World) (generalId : Int) : Option Turn :=
  (world.generals.get? generalId).map fun general =>
    let nation :=
      if 0 < general.nationId then (world.nations.get? general.nationId).map fun nation => (general.nationId, nation)
      else none
    { generalId, general, nation
      generals := ⟨world.generals, some (generalId, general), .empty, []⟩
      nations := ⟨world.nations, nation, .empty, []⟩ }

namespace Turn

variable (turn : Turn)

/-- What a command is run with; the others are read as earlier commands of the turn have left them. -/
def actionContext (command : Command) : ActionContext :=
  { generalId := turn.generalId, general := turn.general, nation := turn.nation
    destGeneral := command.destGeneralId.bind turn.generals.view
    destNation := command.destNationId.bind turn.nations.view }

/-- Takes over what a command has led to: first what the turn holds itself, then the patches. -/
def accept (resolution : GeneralActionResolution) : Turn :=
  { turn with
    general := resolution.general
    nation := resolution.nation
    generals := resolution.generalPatches.foldl (fun overlay entry => overlay.patch applyGeneralPatch entry.1 entry.2)
      (turn.generals.hold turn.generalId resolution.general)
    nations := resolution.nationPatches.foldl (fun overlay entry => overlay.patch applyNationPatch entry.1 entry.2)
      (match resolution.nation with
      | none => turn.nations
      | some (nationId, nation) => turn.nations.hold nationId nation) }

/-- Runs a command if nothing is against it; `fits` are the constraints on cities, supply and the calendar. -/
def runCommand (env : TransferEnv) (fits : Bool) (command : Command) : Except String Turn :=
  let ctx := turn.actionContext command
  if fits ∧ buildConstraints env ctx command then (resolveGeneralAction env ctx command).map turn.accept
  else .ok turn

/-- Runs the commands of a turn; one that makes no sense is left out. -/
def runCommands (env : TransferEnv) : List (Bool × RawCommand) → Turn → Except String Turn
  | [], turn => .ok turn
  | (fits, raw) :: rest, turn =>
    match parseArgs env raw with
    | none => runCommands env rest turn
    | some command => do runCommands env rest (← turn.runCommand env fits command)

/-- Stores what a turn has led to. -/
def finish : World := ⟨turn.generals.settle applyGeneralPatch, turn.nations.settle applyNationPatch⟩

end Turn

/-- A whole turn; one that fails leaves the world as it was. -/
def playTurn (env : TransferEnv) (world : World) (generalId : Int) (commands : List (Bool × RawCommand)) : World :=
  match startTurn world generalId with
  | none => world
  | some turn =>
    match turn.runCommands env commands with
    | .ok ended => ended.finish
    | .error _ => world

/-- Any turns of any generals. -/
def playTurns (env : TransferEnv) (world : World) (turns : List (Int × List (Bool × RawCommand))) : World :=
  turns.foldl (fun world turn => playTurn env world turn.1 turn.2) world

end Sammo.Transfers
