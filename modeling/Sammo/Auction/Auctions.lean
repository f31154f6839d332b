import Sammo.Items.Inventory
import Sammo.Lib.Effect
import Sammo.Time.GameClock

/-! The auctions: their rows, their bids, how long their terms are, and how an auction is opened. -/

namespace Sammo.Auction

open Sammo.Items (ItemSlot itemSlots)

/-! ### Doubles -/

/-- The whole number next to a fraction, the even one of two that are equally near. -/
def roundHalfEven (value : ℚ) : ℤ :=
  let low := value.floor
  if value - low < 1 / 2 then low
  else if 1 / 2 < value - low then low + 1
  else if low % 2 = 0 then low
  else low + 1

/-- The double next to a fraction that is nought or at least one. -/
def nearestDouble (value : ℚ) : ℚ :=
  let unit : ℚ := 2 ^ Nat.log2 value.floor.toNat / 2 ^ 52
  roundHalfEven (value / unit) * unit

/-- A whole number times 1.1, which is no double. -/
def elevenTenths (value : Int) : ℚ := nearestDouble (value * (2476979795053773 / 2251799813685248))

/-- A whole number times 1.01, which is no double either. -/
def onePercentMore (value : Int) : ℚ := nearestDouble (value * (4548635623644201 / 4503599627370496))

-- A finishing price of exactly 110% is refused at 100, where the product is a little more than 110.
example : (110 : ℚ) < elevenTenths 100 ∧ elevenTenths 10 = 11 := by decide +kernel

/-! ### The rows -/

/-- What is auctioned. -/
inductive AuctionType where
  | buyRice
  | sellRice
  | uniqueItem
  deriving DecidableEq

/-- How far an auction has come. -/
inductive AuctionStatus where
  | opened
  | finalizing
  | finished
  | canceled
  deriving DecidableEq

/-- A bid; whether the bidder asks for an extension, and how much of the points is tracked, stand in its metadata. -/
structure AuctionBid where
  id : Nat
  generalId : Int
  amount : Int
  tryExtendCloseDate : Bool
  inheritSpentTrackedAmount : Int
  deriving DecidableEq

/-- The details of an auction. -/
structure AuctionDetail where
  amount : Int
  isReverse : Bool := false
  startBidAmount : Option Int
  finishBidAmount : Option Int
  availableLatestBidCloseDate : Option Int := none
  remainCloseDateExtensionCnt : Option Int := none
  deriving DecidableEq

/-- An auction with its bids in the order of their ids. -/
structure AuctionRow where
  type : AuctionType
  targetCode : Option String
  hostGeneralId : Int
  hostName : String
  detail : AuctionDetail
  status : AuctionStatus
  closeAt : Int
  closeTick : Option Int
  latestEventId : String
  bids : List AuctionBid
  deriving DecidableEq

/-- An auction that has not come to its end. -/
def AuctionRow.Live (auction : AuctionRow) : Prop := auction.status = .opened ∨ auction.status = .finalizing

instance (auction : AuctionRow) : Decidable auction.Live := inferInstanceAs (Decidable (_ ∨ _))

/-- The auctions by their ids. -/
abbrev AuctionTable := OrderedMap Nat AuctionRow

/-- The best bid, the earliest of several. -/
def highestBid (isReverse : Bool) (bids : List AuctionBid) : Option AuctionBid :=
  bids.foldl (fun best bid =>
    match best with
    | none => some bid
    | some held =>
      if (if isReverse then bid.amount < held.amount else held.amount < bid.amount) then some bid else best)
    none

/-! ### What the commands read -/

/-- An item as its module describes it. -/
structure ItemModule where
  slot : ItemSlot
  buyable : Bool

/-- A general, as far as auctions are concerned. -/
structure General where
  id : Int
  name : String
  gold : Int
  rice : Int
  items : ItemSlot → Option String
  userId : Option String

/-- What the commands read besides the auctions and the clock. -/
structure AuctionWorld where
  generals : List General
  isItemKey : String → Bool
  loadItem : String → Option ItemModule
  inheritancePoints : String → Int
  configuredAmount : ItemSlot → String → Int
  configuredSlots : Int
  maxUniqueItemLimit : List (Int × Int)
  currentYear : Int
  startYear : Option Int
  relativeMonth : Int
  generalMinimumGold : Int
  generalMinimumRice : Int
  inheritItemUniqueMinPoint : Int
  aliasOf : Int → String
  storedTickSeconds : Option Nat
  writesFail : Bool

/-- The general with an id. -/
def AuctionWorld.getGeneralById (world : AuctionWorld) (id : Int) : Option General :=
  world.generals.find? fun general => general.id = id

/-- The item that cannot be bought among those a general holds in a slot. -/
def AuctionWorld.heldUnique (world : AuctionWorld) (general : General) (slot : ItemSlot) : Option String :=
  (general.items slot).bind fun key =>
    if key ≠ "" ∧ key ≠ "None" ∧ world.isItemKey key then
      (world.loadItem key).bind fun item => if item.buyable then none else some key
    else none

/-- The item that an auction is about, with its key. -/
def AuctionWorld.auctionedItem (world : AuctionWorld) (auction : AuctionRow) : Option (String × ItemModule) :=
  (auction.targetCode.filter fun key => key ≠ "" ∧ world.isItemKey key).bind fun key =>
    (world.loadItem key).map fun item => (key, item)

theorem auctionedItem_eq {world : AuctionWorld} {auction : AuctionRow} {itemKey : String} {item : ItemModule}
    (named : auction.targetCode.filter (· ≠ "") = some itemKey) (known : world.isItemKey itemKey)
    (loaded : world.loadItem itemKey = some item) : world.auctionedItem auction = some (itemKey, item) := by
  obtain ⟨code, nonempty⟩ := Option.filter_eq_some_iff.mp named
  have kept : auction.targetCode.filter (fun key => key ≠ "" ∧ world.isItemKey key) = some itemKey :=
    Option.filter_eq_some_iff.mpr ⟨code, by simpa [known] using nonempty⟩
  rw [AuctionWorld.auctionedItem, kept, Option.bind_some, loaded, Option.map_some]

/-- How many generals hold an item. -/
def AuctionWorld.occupiedAmount (world : AuctionWorld) (slot : ItemSlot) (itemKey : String) : Int :=
  (world.generals.filter fun general => general.items slot = some itemKey).length

/-! ### Terms -/

/-- A number of minutes in milliseconds. -/
def minutes (count : Int) : Int := count * 60000

/-- The length of a turn in whole minutes. -/
def toTurnMinutes (tickSeconds : Nat) : Int := max 1 (((tickSeconds + 30) / 60 : Nat) : Int)

/-- A bid keeps an auction open for a sixth of a turn, and for a minute at least. -/
def bidExtension (turnMinutes : Int) : Int := max (minutes 1) (turnMinutes * 10000)

/-- The command is refused for a reason unless a condition holds. -/
def require (condition : Prop) [Decidable condition] (reason : String) : Except String Unit :=
  if condition then .ok () else .error reason

/-- A check that is made only under a condition. -/
def checkWhen (condition : Prop) [Decidable condition] (check : Except String Unit) : Except String Unit :=
  if condition then check else .ok ()

/-- A value that is missing refuses the command. -/
def requireSome {α : Type} (value : Option α) (reason : String) : Except String α :=
  match value with
  | some value => .ok value
  | none => .error reason

theorem require_ok {condition : Prop} [Decidable condition] {reason : String} {nothing : Unit}
    (passed : require condition reason = .ok nothing) : condition := by
  unfold require at passed
  split at passed
  · assumption
  · cases passed

theorem requireSome_ok {α : Type} {value : Option α} {reason : String} {found : α}
    (passed : requireSome value reason = .ok found) : value = some found := by
  cases value with
  | none => cases passed
  | some value => exact congrArg some (Except.ok.inj passed)

/-- The tick at which the daemon processes a command. -/
def requireProcessingTick (name : String) (tick : Option Int) : Except String Int := do
  let tick ← requireSome tick s!"{name} requires an authoritative daemon processing game tick."
  require (isSafeInteger tick) s!"{name} requires an authoritative daemon processing game tick."
  return tick

theorem requireProcessingTick_ok {name : String} {tick : Option Int} {found : Int}
    (passed : requireProcessingTick name tick = .ok found) : tick = some found := by
  simp only [requireProcessingTick] at passed
  obtain ⟨inner, known, passed⟩ := Effect.bind_ok passed
  obtain ⟨_, _, passed⟩ := Effect.bind_ok passed
  exact Except.ok.inj passed ▸ requireSome_ok known

/-! ### Opening -/

/-- A command that opens an auction. -/
structure AuctionOpenCommand where
  generalId : Int
  auctionType : AuctionType
  amount : Int
  closeTurnCnt : Option Int := none
  startBidAmount : Option Int := none
  finishBidAmount : Option Int := none
  itemKey : Option String := none
  processingGameTick : Option Int
  requestedAtWall : Option Int
  eventId : String

/-- A general has an auction of a kind that has not come to its end. -/
def hostsAuction (auctions : AuctionTable) (generalId : Int) (kind : AuctionType → Bool) : Bool :=
  auctions.entries.any fun entry => entry.2.hostGeneralId = generalId ∧ entry.2.Live ∧ kind entry.2.type

/-- Gold or rice is auctioned for the other. -/
def openResourceAuction (world : AuctionWorld) (clock : GameClock) (auctions : AuctionTable)
    (command : AuctionOpenCommand) : Except String AuctionRow := do
  let general ← requireSome (world.getGeneralById command.generalId) "장수 정보를 찾을 수 없습니다."
  let closeTurnCnt := command.closeTurnCnt.getD 0
  let startBidAmount := command.startBidAmount.getD 0
  let finishBidAmount := command.finishBidAmount.getD 0
  require (¬ (closeTurnCnt < 1 ∨ 24 < closeTurnCnt)) "종료기한은 1 ~ 24 턴 이어야 합니다."
  require (¬ (command.amount < 100 ∨ 10000 < command.amount)) "거래량은 100 ~ 10000 이어야 합니다."
  require (¬ (startBidAmount * 2 < command.amount ∨ command.amount * 2 < startBidAmount))
    "시작거래가는 50% ~ 200% 이어야 합니다."
  require (¬ ((finishBidAmount : ℚ) < elevenTenths command.amount ∨ command.amount * 2 < finishBidAmount))
    "즉시거래가는 110% ~ 200% 이어야 합니다."
  require (¬ (finishBidAmount : ℚ) < elevenTenths startBidAmount)
    "즉시거래가는 시작판매가의 110% 이상이어야 합니다."
  require (¬ hostsAuction auctions command.generalId (· ≠ .uniqueItem)) "아직 경매가 끝나지 않았습니다."
  let ofRice : Bool := command.auctionType = .buyRice
  let minimumResource := if ofRice then world.generalMinimumRice else world.generalMinimumGold
  let resourceName := if ofRice then "쌀" else "금"
  require (¬ (if ofRice then general.rice else general.gold) < command.amount + minimumResource)
    s!"기본 {resourceName} {minimumResource}은 거래할 수 없습니다."
  let processingGameTick ← requireProcessingTick "auctionOpen" command.processingGameTick
  let now ← clock.tickToDate processingGameTick
  let closeAt := now + minutes (closeTurnCnt * toTurnMinutes clock.turnSeconds)
  let closeTick ← clock.dateToTick closeAt
  .ok
    { type := command.auctionType
      targetCode := some (toString command.amount)
      hostGeneralId := command.generalId
      hostName := general.name
      detail :=
        { amount := command.amount, startBidAmount := some startBidAmount, finishBidAmount := some finishBidAmount }
      status := .opened
      closeAt
      closeTick := some closeTick
      latestEventId := ""
      bids := [] }

/-- An item that cannot be bought is looked for, and the first bid made. -/
def openUniqueAuction (world : AuctionWorld) (clock : GameClock) (auctions : AuctionTable) (bidId : Nat)
    (command : AuctionOpenCommand) : Except String AuctionRow := do
  let general ← requireSome (world.getGeneralById command.generalId) "장수 정보를 찾을 수 없습니다."
  let itemKey ← requireSome (command.itemKey.filter fun key => key ≠ "" ∧ world.isItemKey key)
    "아이템이 올바르지 않습니다."
  require (¬ command.amount < world.inheritItemUniqueMinPoint)
    s!"최소 경매 금액은 {world.inheritItemUniqueMinPoint}입니다."
  let item ← requireSome (world.loadItem itemKey) "아이템 정보를 불러올 수 없습니다."
  require (¬ item.buyable) "구매할 수 있는 아이템입니다."
  require (world.heldUnique general item.slot = none) "이미 가진 아이템이 있습니다."
  require (¬ auctions.entries.any fun entry =>
    entry.2.type = .uniqueItem ∧ entry.2.targetCode = some itemKey ∧ entry.2.Live) "이미 경매가 진행중입니다."
  require (¬ hostsAuction auctions command.generalId (· = .uniqueItem)) "아직 경매가 끝나지 않았습니다."
  require (¬ world.configuredAmount item.slot itemKey ≤ world.occupiedAmount item.slot itemKey)
    "그 유니크를 더 얻을 수 없습니다."
  let userId ← requireSome (general.userId.filter (· ≠ "")) "장수 소유자 정보를 찾을 수 없습니다."
  require (¬ world.inheritancePoints userId < command.amount) "경매를 시작할 포인트가 부족합니다."
  let processingGameTick ← requireProcessingTick "auctionOpen" command.processingGameTick
  require command.requestedAtWall.isSome "auctionOpen requires its durable input-event wall occurrence."
  let turnMinutes := toTurnMinutes clock.turnSeconds
  let now ← clock.tickToDate processingGameTick
  let closeAt := now + max (minutes 30) (minutes (turnMinutes * 24))
  let availableLatestBidCloseDate := closeAt + max (minutes 5) (turnMinutes * 30000)
  let closeTick ← clock.dateToTick closeAt
  .ok
    { type := .uniqueItem
      targetCode := some itemKey
      hostGeneralId := command.generalId
      hostName := world.aliasOf command.generalId
      detail :=
        { amount := 1, startBidAmount := some command.amount, finishBidAmount := none
          remainCloseDateExtensionCnt := some 1
          availableLatestBidCloseDate := some availableLatestBidCloseDate }
      status := .opened
      closeAt
      closeTick := some closeTick
      latestEventId := command.eventId
      bids := [⟨bidId, command.generalId, command.amount, false, command.amount⟩] }

/-- Opens an auction of either kind. -/
def openAuction (world : AuctionWorld) (clock : GameClock) (auctions : AuctionTable) (bidId : Nat)
    (command : AuctionOpenCommand) : Except String AuctionRow := do
  require (¬ world.relativeMonth < 3) "시작 후 3개월이 지나야 경매를 열 수 있습니다."
  if command.auctionType = .uniqueItem then openUniqueAuction world clock auctions bidId command
  else openResourceAuction world clock auctions command

/-- What the registrar of a month plans to auction for the merchant. -/
structure NeutralAuction where
  ofRice : Bool
  amount : Int
  startBidAmount : Int
  finishBidAmount : Int
  closeAt : Int

/-- The merchant's auction, as the flush of the month writes it. -/
def registerNeutralAuction (clock : GameClock) (plan : NeutralAuction) : Except String AuctionRow := do
  let closeTick ← clock.dateToTick plan.closeAt
  .ok
    { type := if plan.ofRice then .buyRice else .sellRice
      targetCode := some (toString plan.amount)
      hostGeneralId := 0
      hostName := "상인"
      detail :=
        { amount := plan.amount, startBidAmount := some plan.startBidAmount
          finishBidAmount := some plan.finishBidAmount }
      status := .opened
      closeAt := plan.closeAt
      closeTick := some closeTick
      latestEventId := ""
      bids := [] }

end Sammo.Auction
