import Sammo.Auction.Auctions

/-! A bid: what refuses it, and when the auction closes after it. -/

namespace Sammo.Auction

/-- A bid on an auction. -/
structure AuctionBidCommand where
  auctionId : Nat
  generalId : Int
  amount : Int
  tryExtendCloseDate : Option Bool := none
  processingGameTick : Option Int
  requestedAtWall : Option Int
  bidId : Nat
  eventId : String

/-- What a general must keep beside a bid. -/
def minAuctionRemainingResource : Int := 1000

/-- A general can pay what is added to a bid. -/
def HasEnoughResourceForAuctionBid (current additionalBid : Int) : Prop :=
  0 < additionalBid ∧ additionalBid + minAuctionRemainingResource ≤ current

instance (current additionalBid : Int) : Decidable (HasEnoughResourceForAuctionBid current additionalBid) :=
  inferInstanceAs (Decidable (_ ∧ _))

/-- An auction without a closing tick takes no bids, and no other does after its own. -/
def HasAuctionClosePassed (auction : AuctionRow) (nowTick : Int) : Prop :=
  ∀ closeTick ∈ auction.closeTick, closeTick < nowTick

instance (auction : AuctionRow) (nowTick : Int) : Decidable (HasAuctionClosePassed auction nowTick) := by
  unfold HasAuctionClosePassed
  cases auction.closeTick with
  | none => exact isTrue fun _ absent => absurd absent (by simp)
  | some closeTick => exact decidable_of_iff (closeTick < nowTick) (by simp)

/-- When an auction closes after a bid: a bid near the end keeps it open, up to the latest date if there is one. -/
def extendCloseDate (now closeAt turnMinutes : Int) (availableLatestBidCloseDate : Option Int) : Int :=
  let extended := now + bidExtension turnMinutes
  if extended ≤ closeAt then closeAt
  else
    match availableLatestBidCloseDate with
    | none => extended
    | some latest => if latest < extended then latest else extended

/-- When an auction closes after a bid, which at the finishing price of a resource is a turn later. -/
def nextCloseAt (auction : AuctionRow) (bidAt turnMinutes amount : Int) : Int :=
  if auction.type ≠ .uniqueItem ∧ auction.detail.finishBidAmount = some amount then bidAt + minutes turnMinutes
  else extendCloseDate bidAt auction.closeAt turnMinutes auction.detail.availableLatestBidCloseDate

/-- A bidder's own bid counts only while it is the best. -/
def shouldUsePrevBid (highest myPrevBid : Option AuctionBid) : Option AuctionBid :=
  match highest with
  | none => myPrevBid
  | some highest => myPrevBid.filter fun own => highest.id = own.id

/-- An amount must beat the best bid, and stay within the prices the auction was opened with. -/
def checkAmount (auction : AuctionRow) (highest : Option AuctionBid) (amount : Int) : Except String Unit := do
  let detail := auction.detail
  match highest with
  | some highest =>
    require (¬ (detail.isReverse = false ∧ amount ≤ highest.amount)) "현재입찰가보다 높게 입찰해야 합니다."
    require (¬ (detail.isReverse = true ∧ highest.amount ≤ amount)) "현재입찰가보다 낮게 입찰해야 합니다."
  | none =>
    require (∀ start ∈ detail.startBidAmount.toList, start = 0 ∨ ¬ amount < start) "시작가보다 낮습니다."
  require (¬ (detail.isReverse = false ∧ ∃ finish ∈ detail.finishBidAmount.toList, finish < amount))
    "즉시판매가보다 높을 수 없습니다."
  require (¬ (detail.isReverse = true ∧ ∃ finish ∈ detail.finishBidAmount.toList, amount < finish))
    "즉시판매가보다 낮을 수 없습니다."
  checkWhen (auction.type = .uniqueItem)
    (highest.toList.forM fun highest => do
      require (¬ (amount : ℚ) < onePercentMore highest.amount) "현재입찰가보다 1% 높게 입찰해야 합니다."
      require (¬ amount < highest.amount + 10) "현재입찰가보다 10 포인트 높게 입찰해야 합니다.")

/-- The bidder of an item must have room for it, on the shelf and in the other auctions. -/
def checkUniqueItem (world : AuctionWorld) (auctions : AuctionTable) (auctionId : Nat) (auction : AuctionRow)
    (general : General) : Except String Unit := do
  let itemKey ← requireSome (auction.targetCode.filter fun key => key ≠ "" ∧ world.isItemKey key)
    "아이템이 올바르지 않습니다."
  let item ← requireSome (world.loadItem itemKey) "아이템 정보를 불러올 수 없습니다."
  require (¬ item.buyable) "구매할 수 있는 아이템입니다."
  match world.heldUnique general item.slot with
  | some held =>
    .error (if held = itemKey then "이미 그 유니크를 가지고 있습니다." else "이미 다른 유니크를 가지고 있습니다.")
  | none =>
    -- Another auction counts if this bidder leads it and its item goes into the same slot.
    require (¬ auctions.entries.any fun (id, other) =>
      other.type = .uniqueItem ∧ other.Live ∧ id ≠ auctionId ∧
        (highestBid false other.bids).map AuctionBid.generalId = some general.id ∧
        (world.auctionedItem other).map (ItemModule.slot ∘ Prod.snd) = some item.slot)
      "1순위 입찰자인 경매중에 같은 부위가 있습니다."

/-- The bidder must be able to pay, and the one who is outbid to be paid back. -/
def checkMeans (world : AuctionWorld) (auction : AuctionRow) (general : General)
    (highest myPrevBid : Option AuctionBid) (morePoint : Int) : Except String Unit := do
  require (¬ (auction.type ≠ .uniqueItem ∧ auction.hostGeneralId = general.id)) "자신이 연 경매에 입찰할 수 없습니다."
  require (¬ (auction.type = .buyRice ∧ ¬ HasEnoughResourceForAuctionBid general.gold morePoint)) "금이 부족합니다."
  require (¬ (auction.type = .sellRice ∧ ¬ HasEnoughResourceForAuctionBid general.rice morePoint)) "쌀이 부족합니다."
  checkWhen (auction.type ≠ .uniqueItem)
    (highest.toList.forM fun highest =>
      require (¬ (highest.generalId ≠ general.id ∧ myPrevBid = none ∧ world.getGeneralById highest.generalId = none))
        "환불 대상을 찾을 수 없습니다.")

/-- What the database asks of the points of a bid on an item. -/
def checkPoints (world : AuctionWorld) (general : General) (highest myPrevBid : Option AuctionBid) (morePoint : Int) :
    Except String Unit := do
  let userId ← requireSome (general.userId.filter (· ≠ "")) "장수 정보를 찾을 수 없습니다."
  require (morePoint ≤ world.inheritancePoints userId) "유산포인트가 부족합니다."
  highest.toList.forM fun highest =>
    require (¬ (highest.generalId ≠ general.id ∧ myPrevBid = none ∧
      ((world.getGeneralById highest.generalId).bind General.userId).filter (· ≠ "") = none))
      "장수 정보를 찾을 수 없습니다."

/-- The bid and the date and tick at which the auction now closes are written together. -/
def persistBid (world : AuctionWorld) (clock : GameClock) (auction : AuctionRow) (closeAt : Int) (bid : AuctionBid)
    (eventId : String) : Except String AuctionRow :=
  match clock.dateToTick closeAt with
  | .error _ => .error "경매가 취소되었습니다."
  | .ok closeTick =>
    if world.writesFail then .error "경매가 취소되었습니다."
    else .ok
      { auction with closeAt, closeTick := some closeTick, latestEventId := eventId, bids := auction.bids ++ [bid] }

/-- Bids on an auction; what moves between the generals is left out. -/
def bid (world : AuctionWorld) (clock : GameClock) (auctions : AuctionTable) (command : AuctionBidCommand) :
    Except String AuctionRow := do
  let auction ← requireSome (auctions.get? command.auctionId) "경매가 없습니다."
  require (auction.status = .opened) "경매가 종료되었습니다."
  let bidTick ← requireProcessingTick "auctionBid" command.processingGameTick
  require command.requestedAtWall.isSome "auctionBid requires its durable input-event wall occurrence."
  let bidAt ← clock.tickToDate bidTick
  require (¬ HasAuctionClosePassed auction bidTick) "경매가 종료되었습니다."
  let isReverse := auction.detail.isReverse
  let highest := highestBid isReverse auction.bids
  let ownBids := auction.bids.filter fun bid => bid.generalId = command.generalId
  let myPrevBid := shouldUsePrevBid highest (highestBid isReverse ownBids)
  checkAmount auction highest command.amount
  let morePoint := command.amount - (myPrevBid.map AuctionBid.amount).getD 0
  require (0 < morePoint) "입찰가가 유효하지 않습니다."
  let general ← requireSome (world.getGeneralById command.generalId) "장수 정보를 찾을 수 없습니다."
  checkWhen (auction.type = .uniqueItem) (checkUniqueItem world auctions command.auctionId auction general)
  checkMeans world auction general highest myPrevBid morePoint
  let closeAt := nextCloseAt auction bidAt (toTurnMinutes clock.turnSeconds) command.amount
  let tracked := if auction.type = .uniqueItem then
    (myPrevBid.map AuctionBid.inheritSpentTrackedAmount).getD 0 + morePoint else 0
  let written ← persistBid world clock auction closeAt
    ⟨command.bidId, command.generalId, command.amount, command.tryExtendCloseDate.getD true, tracked⟩ command.eventId
  checkWhen (auction.type = .uniqueItem) (checkPoints world general highest myPrevBid morePoint)
  return written

end Sammo.Auction
