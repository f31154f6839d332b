import Sammo.Auction.Auctions

/-! The end of an auction, or the extension that it gets instead. -/

namespace Sammo.Auction

open Sammo.Items (ItemSlot itemSlots)

/-- A command that brings an auction to its end. -/
structure AuctionFinalizeCommand where
  auctionId : Nat
  expectedCloseTick : Int
  processingGameTick : Option Int

/-- What the command is answered. -/
inductive FinalizeReply where
  | finalized
  | refused (reason : String)
  deriving DecidableEq

/-- The amount of a resource that is auctioned, which the target repeats. -/
def resolveAuctionResourceAmount (detailAmount : Int) (targetCode : Option String) : Option Int :=
  if 0 < detailAmount then some detailAmount
  else (targetCode.bind String.toInt?).filter (0 < ·)

/-- Every copy of an item is held. -/
def isUniqueAuctionSupplyExhausted (configuredAmount occupiedAmount : Int) : Bool :=
  configuredAmount ≤ occupiedAmount

/-- An auction whose item is held everywhere closes again a turn later. -/
def resolveUniqueSupplyRetryCloseAt (now turnMinutes : Int) : Int := now + minutes (max 1 turnMinutes)

/-- The command is about the close that the auction still has. -/
def isAuctionFinalizeGenerationCurrent (auction : AuctionRow) (expectedCloseTick : Int) : Bool :=
  auction.closeTick = some expectedCloseTick

/-- The close of the auction has come. -/
def hasAuctionFinalizeDeadlineArrived (auction : AuctionRow) (nowTick : Int) : Bool :=
  auction.closeTick.any fun closeTick => closeTick ≤ nowTick

/-- The leading bidder asks for an extension, and one is left. -/
def asksExtension (auction : AuctionRow) (bid : AuctionBid) : Bool :=
  bid.tryExtendCloseDate ∧ 0 < auction.detail.remainCloseDateExtensionCnt.getD 0

/-- The stored length of a turn in whole minutes, a minute where none is stored. -/
def resolveTurnMinutes (world : AuctionWorld) : Int := toTurnMinutes (world.storedTickSeconds.getD 60)

/-- How many items that cannot be bought a general may hold. -/
def uniqueLimit (world : AuctionWorld) : Int :=
  let relativeYear := world.currentYear - world.startYear.getD world.currentYear
  let reached := world.maxUniqueItemLimit.takeWhile fun limit => limit.1 ≤ relativeYear
  min ((reached.getLast?.map Prod.snd).getD 1) world.configuredSlots

/-- How many items that cannot be bought a general holds. -/
def equippedUniqueCount (world : AuctionWorld) (general : General) : Int :=
  (itemSlots.filter fun slot => (world.heldUnique general slot).isSome).length

/-- The auction is reopened with a later close, and with a latest date that lies behind the close. -/
def extendClose (clock : GameClock) (auction : AuctionRow) (turnMinutes length : Int) : Except String AuctionRow := do
  let nextCloseAt := auction.closeAt + length
  let nextLatestBidCloseAt := nextCloseAt + bidExtension turnMinutes
  let closeTick ← clock.dateToTick nextCloseAt
  return { auction with
    status := .opened
    closeAt := nextCloseAt
    closeTick := some closeTick
    detail := { auction.detail with availableLatestBidCloseDate := some nextLatestBidCloseAt } }

/-- A bidder who does not host the auction leaves it to the merchant. -/
def leaveToMerchant (auction : AuctionRow) (bidder : General) : AuctionRow :=
  if bidder.id = auction.hostGeneralId then auction else { auction with hostGeneralId := 0, hostName := "(상인)" }

/-- A bid is paid back and the auction cancelled, unless somebody to pay is missing. -/
def cancelWithEscrowRefund (world : AuctionWorld) (auction : AuctionRow) (bid : AuctionBid) : AuctionRow :=
  match world.getGeneralById bid.generalId with
  | none => auction
  | some bidder =>
    if auction.type = .uniqueItem ∧ bidder.userId.filter (· ≠ "") = none then auction
    else { auction with status := .canceled }

/-- The end of an auction without a bid. -/
def finalizeUnsold (world : AuctionWorld) (auction : AuctionRow) : AuctionRow × FinalizeReply :=
  if auction.type = .uniqueItem then (auction, .refused "유니크 경매 입찰 정보가 없어 자동 환불할 수 없습니다.")
  else if resolveAuctionResourceAmount auction.detail.amount auction.targetCode = none then
    (auction, .refused "경매 거래량 정보가 없습니다.")
  else if 0 < auction.hostGeneralId ∧ world.getGeneralById auction.hostGeneralId = none then
    (auction, .refused "경매 주최자를 찾을 수 없습니다.")
  else ({ auction with status := .finished }, .finalized)

/-- The end of an auction of gold or rice. -/
def finalizeResource (world : AuctionWorld) (auction : AuctionRow) (bid : AuctionBid) : AuctionRow × FinalizeReply :=
  if resolveAuctionResourceAmount auction.detail.amount auction.targetCode = none then
    (auction, .refused "경매 거래량 정보가 없습니다.")
  else if 0 < auction.hostGeneralId ∧ world.getGeneralById auction.hostGeneralId = none then
    (cancelWithEscrowRefund world auction bid, .refused "경매 주최자를 찾을 수 없습니다.")
  else ({ auction with status := .finished }, .finalized)

/-- The end of an auction of an item, or the extension it gets while its bidder cannot have the item. -/
def finalizeUnique (world : AuctionWorld) (clock : GameClock) (now : Int) (auction : AuctionRow) (bid : AuctionBid)
    (bidder : General) : Except String (AuctionRow × FinalizeReply) := do
  match auction.targetCode.filter (· ≠ "") with
  | none => return (cancelWithEscrowRefund world auction bid, .refused "유니크 아이템 정보가 없습니다.")
  | some itemKey =>
    if ¬ world.isItemKey itemKey then
      return (cancelWithEscrowRefund world auction bid, .refused "아이템 키가 올바르지 않습니다.")
    else
      match world.loadItem itemKey with
      | none => return (cancelWithEscrowRefund world auction bid, .refused "아이템 정보를 불러올 수 없습니다.")
      | some item =>
        let turnMinutes := resolveTurnMinutes world
        if isUniqueAuctionSupplyExhausted (world.configuredAmount item.slot itemKey)
            (world.occupiedAmount item.slot itemKey) then
          -- Only the close is written here, and the latest date stays as it was.
          let nextCloseAt := resolveUniqueSupplyRetryCloseAt now turnMinutes
          let closeTick ← clock.dateToTick nextCloseAt
          return ({ auction with status := .opened, closeAt := nextCloseAt, closeTick := some closeTick },
            .refused "그 유니크는 모두 점유되었습니다.")
        else if uniqueLimit world ≤ equippedUniqueCount world bidder then
          let extended ← extendClose clock auction turnMinutes (max (minutes 5) (minutes (turnMinutes * 24)))
          return (leaveToMerchant extended bidder, .refused "유니크 아이템 소유 제한 상태입니다. 종료 시간이 연장됩니다.")
        else if (world.heldUnique bidder item.slot).isSome then
          let extended ← extendClose clock auction turnMinutes (max (minutes 5) (turnMinutes * 30000))
          return (leaveToMerchant extended bidder, .refused "유니크 보유 제한으로 연장")
        else return ({ auction with status := .finished }, .finalized)

/-- What becomes of an auction that is being finalized. -/
def settleAuction (world : AuctionWorld) (clock : GameClock) (now : Int) (auction : AuctionRow) :
    Except String (AuctionRow × FinalizeReply) :=
  match highestBid auction.detail.isReverse auction.bids with
  | none => .ok (finalizeUnsold world auction)
  | some bid =>
    if auction.type = .uniqueItem ∧ asksExtension auction bid then do
      let turnMinutes := resolveTurnMinutes world
      let extended ← extendClose clock auction turnMinutes (minutes (max 5 turnMinutes))
      let remainExtension := auction.detail.remainCloseDateExtensionCnt.getD 0
      return ({ extended with
          detail := { extended.detail with remainCloseDateExtensionCnt := some (remainExtension - 1) } },
        .refused "입찰자의 요청으로 경매 종료가 연장되었습니다.")
    else
      match world.getGeneralById bid.generalId with
      | none => .ok (auction, .refused "입찰자를 찾을 수 없습니다.")
      | some bidder =>
        if auction.type = .uniqueItem then finalizeUnique world clock now auction bid bidder
        else .ok (finalizeResource world auction bid)

/-- Finalizes an auction; what moves between the generals is left out. -/
def finalize (world : AuctionWorld) (clock : GameClock) (auctions : AuctionTable) (command : AuctionFinalizeCommand) :
    Except String (Option AuctionRow × FinalizeReply) := do
  match auctions.get? command.auctionId with
  | none => return (none, .refused "경매 정보를 찾을 수 없습니다.")
  | some auction =>
    if ¬ auction.Live then return (none, .finalized)
    else
      let nowTick ← requireProcessingTick "auctionFinalize" command.processingGameTick
      let now ← clock.tickToDate nowTick
      if auction.status = .opened ∧ ¬ isAuctionFinalizeGenerationCurrent auction command.expectedCloseTick then
        return (none, .refused "경매 마감 세대가 변경되었습니다.")
      else if auction.status = .opened ∧ ¬ hasAuctionFinalizeDeadlineArrived auction nowTick then
        return (none, .refused "경매 마감 시각이 아직 지나지 않았습니다.")
      else
        let (settled, reply) ← settleAuction world clock now { auction with status := .finalizing }
        return (some settled, reply)

end Sammo.Auction
