import Sammo.Auction.Bidder
import Sammo.Auction.Finalizer
import Sammo.Lib.StateMachine
import Sammo.World.TermReprojection

/-! Everything that happens to auctions: commands, the merchant, the end of the season, and the moves of the clock. -/

namespace Sammo.Auction

/-- The auctions, with the id of the next one, and the clock that gives dates to ticks. -/
structure AuctionState where
  clock : GameClock
  auctions : AuctionTable
  nextAuctionId : Nat

/-- A move of the clock, as far as auctions are concerned. -/
inductive ClockMove where
  /-- The participants are shifted when the clock is reconciled after a suspension. -/
  | applyParticipantShift (shiftTicks projectionDeltaMilliseconds : Int)
  /-- An operator shifts the schedule, which leaves the ticks as they are. -/
  | shiftSchedule (deltaMinutes : Int)
  /-- The flush writes the turns that were skipped of a backlog. -/
  | realtimeBacklogShift (deltaTicks deltaSeconds : Int)
  /-- The dates are projected from the ticks after a change of the turn term. -/
  | reprojectTerm

/-- A close is moved. -/
def AuctionRow.shiftClose (auction : AuctionRow) (ticks milliseconds : Int) : AuctionRow :=
  { auction with closeTick := auction.closeTick.map (· + ticks), closeAt := auction.closeAt + milliseconds }

/-- What a move of the clock, after which the clock is another one, makes of an auction. -/
def ClockMove.apply (next : GameClock) (auction : AuctionRow) : ClockMove → AuctionRow
  | .applyParticipantShift shiftTicks projectionDeltaMilliseconds =>
    if auction.Live ∧ auction.closeTick.isSome then auction.shiftClose shiftTicks projectionDeltaMilliseconds
    else auction
  | .shiftSchedule deltaMinutes =>
    if auction.status = .opened then auction.shiftClose 0 (minutes deltaMinutes) else auction
  | .realtimeBacklogShift deltaTicks deltaSeconds =>
    if auction.status = .opened then auction.shiftClose deltaTicks (deltaSeconds * 1000) else auction
  | .reprojectTerm =>
    { auction with closeAt :=
        TermReprojection.reprojectDate next.baseTime next.ticksPerSecond auction.closeTick auction.closeAt }

/-- An event that concerns the auctions. -/
inductive AuctionEvent where
  | opens (world : AuctionWorld) (bidId : Nat) (command : AuctionOpenCommand)
  | registers (plan : NeutralAuction)
  | bids (world : AuctionWorld) (command : AuctionBidCommand)
  | finalizes (world : AuctionWorld) (command : AuctionFinalizeCommand)
  /-- The unification of the land cancels the auctions of items. -/
  | cancelsUnique
  /-- The clock moves, and is another one afterwards. -/
  | moves (move : ClockMove) (next : GameClock)

/-- A new auction gets the next id. -/
def AuctionState.add (state : AuctionState) (auction : AuctionRow) : AuctionState :=
  { state with
    auctions := state.auctions.set state.nextAuctionId auction
    nextAuctionId := state.nextAuctionId + 1 }

/-- An auction is written. -/
def AuctionState.write (state : AuctionState) (auctionId : Nat) (auction : AuctionRow) : AuctionState :=
  { state with auctions := state.auctions.set auctionId auction }

/-- Every auction is written. -/
def AuctionState.update (state : AuctionState) (change : AuctionRow → AuctionRow) : AuctionState :=
  { state with auctions := state.auctions.mapValues fun _ auction => change auction }

/-- The cancellation of an auction of an item. -/
def cancelUnique (auction : AuctionRow) : AuctionRow :=
  if auction.type = .uniqueItem ∧ auction.Live then { auction with status := .canceled } else auction

/-- What an event makes of the auctions, or the reason for which it makes nothing of them. -/
def AuctionState.apply (state : AuctionState) : AuctionEvent → Except String AuctionState
  | .opens world bidId command => (openAuction world state.clock state.auctions bidId command).map state.add
  | .registers plan => (registerNeutralAuction state.clock plan).map state.add
  | .bids world command => (bid world state.clock state.auctions command).map (state.write command.auctionId)
  | .finalizes world command =>
    (finalize world state.clock state.auctions command).map fun settled =>
      settled.1.elim state (state.write command.auctionId)
  | .cancelsUnique => .ok (state.update cancelUnique)
  | .moves move next => .ok { state.update (move.apply next) with clock := next }

/-- The auctions: an event that is refused leaves them as they are. -/
def auctionMachine : StateMachine AuctionState AuctionEvent (Option String) where
  step state event :=
    match state.apply event with
    | .ok next => some (next, none)
    | .error reason => some (state, some reason)

end Sammo.Auction
