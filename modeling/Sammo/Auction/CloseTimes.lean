import Sammo.Auction.AuctionRuns

/-! A bid neither shortens an auction nor moves its close past the latest date, while the two have moved together. -/

namespace Sammo.Auction

open Effect

variable {world : AuctionWorld} {clock : GameClock} {auctions : AuctionTable} {auction after : AuctionRow}

/-! ### The close that a bid asks for -/

theorem bidExtension_nonneg (turnMinutes : Int) : 0 ≤ bidExtension turnMinutes :=
  le_max_of_le_left (by decide)

theorem extendCloseDate_keeps_iff (now closeAt turnMinutes : Int) (latestDate : Option Int) :
    (closeAt ≤ extendCloseDate now closeAt turnMinutes latestDate ∧
      ∀ latest ∈ latestDate, extendCloseDate now closeAt turnMinutes latestDate ≤ latest) ↔
    ∀ latest ∈ latestDate, closeAt ≤ latest := by
  constructor
  · intro ⟨later, bounded⟩ latest known
    exact le_trans later (bounded latest known)
  · intro within
    simp only [extendCloseDate]
    split_ifs with early
    -- The close is far enough away and stays.
    · exact ⟨le_refl closeAt, within⟩
    · cases latestDate with
      | none => exact ⟨(not_le.mp early).le, fun latest absent => absurd absent (by simp)⟩
      | some date =>
        have close : closeAt ≤ date := within date rfl
        dsimp only
        split_ifs with capped
        -- The latest date takes the place of the extension, and lies behind the close so far.
        · exact ⟨close, fun latest known => (Option.some.inj known).le⟩
        · exact ⟨(not_le.mp early).le, fun latest known => Option.some.inj known ▸ not_lt.mp capped⟩

variable {command : AuctionBidCommand} {turnMinutes length : Int} {now : Int} {reply : FinalizeReply}

theorem bid_written (accepted : bid world clock auctions command = .ok after) :
    ∃ auction bidAt, auctions.get? command.auctionId = some auction ∧ auction.status = .opened ∧
      after.closeAt = nextCloseAt auction bidAt (toTurnMinutes clock.turnSeconds) command.amount ∧
      after.type = auction.type ∧ after.detail = auction.detail := by
  simp only [bid] at accepted
  obtain ⟨auction, found, accepted⟩ := bind_ok accepted
  obtain ⟨_, isOpen, accepted⟩ := bind_ok accepted
  obtain ⟨_, _, accepted⟩ := bind_ok accepted
  obtain ⟨_, _, accepted⟩ := bind_ok accepted
  obtain ⟨bidAt, _, accepted⟩ := bind_ok accepted
  -- None of the six checks that follow changes the row.
  obtain ⟨_, _, accepted⟩ := bind_ok accepted
  obtain ⟨_, _, accepted⟩ := bind_ok accepted
  obtain ⟨_, _, accepted⟩ := bind_ok accepted
  obtain ⟨_, _, accepted⟩ := bind_ok accepted
  obtain ⟨_, _, accepted⟩ := bind_ok accepted
  obtain ⟨_, _, accepted⟩ := bind_ok accepted
  obtain ⟨written, persisted, accepted⟩ := bind_ok accepted
  obtain ⟨_, _, accepted⟩ := bind_ok accepted
  obtain rfl : written = after := Except.ok.inj accepted
  refine ⟨auction, bidAt, requireSome_ok found, require_ok isOpen, ?_⟩
  simp only [persistBid] at persisted
  split at persisted
  · cases persisted
  · split at persisted
    · cases persisted
    · obtain rfl := Except.ok.inj persisted
      exact ⟨rfl, rfl, rfl⟩

/-! ### The auctions that a finalization leaves open -/

theorem extendClose_ok (extended : extendClose clock auction turnMinutes length = .ok after) :
    after.type = auction.type ∧
      ∃ latest, after.detail.availableLatestBidCloseDate = some latest ∧ after.closeAt ≤ latest := by
  simp only [extendClose] at extended
  obtain ⟨_, _, extended⟩ := bind_ok extended
  obtain rfl := Except.ok.inj extended
  exact ⟨rfl, _, rfl, le_add_of_nonneg_right (bidExtension_nonneg turnMinutes)⟩

theorem leaveToMerchant_eq (auction : AuctionRow) (bidder : General) :
    (leaveToMerchant auction bidder).type = auction.type ∧
      (leaveToMerchant auction bidder).closeAt = auction.closeAt ∧
      (leaveToMerchant auction bidder).detail = auction.detail := by
  unfold leaveToMerchant
  split <;> exact ⟨rfl, rfl, rfl⟩

theorem cancelWithEscrowRefund_eq (world : AuctionWorld) (auction : AuctionRow) (bid : AuctionBid) :
    (cancelWithEscrowRefund world auction bid).type = auction.type ∧
      (cancelWithEscrowRefund world auction bid).closeAt = auction.closeAt ∧
      (cancelWithEscrowRefund world auction bid).detail = auction.detail := by
  unfold cancelWithEscrowRefund
  split
  · exact ⟨rfl, rfl, rfl⟩
  · split <;> exact ⟨rfl, rfl, rfl⟩

/-- Every copy of the item of an auction is held. -/
def SupplyExhausted (world : AuctionWorld) (auction : AuctionRow) : Prop :=
  ∃ entry ∈ world.auctionedItem auction,
    isUniqueAuctionSupplyExhausted (world.configuredAmount entry.2.slot entry.1)
      (world.occupiedAmount entry.2.slot entry.1)

/-- The leading bidder would get the item now, if there were a copy of it. -/
def AwardsItem (world : AuctionWorld) (auction : AuctionRow) : Prop :=
  auction.type = .uniqueItem ∧ ∃ bid ∈ highestBid auction.detail.isReverse auction.bids,
    ¬ asksExtension auction bid ∧ (world.getGeneralById bid.generalId).isSome

/-- The close and the details stay, or the latest date is moved with the close, or the item cannot be had for now. -/
def Settled (world : AuctionWorld) (now : Int) (auction after : AuctionRow) : Prop :=
  after.type = auction.type ∧
    (after.closeAt = auction.closeAt ∧ after.detail = auction.detail ∨
      auction.type = .uniqueItem ∧
        (∃ latest, after.detail.availableLatestBidCloseDate = some latest ∧ after.closeAt ≤ latest) ∨
      (AwardsItem world auction ∧ SupplyExhausted world auction) ∧ after.detail = auction.detail ∧
        after.closeAt = resolveUniqueSupplyRetryCloseAt now (resolveTurnMinutes world))

theorem Settled.kept (same : after.type = auction.type ∧ after.closeAt = auction.closeAt ∧
    after.detail = auction.detail) : Settled world now auction after :=
  ⟨same.1, .inl same.2⟩

theorem Settled.extended {extension : AuctionRow} {bidder : General} (unique : auction.type = .uniqueItem)
    (moved : extendClose clock auction turnMinutes length = .ok extension) :
    Settled world now auction (leaveToMerchant extension bidder) := by
  obtain ⟨type, close, detail⟩ := leaveToMerchant_eq extension bidder
  obtain ⟨same, latest, known, bounded⟩ := extendClose_ok moved
  exact ⟨type.trans same, .inr (.inl ⟨unique, latest, by rw [detail, known], close ▸ bounded⟩)⟩

theorem finalizeUnique_settles {bid : AuctionBid} {bidder : General} (awards : AwardsItem world auction)
    (done : finalizeUnique world clock now auction bid bidder = .ok (after, reply)) :
    Settled world now auction after := by
  simp only [finalizeUnique] at done
  split at done
  · obtain ⟨rfl, rfl⟩ := Prod.mk.inj (Except.ok.inj done)
    exact .kept (cancelWithEscrowRefund_eq world auction bid)
  next itemKey named =>
    split at done
    · obtain ⟨rfl, rfl⟩ := Prod.mk.inj (Except.ok.inj done)
      exact .kept (cancelWithEscrowRefund_eq world auction bid)
    next known =>
      split at done
      · obtain ⟨rfl, rfl⟩ := Prod.mk.inj (Except.ok.inj done)
        exact .kept (cancelWithEscrowRefund_eq world auction bid)
      next item loaded =>
        split at done
        · -- Every copy is held: only the close is written.
          next exhausted =>
          obtain ⟨_, _, done⟩ := bind_ok done
          obtain ⟨rfl, rfl⟩ := Prod.mk.inj (Except.ok.inj done)
          have found : world.auctionedItem auction = some (itemKey, item) :=
            auctionedItem_eq named (not_not.mp known) loaded
          exact ⟨rfl, .inr (.inr ⟨⟨awards, (itemKey, item), found, exhausted⟩, rfl, rfl⟩)⟩
        split at done
        · -- The bidder holds as many items as allowed.
          obtain ⟨extension, moved, done⟩ := bind_ok done
          obtain ⟨rfl, rfl⟩ := Prod.mk.inj (Except.ok.inj done)
          exact .extended awards.1 moved
        split at done
        · -- The bidder has an item in the same slot.
          obtain ⟨extension, moved, done⟩ := bind_ok done
          obtain ⟨rfl, rfl⟩ := Prod.mk.inj (Except.ok.inj done)
          exact .extended awards.1 moved
        · obtain ⟨rfl, rfl⟩ := Prod.mk.inj (Except.ok.inj done)
          exact .kept ⟨rfl, rfl, rfl⟩

theorem settleAuction_settles (done : settleAuction world clock now auction = .ok (after, reply)) :
    Settled world now auction after := by
  simp only [settleAuction] at done
  split at done
  · -- Nobody has bid.
    obtain rfl : (finalizeUnsold world auction).1 = after := congrArg Prod.fst (Except.ok.inj done)
    refine .kept ?_
    unfold finalizeUnsold
    split_ifs <;> exact ⟨rfl, rfl, rfl⟩
  next bid leading =>
    split at done
    · next asked =>
      -- The extension that the leading bidder asks for is counted.
      obtain ⟨extension, moved, done⟩ := bind_ok done
      obtain ⟨rfl, rfl⟩ := Prod.mk.inj (Except.ok.inj done)
      obtain ⟨same, latest, known, bounded⟩ := extendClose_ok moved
      exact ⟨same, .inr (.inl ⟨asked.1, latest, known, bounded⟩)⟩
    next notAsked =>
      split at done
      · obtain ⟨rfl, rfl⟩ := Prod.mk.inj (Except.ok.inj done)
        exact .kept ⟨rfl, rfl, rfl⟩
      next bidder found =>
        split at done
        · next unique =>
          have unasked : ¬ asksExtension auction bid := fun asks => notAsked ⟨unique, asks⟩
          exact finalizeUnique_settles ⟨unique, bid, leading, unasked, by simp [found]⟩ done
        · obtain rfl : (finalizeResource world auction bid).1 = after := congrArg Prod.fst (Except.ok.inj done)
          refine .kept ?_
          unfold finalizeResource
          split_ifs
          · exact ⟨rfl, rfl, rfl⟩
          · exact cancelWithEscrowRefund_eq world auction bid
          · exact ⟨rfl, rfl, rfl⟩

/-- A finalization gets as far as the settlement at an instant. -/
def ReachesSettlement (clock : GameClock) (auction : AuctionRow) (command : AuctionFinalizeCommand) (now : Int) :
    Prop :=
  auction.Live ∧ ∃ nowTick, command.processingGameTick = some nowTick ∧ clock.tickToDate nowTick = .ok now ∧
    (auction.status = .opened → isAuctionFinalizeGenerationCurrent auction command.expectedCloseTick ∧
      hasAuctionFinalizeDeadlineArrived auction nowTick)

theorem finalize_settles {command : AuctionFinalizeCommand}
    (done : finalize world clock auctions command = .ok (some after, reply)) :
    ∃ auction now, auctions.get? command.auctionId = some auction ∧ ReachesSettlement clock auction command now ∧
      Settled world now { auction with status := .finalizing } after := by
  -- The checks before the settlement say that the auction is due.
  simp only [finalize] at done
  split at done
  · cases done
  next auction listed =>
    split at done
    · cases done
    next live =>
      obtain ⟨nowTick, ticked, done⟩ := bind_ok done
      obtain ⟨now, shown, done⟩ := bind_ok done
      split at done
      · cases done
      next current =>
        split at done
        · cases done
        next arrived =>
          obtain ⟨⟨settled, answer⟩, settles, done⟩ := bind_ok done
          obtain ⟨same, rfl⟩ := Prod.mk.inj (Except.ok.inj done)
          obtain rfl := Option.some.inj same
          have timely : auction.status = .opened →
              isAuctionFinalizeGenerationCurrent auction command.expectedCloseTick ∧
                hasAuctionFinalizeDeadlineArrived auction nowTick := fun opened =>
            ⟨by_contra fun stale => current ⟨opened, stale⟩, by_contra fun early => arrived ⟨opened, early⟩⟩
          exact ⟨auction, now, listed, ⟨not_not.mp live, nowTick, requireProcessingTick_ok ticked, shown, timely⟩,
            settleAuction_settles settles⟩

/-! ### The latest date stays ahead of the close -/

/-- An auction closes by the latest date for its bids, and only the auctions of items have one. -/
structure WithinLatest (auction : AuctionRow) : Prop where
  close : auction.Live → ∀ latest ∈ auction.detail.availableLatestBidCloseDate, auction.closeAt ≤ latest
  onlyUnique : auction.type ≠ .uniqueItem → auction.detail.availableLatestBidCloseDate = none

theorem WithinLatest.of_none (none_ : auction.detail.availableLatestBidCloseDate = none) : WithinLatest auction where
  close := fun _ latest known => by simp [none_] at known
  onlyUnique := fun _ => none_

theorem openAuction_within {bidId : Nat} {command : AuctionOpenCommand}
    (opened : openAuction world clock auctions bidId command = .ok auction) : WithinLatest auction := by
  simp only [openAuction] at opened
  obtain ⟨_, _, opened⟩ := bind_ok opened
  split at opened
  · -- The latest date is written behind the close, and the checks before it play no part.
    simp only [openUniqueAuction] at opened
    repeat obtain ⟨_, _, opened⟩ := bind_ok opened
    obtain rfl := Except.ok.inj opened
    refine ⟨fun _ latest known => ?_, fun other => absurd rfl other⟩
    have room : 0 ≤ max (minutes 5) (toTurnMinutes clock.turnSeconds * 30000) := le_max_of_le_left (by decide)
    exact Option.some.inj known ▸ le_add_of_nonneg_right room
  · simp only [openResourceAuction] at opened
    repeat obtain ⟨_, _, opened⟩ := bind_ok opened
    obtain rfl := Except.ok.inj opened
    exact .of_none rfl

theorem registerNeutralAuction_within {plan : NeutralAuction}
    (registered : registerNeutralAuction clock plan = .ok auction) : WithinLatest auction := by
  simp only [registerNeutralAuction] at registered
  obtain ⟨_, _, registered⟩ := bind_ok registered
  obtain rfl := Except.ok.inj registered
  exact .of_none rfl

theorem bid_within (accepted : bid world clock auctions command = .ok after)
    (held : ∀ id auction, auctions.get? id = some auction → WithinLatest auction) : WithinLatest after := by
  obtain ⟨auction, bidAt, listed, opened, close, type, detail⟩ := bid_written accepted
  have before := held _ auction listed
  refine ⟨fun _ latest known => ?_, fun other => by rw [detail, before.onlyUnique (type ▸ other)]⟩
  rw [detail] at known
  rw [close, nextCloseAt]
  split
  · -- Only auctions of items have a latest date, and they have no finishing price that ends them early.
    next finishing =>
    rw [before.onlyUnique finishing.1] at known
    cases known
  · exact ((extendCloseDate_keeps_iff _ _ _ _).mpr (before.close (.inl opened))).2 latest known

theorem Settled.within (settled : Settled world now auction after) (before : WithinLatest auction)
    (live : auction.Live) (retries : AwardsItem world auction → SupplyExhausted world auction →
      ∀ latest ∈ auction.detail.availableLatestBidCloseDate,
        resolveUniqueSupplyRetryCloseAt now (resolveTurnMinutes world) ≤ latest) : WithinLatest after := by
  -- A settlement keeps the close, extends it up to the latest date, or waits for the item.
  obtain ⟨type, ⟨close, detail⟩ | ⟨unique, latest, known, bounded⟩ | ⟨⟨awards, exhausted⟩, detail, close⟩⟩ := settled
  · refine ⟨fun _ => ?_, fun other => by rw [detail, before.onlyUnique (type ▸ other)]⟩
    rw [close, detail]
    exact before.close live
  · refine ⟨fun _ date same => ?_, fun other => absurd (type.trans unique) other⟩
    obtain rfl : latest = date := Option.some.inj (known.symm.trans same)
    exact bounded
  · refine ⟨fun _ => ?_, fun other => by rw [detail, before.onlyUnique (type ▸ other)]⟩
    rw [close, detail]
    exact retries awards exhausted

theorem cancelUnique_within (before : WithinLatest auction) : WithinLatest (cancelUnique auction) := by
  unfold cancelUnique
  split
  · exact ⟨fun live => absurd live (by simp [AuctionRow.Live]), before.onlyUnique⟩
  · exact before

/-- A move of the clock leaves the close of an auction at a date or before it. -/
def ClockMove.Within (next : GameClock) (auction : AuctionRow) (latest : Int) : ClockMove → Prop
  | .applyParticipantShift _ projectionDeltaMilliseconds =>
    auction.closeTick.isSome → auction.closeAt + projectionDeltaMilliseconds ≤ latest
  | .shiftSchedule deltaMinutes => auction.status = .opened → auction.closeAt + minutes deltaMinutes ≤ latest
  | .realtimeBacklogShift _ deltaSeconds => auction.status = .opened → auction.closeAt + deltaSeconds * 1000 ≤ latest
  | .reprojectTerm =>
    ∀ closeTick ∈ auction.closeTick,
      TermReprojection.projectTick next.baseTime next.ticksPerSecond closeTick ≤ latest

theorem ClockMove.apply_eq (next : GameClock) (auction : AuctionRow) (move : ClockMove) :
    (move.apply next auction).type = auction.type ∧ (move.apply next auction).status = auction.status ∧
      (move.apply next auction).detail = auction.detail := by
  cases move <;> dsimp only [ClockMove.apply] <;> try split
  all_goals exact ⟨rfl, rfl, rfl⟩

theorem ClockMove.apply_close {next : GameClock} {move : ClockMove} {latest : Int}
    (close : auction.closeAt ≤ latest) (within : move.Within next auction latest) :
    (move.apply next auction).closeAt ≤ latest := by
  -- Each move says in which auctions it moves the close, and how far.
  cases move with
  | applyParticipantShift shiftTicks projectionDeltaMilliseconds =>
    dsimp only [ClockMove.apply]
    split
    · next moved => exact within moved.2
    · exact close
  | shiftSchedule deltaMinutes =>
    dsimp only [ClockMove.apply]
    split
    · next opened => exact within opened
    · exact close
  | realtimeBacklogShift deltaTicks deltaSeconds =>
    dsimp only [ClockMove.apply]
    split
    · next opened => exact within opened
    · exact close
  | reprojectTerm =>
    dsimp only [ClockMove.apply]
    cases ticked : auction.closeTick with
    | none => exact close
    | some closeTick => exact within closeTick ticked

theorem ClockMove.apply_within {next : GameClock} {move : ClockMove} (before : WithinLatest auction)
    (within : auction.Live → ∀ latest ∈ auction.detail.availableLatestBidCloseDate, move.Within next auction latest) :
    WithinLatest (move.apply next auction) := by
  obtain ⟨type, status, detail⟩ := ClockMove.apply_eq next auction move
  refine ⟨fun live latest known => ?_, fun other => by rw [detail, before.onlyUnique (type ▸ other)]⟩
  have alive : auction.Live := by simpa only [AuctionRow.Live, status] using live
  rw [detail] at known
  exact ClockMove.apply_close (before.close alive latest known) (within alive latest known)

/-! ### Runs -/

/-- An event that moves a close without the latest date takes it no further than that date. -/
def MovesWithinLatest (state : AuctionState) : AuctionEvent → Prop
  | .finalizes world command =>
    ∀ auction now, state.auctions.get? command.auctionId = some auction →
      ReachesSettlement state.clock auction command now → AwardsItem world auction → SupplyExhausted world auction →
      ∀ latest ∈ auction.detail.availableLatestBidCloseDate,
        resolveUniqueSupplyRetryCloseAt now (resolveTurnMinutes world) ≤ latest
  | .moves move next =>
    ∀ id auction, state.auctions.get? id = some auction → auction.Live →
      ∀ latest ∈ auction.detail.availableLatestBidCloseDate, move.Within next auction latest
  | _ => True

/-- Every auction closes by its latest date. -/
def AuctionState.Within (state : AuctionState) : Prop :=
  ∀ id auction, state.auctions.get? id = some auction → WithinLatest auction

variable {state : AuctionState}

theorem AuctionState.Within.write (held : state.Within) (auctionId : Nat) (within : WithinLatest auction) :
    (state.write auctionId auction).Within := by
  intro id found listed
  rw [AuctionState.write, OrderedMap.get?_set] at listed
  split at listed
  · exact Option.some.inj listed ▸ within
  · exact held id found listed

theorem AuctionState.Within.update {change : AuctionRow → AuctionRow}
    (changes : ∀ id auction, state.auctions.get? id = some auction → WithinLatest (change auction)) :
    (state.update change).Within := by
  intro id found listed
  rw [AuctionState.update, OrderedMap.get?_mapValues] at listed
  obtain ⟨auction, before, rfl⟩ := Option.map_eq_some_iff.mp listed
  exact changes id auction before

theorem AuctionState.Within.apply {event : AuctionEvent} {next : AuctionState} (held : state.Within)
    (moves : MovesWithinLatest state event) (applied : state.apply event = .ok next) : next.Within := by
  cases event with
  | opens world bidId command =>
    obtain ⟨auction, opened, rfl⟩ := map_ok applied
    exact held.write _ (openAuction_within opened)
  | registers plan =>
    obtain ⟨auction, registered, rfl⟩ := map_ok applied
    exact held.write _ (registerNeutralAuction_within registered)
  | bids world command =>
    obtain ⟨auction, accepted, rfl⟩ := map_ok applied
    exact held.write _ (bid_within accepted held)
  | finalizes world command =>
    obtain ⟨⟨written, reply⟩, done, rfl⟩ := map_ok applied
    cases written with
    | none => exact held
    | some after =>
      obtain ⟨auction, now, listed, reaches, settled⟩ := finalize_settles done
      -- The status that is set before the settlement changes neither the close nor the details.
      have before : WithinLatest { auction with status := .finalizing } :=
        ⟨fun _ => (held _ auction listed).close reaches.1, (held _ auction listed).onlyUnique⟩
      exact held.write _ (settled.within before (.inr rfl) (moves auction now listed reaches))
  | cancelsUnique =>
    obtain rfl := Except.ok.inj applied
    exact Within.update fun id auction listed => cancelUnique_within (held id auction listed)
  | moves move next =>
    obtain rfl := Except.ok.inj applied
    have moved : (state.update (move.apply next)).Within := Within.update fun id auction listed =>
      ClockMove.apply_within (held id auction listed) (moves id auction listed)
    exact moved

theorem closes_within {admits : AuctionState → AuctionEvent → Prop} {start final : AuctionState}
    {trace : List (AuctionEvent × Option String)} (run : auctionMachine.RunWhile admits start trace final)
    (careful : ∀ state event, admits state event → MovesWithinLatest state event) (initial : start.Within) :
    final.Within := by
  refine run.stateInvariant initial fun state event reply next held admitted stepped => ?_
  simp only [auctionMachine] at stepped
  split at stepped
  · next applied =>
    obtain ⟨rfl, -⟩ := Prod.mk.inj (Option.some.inj stepped)
    exact held.apply (careful state event admitted) applied
  · -- A refused event leaves the auctions as they are.
    obtain ⟨rfl, -⟩ := Prod.mk.inj (Option.some.inj stepped)
    exact held

/-- A season begins without auctions. -/
def beginning (clock : GameClock) : AuctionState := ⟨clock, .empty, 1⟩

/--
While no event takes a close past the latest date, a bid below the finishing price never brings the close forward.

Nor does it take the close past that date.
-/
theorem bids_never_shorten {clock : GameClock} {trace : List (AuctionEvent × Option String)} {state : AuctionState}
    {world : AuctionWorld} {command : AuctionBidCommand} {auction after : AuctionRow}
    (run : auctionMachine.RunWhile MovesWithinLatest (beginning clock) trace state)
    (listed : state.auctions.get? command.auctionId = some auction)
    (accepted : bid world state.clock state.auctions command = .ok after)
    (unfinished : auction.detail.finishBidAmount ≠ some command.amount) :
    auction.closeAt ≤ after.closeAt ∧
      ∀ latest ∈ auction.detail.availableLatestBidCloseDate, after.closeAt ≤ latest := by
  have initial : (beginning clock).Within := fun id auction found => by cases found
  have held := closes_within run (fun _ _ admitted => admitted) initial
  obtain ⟨found, bidAt, same, opened, close, -⟩ := bid_written accepted
  obtain rfl : found = auction := Option.some.inj (same.symm.trans listed)
  -- Below the finishing price the close is the extended one.
  rw [close, nextCloseAt, if_neg fun finishing => unfinished finishing.2]
  exact (extendCloseDate_keeps_iff _ _ _ _).mpr ((held _ found listed).close (.inl opened))

/-- A clock whose turns take ten minutes. -/
def tenMinuteTurns : GameClock :=
  { InMemoryTurnWorld.openingClock with turnSeconds := 600, positive := by decide, divides := by decide }

/-- The key of a sword that cannot be bought. -/
def sevenStarSword : String := "che_무기_12_칠성검"

/-- Three generals look for the sword, of which there is one copy; the last one may hold it. -/
def swordWorld (weapon : Option String) : AuctionWorld where
  generals :=
    [⟨7, "조조", 5000, 5000, fun _ => none, some "u7"⟩, ⟨8, "관우", 5000, 5000, fun _ => none, some "u8"⟩,
      ⟨9, "여포", 5000, 5000, fun slot => if slot = .weapon then weapon else none, some "u9"⟩]
  isItemKey := (· = sevenStarSword)
  loadItem := fun _ => some ⟨.weapon, false⟩
  inheritancePoints := fun _ => 20000
  configuredAmount := fun _ _ => 1
  configuredSlots := 4
  maxUniqueItemLimit := [(-1, 1), (3, 2)]
  currentYear := 185
  startYear := some 180
  relativeMonth := 60
  generalMinimumGold := 0
  generalMinimumRice := 500
  inheritItemUniqueMinPoint := 5000
  aliasOf := fun _ => "누군가"
  storedTickSeconds := some 600
  writesFail := false

/-- General 7 looks for the sword at the first tick. -/
def swordSearch : AuctionOpenCommand where
  generalId := 7
  auctionType := .uniqueItem
  amount := 5000
  itemKey := some sevenStarSword
  processingGameTick := some 0
  requestedAtWall := some 0
  eventId := "opened"

/-- A bid on the sword. -/
def swordBid (generalId amount tick : Int) : AuctionBidCommand where
  auctionId := 1
  generalId
  amount
  processingGameTick := some tick
  requestedAtWall := some 0
  bidId := amount.toNat
  eventId := "bid"

theorem supply_swordWorld (auction : AuctionRow) : ¬ SupplyExhausted (swordWorld none) auction := by
  intro ⟨entry, _, exhausted⟩
  have free : (swordWorld none).occupiedAmount entry.2.slot entry.1 = 0 := by
    simp [AuctionWorld.occupiedAmount, swordWorld]
  rw [free] at exhausted
  exact absurd (of_decide_eq_true exhausted) (by simp [swordWorld])

theorem bid_after_replay (start : AuctionState) (events : List AuctionEvent) (world : AuctionWorld)
    (command : AuctionBidCommand) (holds : AuctionRow → AuctionRow → Prop)
    [∀ before after, Decidable (holds before after)]
    (computed : (auctionMachine.replay start events).any fun result =>
      (result.1.auctions.get? command.auctionId).any fun auction =>
        (bid world result.1.clock result.1.auctions command).toOption.any fun after => holds auction after) :
    ∃ trace state auction after, auctionMachine.replay start events = some (state, trace) ∧
      state.auctions.get? command.auctionId = some auction ∧
      bid world state.clock state.auctions command = .ok after ∧ holds auction after := by
  obtain ⟨⟨state, trace⟩, replayed, computed⟩ := (Option.any_eq_true _ _).mp computed
  obtain ⟨auction, listed, computed⟩ := (Option.any_eq_true _ _).mp computed
  obtain ⟨after, given, computed⟩ := (Option.any_eq_true _ _).mp computed
  refine ⟨trace, state, auction, after, replayed, listed, ?_, of_decide_eq_true computed⟩
  cases accepted : bid world state.clock state.auctions command with
  | error reason => simp [accepted, Except.toOption] at given
  | ok written => simpa [accepted, Except.toOption] using given

/-- The search is extended as its leading bidder asks, and a bid near the new close moves that on. -/
theorem bids_never_shorten_extended : ∃ trace state auction after,
    auctionMachine.RunWhile MovesWithinLatest (beginning tenMinuteTurns) trace state ∧
      state.auctions.get? 1 = some auction ∧
      bid (swordWorld none) state.clock state.auctions (swordBid 9 7000 904800000) = .ok after ∧
      (auction.closeAt = 15095000 ∧ after.closeAt = 15180000) ∧ auction.closeAt ≤ after.closeAt ∧
      ∀ latest ∈ auction.detail.availableLatestBidCloseDate, after.closeAt ≤ latest := by
  let events : List AuctionEvent := [.opens (swordWorld none) 1 swordSearch,
    .bids (swordWorld none) (swordBid 8 6000 863700000),
    .finalizes (swordWorld none) ⟨1, 869700000, some 869700000⟩]
  obtain ⟨trace, state, auction, after, replayed, listed, accepted, unfinished, closes⟩ :=
    bid_after_replay (beginning tenMinuteTurns) events (swordWorld none) (swordBid 9 7000 904800000)
      (fun auction after => auction.detail.finishBidAmount ≠ some 7000 ∧
        auction.closeAt = 15095000 ∧ after.closeAt = 15180000) (by decide +kernel)
  have careful : ∀ event ∈ events, ∀ state, MovesWithinLatest state event := by
    intro event member state
    simp only [events, List.mem_cons, List.not_mem_nil, or_false] at member
    obtain rfl | rfl | rfl := member
    · trivial
    · trivial
    · exact fun auction now _ _ _ exhausted => absurd exhausted (supply_swordWorld auction)
  have run := StateMachine.runWhile_of_replay careful replayed
  exact ⟨trace, state, auction, after, run, listed, accepted, closes,
    bids_never_shorten run listed accepted unfinished⟩

/-- A late bid on the sword, whose search has been put off because the sword is held, brings the close forward. -/
theorem bids_shorten_retried : ∃ trace state auction after,
    auctionMachine.Run (beginning tenMinuteTurns) trace state ∧ state.auctions.get? 1 = some auction ∧
      bid (swordWorld (some sevenStarSword)) state.clock state.auctions (swordBid 8 6000 897000000) = .ok after ∧
      auction.detail.finishBidAmount ≠ some 6000 ∧ after.closeAt < auction.closeAt := by
  let events : List AuctionEvent := [.opens (swordWorld none) 1 swordSearch,
    .finalizes (swordWorld (some sevenStarSword)) ⟨1, 864000000, some 864000000⟩]
  obtain ⟨trace, state, auction, after, replayed, listed, accepted, shortened⟩ :=
    bid_after_replay (beginning tenMinuteTurns) events (swordWorld (some sevenStarSword)) (swordBid 8 6000 897000000)
      (fun auction after => auction.detail.finishBidAmount ≠ some 6000 ∧ after.closeAt < auction.closeAt)
      (by decide +kernel)
  exact ⟨trace, state, auction, after, StateMachine.run_of_replay replayed, listed, accepted, shortened⟩

end Sammo.Auction
