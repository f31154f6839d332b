import Sammo.Clock.ProjectionExactlyOnce
import Sammo.Clock.ProjectionOutbox
import Sammo.Clock.ProjectionOutboxLaws
import Sammo.Data.Json
import Sammo.Lib.Effect
import Sammo.Lib.OrderedMap
import Sammo.Lib.StateMachine
import Sammo.Lib.WriteBehind
import Sammo.Lifecycle.CommandQueue
import Sammo.Lifecycle.CommandQueueLaws
import Sammo.Lifecycle.CommandQueueSafety
import Sammo.Lifecycle.QueuedTicks
import Sammo.Lifecycle.Lease
import Sammo.Lifecycle.LeaseFencing
import Sammo.Lifecycle.LeaseLaws
import Sammo.Time.GameClock
import Sammo.Time.TurnRecovery
import Sammo.Turns.ReservedTurnLaws
import Sammo.Turns.ReservedTurnSafety
import Sammo.Turns.ReservedTurnStore
import Sammo.Turns.ReservedTurns
import Sammo.World.ClockOperations
import Sammo.World.Diplomacy
import Sammo.World.DirtyState
import Sammo.World.Entities
import Sammo.World.FlushRefinement
import Sammo.World.GeneralTurn
import Sammo.World.InMemoryWorld
import Sammo.World.OfficeRequest
import Sammo.World.Operations
import Sammo.World.Rollback
import Sammo.Time.GameClockLaws
import Sammo.Turns.TurnProcessor
import Sammo.Lib.BlockStream
import Sammo.Util.LiteHashDRBG
import Sammo.Util.LiteHashDRBGLaws
import Sammo.Data.JsonPatch
import Sammo.Realtime.Delta
import Sammo.Data.JsonPatchLaws
import Sammo.Realtime.DeltaLaws
import Sammo.Time.ClockAlignment
import Sammo.Time.TurnRecoveryLaws
import Sammo.World.ScheduleOperations
import Sammo.Turns.MonthBoundaries
import Sammo.Turns.ScheduleEdits
import Sammo.World.ReferenceIntegrity
import Sammo.Selection.NpcPossessionSafety
import Sammo.Selection.SelectPoolSafety
import Sammo.Clock.DeadlineCoherence
import Sammo.War.Casualties
import Sammo.War.DamageClipping
import Sammo.War.SiegeOrder
import Sammo.Realtime.ChangeJournalLaws
import Sammo.Realtime.Convergence
import Sammo.Realtime.OutboxDelivery
import Sammo.Access.DeferredAccessLaws
import Sammo.Gateway.OpenRequestPolicyChange
import Sammo.Gateway.Admission
import Sammo.Gateway.FencingSafety
import Sammo.Tournament.Payouts
import Sammo.War.CityConflictLaws
import Sammo.Turns.EventConditionLaws
import Sammo.Turns.IncomeLaws
import Sammo.Tournament.RoundLaws
import Sammo.Tournament.Standings
import Sammo.Lib.Flood
import Sammo.World.CitySupply
import Sammo.World.CitySupplyLaws
import Sammo.Items.Inventory
import Sammo.Items.InventoryLaws
import Sammo.Personnel.OfficeRequests
import Sammo.Personnel.OfficeRequestLaws
import Sammo.Lib.Breadth
import Sammo.World.CityDistance
import Sammo.World.TermReprojection
import Sammo.World.TreatyTerms
import Sammo.Turns.TreatyCalendar
import Sammo.War.ConquestLaws
import Sammo.Scenario.EventTrait
import Sammo.Scenario.InitialStats
import Sammo.Gateway.AttemptLimits
import Sammo.Inheritance.ChargingRuns
import Sammo.Messages.ResponseRuns
import Sammo.Lib.Seams
import Sammo.Time.RecoveryPlans
import Sammo.Time.RecoveryDeadlines
import Sammo.Time.DateRoundTrip
import Sammo.Time.AlignmentLaws
import Sammo.Betting.NationBetting
import Sammo.Betting.NationBettingLaws
import Sammo.World.DiplomacySymmetry
import Sammo.World.TurnIds
import Sammo.World.IdFreshness
import Sammo.Auction.CloseTimes
import Sammo.Clock.LedgerReplay
import Sammo.Clock.ShiftAgreement
import Sammo.Clock.ShiftOnce
import Sammo.Turns.ReservedTurnEdits
import Sammo.Triggers.TriggerOrder
import Sammo.Util.BoundedDrawLaws
import Sammo.Util.RandUtilLaws
import Sammo.Rewards.SeedSerialization
import Sammo.Api.InputEventSafety
import Sammo.Tournament.Course
import Sammo.Api.DiplomacyLetterLaws
import Sammo.Lifecycle.TurnDaemonLaws
import Sammo.Gateway.GameSessionLaws
import Sammo.Turns.ResourceTransferLaws
