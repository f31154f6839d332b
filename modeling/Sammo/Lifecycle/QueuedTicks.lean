import Mathlib.Algebra.Ring.Int.Defs
import Mathlib.Data.List.Sort
import Sammo.Lifecycle.CommandQueue

/-! The tick of a queued event is carried over the suspensions since its acceptance, all of them or none. -/

namespace Sammo

/-! ### The ledgers -/

/-- The columns of a suspension's ledger that the claim reads. -/
structure SuspensionColumns extends AppliedSuspension where
  status : String
  deriving DecidableEq

/-- The applied suspensions that a claim reads, whatever order the ledgers are in. -/
def readAppliedSuspensions (ledgers : List SuspensionColumns) (currentRevision : Int) : List AppliedSuspension :=
  if currentRevision = 0 then []
  else
    ((ledgers.filter fun ledger => ledger.status = "APPLIED" ∧ ledger.targetRevision ≤ currentRevision).insertionSort
      fun left right => left.sourceRevision ≤ right.sourceRevision).map (·.toAppliedSuspension)

/-- A ledger that is applied and leads from a revision to the next, with its shift. -/
structure SuspensionColumns.Applies (ledger : SuspensionColumns) (revision shift : Int) : Prop where
  status : ledger.status = "APPLIED"
  source : ledger.sourceRevision = revision
  target : ledger.targetRevision = revision + 1
  shifted : ledger.shiftTicks = some shift

/-- Applied ledgers that lead on from one revision to another without a gap, with the sum of their shifts. -/
inductive AppliedChain (ledgers : List SuspensionColumns) : Int → Int → List SuspensionColumns → Int → Prop
  | nil (revision : Int) : AppliedChain ledgers revision revision [] 0
  | cons {revision current shift total : Int} {ledger : SuspensionColumns} {chain : List SuspensionColumns}
      (member : ledger ∈ ledgers) (first : ledger.Applies revision shift)
      (rest : AppliedChain ledgers (revision + 1) current chain total) :
      AppliedChain ledgers revision current (ledger :: chain) (shift + total)

section

variable {ledgers : List SuspensionColumns} {context : ClaimContext} {revision current total : Int}
  {chain : List SuspensionColumns}

theorem mem_readAppliedSuspensions {entry : AppliedSuspension}
    (read : entry ∈ readAppliedSuspensions ledgers current) :
    ∃ ledger ∈ ledgers, ledger.status = "APPLIED" ∧ ledger.toAppliedSuspension = entry := by
  unfold readAppliedSuspensions at read
  split at read
  · cases read
  · obtain ⟨ledger, sorted, rfl⟩ := List.mem_map.mp read
    obtain ⟨member, applied⟩ := List.mem_filter.mp ((List.mem_insertionSort _).mp sorted)
    exact ⟨ledger, member, (of_decide_eq_true applied).1, rfl⟩

theorem AppliedChain.source_le (linked : AppliedChain ledgers revision current chain total) :
    ∀ ledger ∈ chain, revision ≤ ledger.sourceRevision := by
  induction linked with
  | nil => simp
  | cons _ first _ ih =>
    refine List.forall_mem_cons.mpr ⟨first.source.ge, fun ledger member => ?_⟩
    have := ih ledger member
    omega

theorem AppliedChain.sources_nodup (linked : AppliedChain ledgers revision current chain total) :
    (chain.map (·.sourceRevision)).Nodup := by
  induction linked with
  | nil => exact List.nodup_nil
  | cons _ first rest ih =>
    refine List.nodup_cons.mpr ⟨fun again => ?_, ih⟩
    -- Later ledgers lead from later revisions.
    obtain ⟨ledger, member, same⟩ := List.mem_map.mp again
    have later := rest.source_le ledger member
    beta_reduce at same
    have := first.source
    omega

theorem walkSuspensions_chain (read : context.appliedSuspensions = readAppliedSuspensions ledgers current)
    {count : Nat} {tick result : Int} (walked : context.walkSuspensions count revision tick = some result) :
    ∃ chain total, AppliedChain ledgers revision (revision + count) chain total ∧ result = tick + total := by
  induction count generalizing revision tick with
  | zero =>
    rw [ClaimContext.walkSuspensions] at walked
    refine ⟨[], 0, ?_, by simpa using (Option.some.inj walked).symm⟩
    simpa using AppliedChain.nil revision
  | succ count ih =>
    rw [ClaimContext.walkSuspensions] at walked
    split at walked
    · cases walked
    · next entry found =>
      split at walked
      · cases walked
      · next shift shifted =>
        split at walked
        · next target =>
          obtain ⟨chain, total, rest, rfl⟩ := ih walked
          have source : entry.sourceRevision = revision := by simpa using List.find?_some found
          obtain ⟨ledger, member, applied, rfl⟩ :=
            mem_readAppliedSuspensions (read ▸ List.mem_of_find?_eq_some found)
          refine ⟨ledger :: chain, shift + total, ?_, add_assoc tick shift total⟩
          rw [Nat.cast_succ, add_comm (count : Int) 1, ← add_assoc]
          exact .cons member ⟨applied, source, target, shifted⟩ rest
        · cases walked

theorem walkSuspensions_of_chain (linked : AppliedChain ledgers revision current chain total) (positive : current ≠ 0)
    (read : context.appliedSuspensions = readAppliedSuspensions ledgers current)
    (single : ∀ first ∈ ledgers, ∀ second ∈ ledgers, first.sourceRevision = second.sourceRevision → first = second)
    (tick : Int) :
    revision + chain.length = current ∧ context.walkSuspensions chain.length revision tick = some (tick + total) := by
  induction linked generalizing tick with
  | nil revision => simp [ClaimContext.walkSuspensions]
  | @cons revision current shift total ledger chain member first rest ih =>
    obtain ⟨ends, walked⟩ := ih positive read (tick + shift)
    have inside : ledger.toAppliedSuspension ∈ context.appliedSuspensions := by
      rw [read, readAppliedSuspensions, if_neg positive]
      refine List.mem_map_of_mem ((List.mem_insertionSort _).mpr (List.mem_filter.mpr ⟨member, ?_⟩))
      have := first.target
      exact decide_eq_true ⟨first.status, by omega⟩
    -- The one that is found leads from the same revision, so it is this one.
    obtain ⟨entry, found⟩ : ∃ entry, context.appliedSuspensions.find?
        (fun entry => entry.sourceRevision = revision) = some entry :=
      Option.isSome_iff_exists.mp (List.find?_isSome.mpr ⟨_, inside, by simpa using first.source⟩)
    have source : entry.sourceRevision = revision := by simpa using List.find?_some found
    obtain ⟨other, listed, _, rfl⟩ := mem_readAppliedSuspensions (read ▸ List.mem_of_find?_eq_some found)
    obtain rfl := single other listed ledger member (source.trans first.source.symm)
    refine ⟨by rw [List.length_cons]; omega, ?_⟩
    rw [List.length_cons, ClaimContext.walkSuspensions, found]
    simp only [first.shifted, first.target, if_true]
    rw [walked, add_assoc]

end

/-! ### The claim -/

/-- What claiming does to one row, given the suspensions it reads. -/
def Converted (normalize : InputEvent → Bool) (workerId : String) (context : ClaimContext) (old new : InputEvent) :
    Prop :=
  new = old ∨ ∃ tick, context.convertTick old = some tick ∧ new = old.claim normalize workerId context tick

theorem claimRows_converted (normalize : InputEvent → Bool) (workerId : String) (context : ClaimContext)
    (limit : Nat) (rows : List InputEvent) : List.Forall₂ (Converted normalize workerId context) rows
      (CommandQueue.claimRows normalize workerId context limit rows) := by
  induction rows generalizing limit with
  | nil => cases limit <;> exact .nil
  | cons row rest ih =>
    cases limit with
    | zero => exact List.forall₂_same.mpr fun _ _ => .inl rfl
    | succ limit =>
      rw [CommandQueue.claimRows]
      split
      · refine .cons ?_ (ih limit)
        cases converted : context.convertTick row with
        | none => exact .inl rfl
        | some tick => exact .inr ⟨tick, converted, rfl⟩
      · exact .cons (.inl rfl) (ih (limit + 1))

theorem claim_processing (normalize : InputEvent → Bool) (row : InputEvent) (workerId : String)
    (context : ClaimContext) (tick : Int) :
    (row.claim normalize workerId context tick).processingGameTick = some tick ∧
      (row.claim normalize workerId context tick).processingClockRevision = some context.clockRevision := by
  unfold InputEvent.claim
  split_ifs <;> exact ⟨rfl, rfl⟩

/-- What is read when claiming, with the suspensions taken from the ledgers. -/
def ClaimContext.reading (context : ClaimContext) (ledgers : List SuspensionColumns) : ClaimContext :=
  { context with appliedSuspensions := readAppliedSuspensions ledgers context.clockRevision }

/-- The row was accepted at a tick in a revision, and it is not a question for the status. -/
structure AcceptedAt (row : InputEvent) (tick revision : Int) : Prop where
  command : row.eventType ≠ "getStatus"
  tick : row.acceptedGameTick = some tick
  revision : row.acceptedClockRevision = some revision

/-- The row is to be processed at its own tick plus the shifts of a chain of ledgers up to the current revision. -/
def CarriedOver (ledgers : List SuspensionColumns) (current tick revision : Int) (new : InputEvent) : Prop :=
  ∃ chain total, AppliedChain ledgers revision current chain total ∧ (chain.map (·.sourceRevision)).Nodup ∧
    new.processingGameTick = some (tick + total) ∧ new.processingClockRevision = some current

theorem convertTick_chain {ledgers : List SuspensionColumns} {context : ClaimContext} {row : InputEvent}
    {tick revision converted : Int} (accepted : AcceptedAt row tick revision)
    (success : (context.reading ledgers).convertTick row = some converted) :
    ∃ chain total, AppliedChain ledgers revision context.clockRevision chain total ∧ converted = tick + total := by
  rw [ClaimContext.convertTick, if_neg accepted.command, accepted.tick, accepted.revision] at success
  dsimp only at success
  split at success
  · cases success
  · next reached =>
    obtain ⟨chain, total, linked, same⟩ := walkSuspensions_chain rfl success
    change ¬ context.clockRevision < revision at reached
    refine ⟨chain, total, ?_, same⟩
    have ends : revision + (context.clockRevision - revision).toNat = context.clockRevision := by omega
    exact ends ▸ linked

/--
Claiming converts the tick of an accepted command over all applied suspensions since, or leaves the row.

It is converted whenever the suspensions form a chain and no revision has two of them; a question for the
status is processed at the tick of its acceptance.
-/
theorem claimPending_converts (normalize : InputEvent → Bool) (workerId : String) (context : ClaimContext)
    (ledgers : List SuspensionColumns) (limit : Nat) (rows : List InputEvent) :
    List.Forall₂ (fun old new =>
        (∀ tick revision, AcceptedAt old tick revision →
          new = old ∨ CarriedOver ledgers context.clockRevision tick revision new) ∧
        ∀ tick, old.eventType = "getStatus" → old.acceptedGameTick = some tick →
          new = old ∨ new.processingGameTick = some tick)
      rows (CommandQueue.claimRows normalize workerId (context.reading ledgers) limit rows) ∧
    ((∀ first ∈ ledgers, ∀ second ∈ ledgers, first.sourceRevision = second.sourceRevision → first = second) →
      0 < context.clockRevision → ∀ row tick revision chain total, AcceptedAt row tick revision →
        AppliedChain ledgers revision context.clockRevision chain total →
          (context.reading ledgers).convertTick row = some (tick + total)) := by
  refine ⟨(claimRows_converted normalize workerId _ limit rows).imp fun old new moved => ?_, ?_⟩
  · rcases moved with rfl | ⟨converted, success, rfl⟩
    · exact ⟨fun _ _ _ => .inl rfl, fun _ _ _ => .inl rfl⟩
    · obtain ⟨processed, current⟩ := claim_processing normalize old workerId (context.reading ledgers) converted
      refine ⟨fun tick revision accepted => .inr ?_, fun tick question accepted => .inr ?_⟩
      · obtain ⟨chain, total, linked, rfl⟩ := convertTick_chain accepted success
        exact ⟨chain, total, linked, linked.sources_nodup, processed, current⟩
      · rw [ClaimContext.convertTick, if_pos question, accepted] at success
        exact processed.trans success.symm
  · intro single positive row tick revision chain total accepted linked
    have reads : (context.reading ledgers).appliedSuspensions = readAppliedSuspensions ledgers context.clockRevision :=
      rfl
    obtain ⟨ends, walked⟩ := walkSuspensions_of_chain linked positive.ne' reads single tick
    rw [ClaimContext.convertTick, if_neg accepted.command, accepted.tick, accepted.revision]
    have steps : ((context.reading ledgers).clockRevision - revision).toNat = chain.length := by
      change (context.clockRevision - revision).toNat = _
      omega
    have reached : ¬ (context.reading ledgers).clockRevision < revision := by
      change ¬ context.clockRevision < revision
      omega
    simp only [if_neg reached, steps, walked]

/-- A question for the status is not carried over a suspension that was applied since it came in. -/
theorem claimPending_status_unshifted :
    ¬ ∀ (normalize : InputEvent → Bool) (workerId : String) (context : ClaimContext)
      (ledgers : List SuspensionColumns) (limit : Nat) (rows : List InputEvent),
      List.Forall₂ (fun old new => ∀ tick revision, old.acceptedGameTick = some tick →
          old.acceptedClockRevision = some revision →
            new = old ∨ CarriedOver ledgers context.clockRevision tick revision new)
        rows (CommandQueue.claimRows normalize workerId (context.reading ledgers) limit rows) := by
  intro carried
  let row : InputEvent :=
    { sequence := 1, requestId := "status", target := .engine, eventType := "getStatus", payload := []
      acceptedGameTick := some 10, acceptedClockRevision := some 1, acceptedDeadlineGeneration := some 1
      processingGameTick := none, processingClockRevision := none, processingDeadlineGeneration := none
      status := .pending, result := none, error := none, attempts := 0, lockedBy := none, leaseUntil := none
      createdAt := 0, processingAt := none, completedAt := none }
  let context : ClaimContext := ⟨0, .running, 2, 1, 20, false, false, false, [], [], [], []⟩
  let ledger : SuspensionColumns := ⟨⟨1, 2, some 5⟩, "APPLIED"⟩
  have rows := carried (fun _ => true) "worker" context [ledger] 1 [row]
  obtain ⟨moved, -⟩ := List.forall₂_cons.mp rows
  rcases moved 10 1 rfl rfl with same | ⟨chain, total, linked, -, processed, -⟩
  · exact absurd (congrArg InputEvent.status same) (by decide)
  · -- The only chain adds the shift, which is not in the tick of the row.
    have ten : total = 0 := by simpa [row, context] using (Option.some.inj processed).symm
    cases linked with
    | cons member first rest =>
      obtain rfl := List.mem_singleton.mp member
      have shift := Option.some.inj first.shifted
      cases rest with
      | nil => omega
      | cons again later rest =>
        obtain rfl := List.mem_singleton.mp again
        exact absurd later.source (by decide)

end Sammo
