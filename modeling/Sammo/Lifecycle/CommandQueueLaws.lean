import Mathlib.Algebra.Ring.Nat
import Mathlib.Data.List.Forall2
import Mathlib.Data.List.Nodup
import Sammo.Lifecycle.CommandQueue

/-! Laws of the input-event queue: what one event does to a row, and what a whole run can do to it. -/

namespace Sammo

/-- How often an output claims a request. -/
def QueueOutput.claims : QueueOutput → String → Nat
  | .claimed requestIds, requestId => requestIds.count requestId
  | _, _ => 0

/-- How often an output commits a request's effects. -/
def QueueOutput.commits : QueueOutput → String → Nat
  | .committed ended, requestId => if ended = requestId then 1 else 0
  | _, _ => 0

/-- How often a trace claims a request. -/
def claimCount (trace : List (QueueEvent × QueueOutput)) (requestId : String) : Nat :=
  (trace.map fun entry => entry.2.claims requestId).sum

/-- How often a trace commits a request's effects. -/
def commitCount (trace : List (QueueEvent × QueueOutput)) (requestId : String) : Nat :=
  (trace.map fun entry => entry.2.commits requestId).sum

/-- The requeueing of a row by lease recovery. -/
def Recovered (event : QueueEvent) (row : InputEvent) : Prop :=
  ∃ now, event = .recoverExpiredLeases now ∧ row.Expired now

/-- Everything one event can do to one row. -/
structure RowMove (event : QueueEvent) (output : QueueOutput) (old new : InputEvent) : Prop where
  requestId : new.requestId = old.requestId
  target : new.target = old.target
  change :
    -- The row keeps its standing.
    (output.claims old.requestId = 0 ∧ output.commits old.requestId = 0 ∧ new.status = old.status ∧
      new.attempts = old.attempts) ∨
    -- A pending row is claimed, and perhaps refused at once.
    (output.claims old.requestId = 1 ∧ output.commits old.requestId = 0 ∧ old.target = .engine ∧
      old.status = .pending ∧ new.attempts = old.attempts + 1 ∧
      (new.status = .processing ∨ new.status = .failed)) ∨
    -- A row in processing is requeued, or ends.
    (output.claims old.requestId = 0 ∧ output.commits old.requestId = 0 ∧ old.status = .processing ∧
      new.attempts = old.attempts ∧
      ((new.status = .pending ∧ (old.attempts < maxAttempts ∨ Recovered event old)) ∨
        new.status.Terminal)) ∨
    -- A row in processing is committed.
    (output.claims old.requestId = 0 ∧ output.commits old.requestId = 1 ∧ old.status = .processing ∧
      new.status = .succeeded ∧ new.attempts = old.attempts)

variable {event : QueueEvent} {output : QueueOutput}

theorem RowMove.refl (row : InputEvent) (unclaimed : output.claims row.requestId = 0)
    (uncommitted : output.commits row.requestId = 0) : RowMove event output row row :=
  ⟨rfl, rfl, .inl ⟨unclaimed, uncommitted, rfl, rfl⟩⟩

theorem RowMove.terminal {old new : InputEvent} (move : RowMove event output old new)
    (ended : old.status.Terminal) : new.status = old.status := by
  -- Every other kind of move starts from a pending or a processing row.
  rcases move.change with ⟨_, _, same, _⟩ | ⟨_, _, _, pending, _⟩ | ⟨_, _, processing, _⟩ |
    ⟨_, _, processing, _⟩
  · exact same
  · simp [InputEventStatus.Terminal, pending] at ended
  · simp [InputEventStatus.Terminal, processing] at ended
  · simp [InputEventStatus.Terminal, processing] at ended

namespace CommandQueue

theorem claim_fields (normalize : InputEvent → Bool) (row : InputEvent) (workerId : String)
    (context : ClaimContext) (tick : Int) :
    (row.claim normalize workerId context tick).requestId = row.requestId ∧
    (row.claim normalize workerId context tick).target = row.target ∧
    (row.claim normalize workerId context tick).attempts = row.attempts + 1 ∧
    ((row.claim normalize workerId context tick).status = .processing ∨
      (row.claim normalize workerId context tick).status = .failed) := by
  -- The two refusals and the normal case all start from the same claiming update.
  simp only [InputEvent.claim]
  split
  · exact ⟨rfl, rfl, rfl, .inr rfl⟩
  · split
    · exact ⟨rfl, rfl, rfl, .inr rfl⟩
    · exact ⟨rfl, rfl, rfl, .inl rfl⟩

variable {rows : List InputEvent} {context : ClaimContext} {requestId : String} {normalize : InputEvent → Bool}
  {event : QueueEvent} {output : QueueOutput} {queue next : CommandQueue} {old new : List InputEvent}
  {trace : List (QueueEvent × QueueOutput)}

theorem claimedRequests_subset {limit : Nat} (claimed : requestId ∈ claimedRequests context limit rows) :
    requestId ∈ rows.map (·.requestId) := by
  induction rows generalizing limit with
  | nil => cases limit <;> simp [claimedRequests] at claimed
  | cons row rest ih =>
    cases limit with
    | zero => simp [claimedRequests] at claimed
    | succ limit =>
      simp only [claimedRequests] at claimed
      split at claimed
      · split at claimed
        · rcases List.mem_cons.mp claimed with rfl | later
          · simp
          · exact List.mem_cons_of_mem _ (ih later)
        · exact List.mem_cons_of_mem _ (ih claimed)
      · exact List.mem_cons_of_mem _ (ih claimed)

/-- What claiming does to one row, given how often its request was reported. -/
def ClaimMove (normalize : InputEvent → Bool) (workerId : String) (context : ClaimContext)
    (claimed : List String) (old new : InputEvent) : Prop :=
  (claimed.count old.requestId = 0 ∧ new = old) ∨
    (claimed.count old.requestId = 1 ∧ context.selects old = true ∧
      ∃ tick, new = old.claim normalize workerId context tick)

theorem ClaimMove.cons {workerId : String} {claimed : List String} {old new : InputEvent} {other : String}
    (differs : old.requestId ≠ other) (move : ClaimMove normalize workerId context claimed old new) :
    ClaimMove normalize workerId context (other :: claimed) old new := by
  simpa [ClaimMove, List.count_cons_of_ne differs.symm] using move

theorem claimRows_moves (normalize : InputEvent → Bool) (workerId : String) (context : ClaimContext)
    (limit : Nat) (unique : (rows.map (·.requestId)).Nodup) :
    List.Forall₂ (ClaimMove normalize workerId context (claimedRequests context limit rows))
      rows (claimRows normalize workerId context limit rows) := by
  -- The induction follows the claiming loop; distinct requests keep each row's count its own.
  induction rows generalizing limit with
  | nil => cases limit <;> exact .nil
  | cons row rest ih =>
    obtain ⟨absent, unique⟩ := List.nodup_cons.mp unique
    have others : ∀ other ∈ rest, other.requestId ≠ row.requestId :=
      fun other member same => absent (List.mem_map.mpr ⟨other, member, same⟩)
    cases limit with
    | zero =>
      refine List.forall₂_same.mpr fun other _ => .inl ⟨by simp [claimedRequests], rfl⟩
    | succ limit =>
      have skipped : ∀ limit, (claimedRequests context limit rest).count row.requestId = 0 :=
        fun limit => List.count_eq_zero.mpr fun claimed => absent (claimedRequests_subset claimed)
      simp only [claimRows, claimedRequests]
      by_cases selected : context.selects row
      · simp only [selected, if_true]
        cases converted : context.convertTick row with
        | none => exact .cons (.inl ⟨skipped limit, rfl⟩) (ih limit unique)
        | some tick =>
          refine .cons (.inr ⟨by simp [skipped limit], selected, tick, rfl⟩) ?_
          have both := (List.forall₂_and_left _ _).mpr ⟨others, ih limit unique⟩
          exact both.imp fun _ _ pair => pair.2.cons pair.1
      · simp only [selected]
        exact .cons (.inl ⟨skipped (limit + 1), rfl⟩) (ih (limit + 1) unique)

theorem map_moves {change : InputEvent → InputEvent}
    (moves : ∀ row ∈ rows, RowMove event output row (change row)) :
    List.Forall₂ (RowMove event output) rows (rows.map change) := by
  rw [List.forall₂_map_right_iff]
  exact List.forall₂_same.mpr moves

theorem settleError_moves (event : QueueEvent) (report : ErrorReport) (now : Int) (row : InputEvent) :
    RowMove event .quiet row (settleError report now row) := by
  simp only [settleError]
  split
  · rename_i owned
    refine ⟨rfl, rfl, .inr (.inr (.inl ⟨rfl, rfl, owned.1.2.2.1, rfl, ?_⟩))⟩
    by_cases last : maxAttempts ≤ report.attempts
    · right
      simp [last, InputEventStatus.Terminal]
    · left
      exact ⟨by simp [last], .inl (by have := owned.2; omega)⟩
  · exact .refl row rfl rfl

theorem step_moves (unique : (queue.table.map (·.requestId)).Nodup)
    (stepped : step normalize queue event = some (next, output)) :
    List.Forall₂ (RowMove event output) queue.table next.table ∨
      ∃ row, queue.Insertable row ∧ next.table = queue.table ++ [row] ∧ output = .quiet := by
  cases event with
  | enqueue row =>
    simp only [step] at stepped
    split at stepped
    · cases stepped
      exact .inr ⟨row, ‹_›, rfl, rfl⟩
    · cases stepped
  | recoverExpiredLeases now =>
    cases stepped
    refine .inl (map_moves fun row _ => ?_)
    simp only [InputEvent.recover]
    split
    · rename_i expired
      exact ⟨rfl, rfl, .inr (.inr (.inl ⟨rfl, rfl, expired.2.1, rfl,
        .inl ⟨rfl, .inr ⟨now, rfl, expired⟩⟩⟩))⟩
    · exact .refl row rfl rfl
  | claimPending workerId limit context =>
    cases stepped
    left
    refine (claimRows_moves normalize workerId context limit unique).imp fun old new move => ?_
    rcases move with ⟨uncounted, rfl⟩ | ⟨counted, selected, tick, rfl⟩
    · exact .refl _ uncounted rfl
    · obtain ⟨requestId, target, attempts, status⟩ := claim_fields normalize old workerId context tick
      simp only [ClaimContext.selects, Bool.and_eq_true, beq_iff_eq] at selected
      exact ⟨requestId, target, .inr (.inl ⟨counted, rfl, selected.1.1.1, selected.1.1.2, attempts, status⟩)⟩
  | readCommandError workerId requestId message =>
    simp only [step] at stepped
    split at stepped
    · cases stepped
      exact .inl (List.forall₂_same.mpr fun row _ => .refl row rfl rfl)
    · split at stepped <;> cases stepped <;>
        exact .inl (List.forall₂_same.mpr fun row _ => .refl row rfl rfl)
  | writeCommandError index now =>
    simp only [step] at stepped
    split at stepped
    · cases stepped
    · cases stepped
      exact .inl (map_moves fun row _ => settleError_moves _ _ now row)
  | complete workerId requestId result now =>
    simp only [step] at stepped
    split at stepped
    · cases stepped
      refine .inl (map_moves fun row _ => ?_)
      split
      · rename_i owned
        exact ⟨rfl, rfl, .inr (.inr (.inl ⟨rfl, rfl, owned.2.2.1, rfl, .inr (.inl rfl)⟩))⟩
      · exact .refl row rfl rfl
    · cases stepped
      exact .inl (List.forall₂_same.mpr fun row _ => .refl row rfl rfl)
  | clearClaim index =>
    simp only [step] at stepped
    split at stepped
    · cases stepped
    · cases stepped
      refine .inl (map_moves fun row _ => ?_)
      split
      · exact ⟨rfl, rfl, .inl ⟨rfl, rfl, rfl, rfl⟩⟩
      · exact .refl row rfl rfl
  | commit fence =>
    simp only [step] at stepped
    split at stepped
    · cases stepped
      exact .inl (List.forall₂_same.mpr fun row _ => .refl row rfl rfl)
    · rename_i row found
      split at stepped
      · rename_i passes
        cases stepped
        refine .inl (map_moves fun other member => ?_)
        split
        · rename_i same
          -- The request names one row only, so the row updated is the row that was checked.
          have named := List.find?_some found
          simp only [decide_eq_true_eq] at named
          have equal : other = row :=
            List.inj_on_of_nodup_map unique member (List.mem_of_find?_eq_some found)
              (same.trans named.1.symm)
          subst equal
          exact ⟨rfl, rfl, .inr (.inr (.inr ⟨rfl, by simp [QueueOutput.commits, same], passes.1, rfl, rfl⟩))⟩
        · rename_i differs
          exact .refl other rfl (by simp [QueueOutput.commits, Ne.symm differs])
      · cases stepped
        exact .inl (List.forall₂_same.mpr fun row _ => .refl row rfl rfl)

theorem forall₂_source (moves : List.Forall₂ (RowMove event output) old new) {row : InputEvent}
    (member : row ∈ new) : ∃ earlier ∈ old, RowMove event output earlier row := by
  induction moves with
  | nil => cases member
  | cons move _ ih =>
    rcases List.mem_cons.mp member with rfl | later
    · exact ⟨_, List.mem_cons_self, move⟩
    · obtain ⟨earlier, listed, moved⟩ := ih later
      exact ⟨earlier, List.mem_cons_of_mem _ listed, moved⟩

theorem forall₂_requests (moves : List.Forall₂ (RowMove event output) old new) :
    new.map (·.requestId) = old.map (·.requestId) := by
  induction moves with
  | nil => rfl
  | cons move _ ih => simp [move.requestId, ih]

theorem step_absent (stepped : step normalize queue event = some (next, output))
    (absent : requestId ∉ queue.table.map (·.requestId)) :
    output.claims requestId = 0 ∧ output.commits requestId = 0 := by
  cases output with
  | quiet => exact ⟨rfl, rfl⟩
  | threw message => exact ⟨rfl, rfl⟩
  | claimed requestIds =>
    refine ⟨List.count_eq_zero.mpr fun claimed => ?_, rfl⟩
    cases event <;> simp only [step] at stepped
    case claimPending workerId limit context =>
      cases stepped
      exact absent (claimedRequests_subset claimed)
    all_goals (repeat' split at stepped) <;> cases stepped
  | committed ended =>
    refine ⟨rfl, ?_⟩
    cases event <;> simp only [step] at stepped
    case commit fence =>
      split at stepped
      · cases stepped
      · rename_i row found
        split at stepped <;> cases stepped
        have named := List.find?_some found
        simp only [decide_eq_true_eq] at named
        have differs : fence.requestId ≠ requestId := fun same =>
          absent (List.mem_map.mpr ⟨row, List.mem_of_find?_eq_some found, named.1.trans same⟩)
        simp [QueueOutput.commits, differs]
    all_goals (repeat' split at stepped) <;> cases stepped

/-- What a run has done so far, read against the table it reached. -/
structure History (trace : List (QueueEvent × QueueOutput)) (queue : CommandQueue) : Prop where
  unique : (queue.table.map (·.requestId)).Nodup
  counted : ∀ row ∈ queue.table, row.target = .engine → claimCount trace row.requestId = row.attempts
  foreign : ∀ row ∈ queue.table, row.target = .api → claimCount trace row.requestId = 0
  once : ∀ row ∈ queue.table, commitCount trace row.requestId = 0 ∨
    (commitCount trace row.requestId = 1 ∧ row.status = .succeeded)
  absent : ∀ requestId, requestId ∉ queue.table.map (·.requestId) →
    claimCount trace requestId = 0 ∧ commitCount trace requestId = 0

theorem counts_snoc (trace : List (QueueEvent × QueueOutput)) (event : QueueEvent)
    (output : QueueOutput) (requestId : String) :
    claimCount (trace ++ [(event, output)]) requestId
        = claimCount trace requestId + output.claims requestId ∧
      commitCount (trace ++ [(event, output)]) requestId
        = commitCount trace requestId + output.commits requestId := by
  simp [claimCount, commitCount]

theorem History.extend (history : History trace queue)
    (stepped : step normalize queue event = some (next, output)) :
    History (trace ++ [(event, output)]) next := by
  have silent : ∀ requestId, requestId ∉ queue.table.map (·.requestId) →
      claimCount (trace ++ [(event, output)]) requestId = 0 ∧
        commitCount (trace ++ [(event, output)]) requestId = 0 := by
    intro requestId missing
    obtain ⟨claims, commits⟩ := counts_snoc trace event output requestId
    obtain ⟨unclaimed, uncommitted⟩ := step_absent stepped missing
    obtain ⟨before, after⟩ := history.absent requestId missing
    exact ⟨by omega, by omega⟩
  rcases step_moves history.unique stepped with moves | ⟨row, insertable, appended, rfl⟩
  · -- Every row moved, or stayed, under its own request.
    have requests := forall₂_requests moves
    refine ⟨requests ▸ history.unique, fun row member engine => ?_, fun row member api => ?_,
      fun row member => ?_, fun requestId missing => silent requestId (requests ▸ missing)⟩ <;>
      obtain ⟨old, listed, move⟩ := forall₂_source moves member <;>
      obtain ⟨claims, commits⟩ := counts_snoc trace event output old.requestId <;>
      rw [move.requestId]
    · have before := history.counted old listed (move.target ▸ engine)
      rcases move.change with ⟨_, _, _, _⟩ | ⟨_, _, _, _, _, _⟩ | ⟨_, _, _, _, _⟩ | ⟨_, _, _, _, _⟩ <;> omega
    · have foreign : old.target = .api := move.target ▸ api
      have before := history.foreign old listed foreign
      rcases move.change with ⟨_, _, _, _⟩ | ⟨_, _, engine, _⟩ | ⟨_, _, _, _, _⟩ | ⟨_, _, _, _, _⟩
      · omega
      · rw [foreign] at engine
        cases engine
      · omega
      · omega
    · have before := history.once old listed
      rcases move.change with ⟨_, same, status, _⟩ | ⟨_, same, _, pending, _⟩ | ⟨_, same, processing, _⟩ |
        ⟨_, same, processing, succeeded, _⟩
      · rcases before with none | ⟨one, done⟩
        · left; omega
        · exact .inr ⟨by omega, status.trans done⟩
      · rcases before with none | ⟨one, done⟩
        · left; omega
        · rw [done] at pending
          cases pending
      · rcases before with none | ⟨one, done⟩
        · left; omega
        · rw [done] at processing
          cases processing
      · rcases before with none | ⟨one, done⟩
        · exact .inr ⟨by omega, succeeded⟩
        · rw [done] at processing
          cases processing
  · -- A fresh row starts with nothing counted against its request.
    obtain ⟨target, status, attempts, -, apart⟩ := insertable
    have fresh : row.requestId ∉ queue.table.map (·.requestId) := by
      intro present
      obtain ⟨other, listed, same⟩ := List.mem_map.mp present
      exact (apart other listed).1 same
    obtain ⟨noClaims, noCommits⟩ := silent row.requestId fresh
    have unchanged : ∀ requestId, claimCount (trace ++ [(event, .quiet)]) requestId
        = claimCount trace requestId ∧ commitCount (trace ++ [(event, .quiet)]) requestId
        = commitCount trace requestId := fun requestId => by
      simpa [QueueOutput.claims, QueueOutput.commits] using counts_snoc trace event .quiet requestId
    refine ⟨?_, ?_, ?_, ?_, ?_⟩
    · rw [appended]
      simpa [List.nodup_append, history.unique] using fun other listed =>
        (apart other listed).1
    all_goals rw [appended]
    · intro other member engine
      rcases List.mem_append.mp member with earlier | last
      · rw [(unchanged _).1]
        exact history.counted other earlier engine
      · cases List.mem_singleton.mp last
        rw [noClaims, attempts]
    · intro other member api
      rcases List.mem_append.mp member with earlier | last
      · rw [(unchanged _).1]
        exact history.foreign other earlier api
      · cases List.mem_singleton.mp last
        exact noClaims
    · intro other member
      rcases List.mem_append.mp member with earlier | last
      · rw [(unchanged _).2]
        exact history.once other earlier
      · cases List.mem_singleton.mp last
        exact .inl noCommits
    · intro requestId missing
      exact silent requestId fun present => missing (by simp [present])

theorem Queued.history (queued : queue.Queued) : History [] queue where
  unique := queued.unique
  counted row member engine := by
    rw [(queued.fresh row member engine).2]
    rfl
  foreign _ _ _ := rfl
  once _ _ := .inl rfl
  absent _ _ := ⟨rfl, rfl⟩

theorem run_history {start final : CommandQueue} (queued : start.Queued)
    (run : (commandQueueMachine normalize).Run start trace final) : History trace final :=
  run.invariant queued.history fun _ _ _ _ _ history _ stepped => history.extend stepped

end CommandQueue

end Sammo
