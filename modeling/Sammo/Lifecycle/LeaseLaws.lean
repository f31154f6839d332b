import Sammo.Lifecycle.Lease

/-! Laws of the turn-daemon lease: how a row's fence moves, and what a passed assertion protects. -/

namespace Sammo

namespace LeaseWorld

variable {ι : Type}

/-- The owner and epoch of a profile's row. -/
def fence (world : LeaseWorld ι) (profile : String) : Option (String × Nat) :=
  (world.table profile).map fun row => (row.ownerId, row.fencingEpoch)

/-- What one statement may do to a fence: nothing, unless the row is unlocked and changes hands. -/
def FenceMoves (locked : Option Nat) (old new : Option (String × Nat)) : Prop :=
  new = old ∨ (locked = none ∧ ((∃ owner, old = none ∧ new = some (owner, 1)) ∨
    ∃ owner epoch next, old = some (owner, epoch) ∧ new = some (next, epoch + 1) ∧ owner ≠ next))

@[simp] theorem failTransaction_fields (world : LeaseWorld ι) (transaction : Option Nat) :
    (world.failTransaction transaction).table = world.table ∧
    (world.failTransaction transaction).locks = world.locks ∧
    (world.failTransaction transaction).replies = world.replies ∧
    ∀ other, ((world.failTransaction transaction).transactions other).asserted
      = (world.transactions other).asserted := by
  cases transaction with
  | none => exact ⟨rfl, rfl, rfl, fun _ => rfl⟩
  | some index =>
    refine ⟨rfl, rfl, rfl, fun other => ?_⟩
    -- Only the failed flag of the named transaction changes.
    by_cases same : other = index
    · subst same
      simp [failTransaction, updateTransaction]
    · simp [failTransaction, updateTransaction, Function.update_of_ne same]

theorem acquireRow_fence {ownerId : String} {duration now : Int} {old : Option LeaseRow}
    {row : LeaseRow} (taken : acquireRow ownerId duration now old = some row) :
    FenceMoves none (old.map fun row => (row.ownerId, row.fencingEpoch))
      (some (row.ownerId, row.fencingEpoch)) := by
  cases old with
  | none =>
    -- A first acquisition starts the epoch at one.
    simp only [acquireRow, Option.some.injEq] at taken
    subst taken
    exact .inr ⟨rfl, .inl ⟨ownerId, rfl, rfl⟩⟩
  | some previous =>
    simp only [acquireRow] at taken
    split at taken
    · simp only [Option.some.injEq] at taken
      subst taken
      by_cases same : previous.ownerId = ownerId
      · exact .inl (by simp [same])
      · -- A new owner only gets the row together with a higher epoch.
        exact .inr ⟨rfl, .inr ⟨previous.ownerId, previous.fencingEpoch, ownerId, rfl, by simp [same], same⟩⟩
    · cases taken

variable {world : LeaseWorld ι} {next : LeaseWorld ι} {output : LeaseOutput ι} {request : LeaseRequest ι}

theorem fence_congr {other : LeaseWorld ι} (same : other.table = world.table) (profile : String) :
    FenceMoves (world.locks profile) (world.fence profile) (other.fence profile) := by
  left
  simp [fence, same]

theorem writeRow_fence (world : LeaseWorld ι) (written : String) (row : LeaseRow)
    (moves : FenceMoves (world.locks written) (world.fence written)
      (some (row.ownerId, row.fencingEpoch))) (profile : String) :
    FenceMoves (world.locks profile) (world.fence profile)
      ((world.writeRow written row).fence profile) := by
  by_cases same : profile = written
  · subst same
    simpa [writeRow, fence] using moves
  · left
    simp [writeRow, fence, Function.update_of_ne same]

theorem serve_fence {now : Int} (served : world.serve now request = some (next, output)) (profile : String) :
    FenceMoves (world.locks profile) (world.fence profile) (next.fence profile) := by
  cases request with
  | acquire daemon =>
    simp only [serve] at served
    split at served
    · cases served
    rename_i unlocked
    split at served
    · cases served
      exact fence_congr rfl profile
    · rename_i row taken
      cases served
      have free : world.locks (world.daemons daemon).profile = none := by simpa using unlocked
      have moves : FenceMoves (world.locks (world.daemons daemon).profile)
          (world.fence (world.daemons daemon).profile) (some (row.ownerId, row.fencingEpoch)) := by
        rw [free]
        exact acquireRow_fence taken
      exact writeRow_fence world _ row moves profile
  | renew daemon token =>
    simp only [serve] at served
    split at served
    · cases served
      exact fence_congr rfl profile
    rename_i row found
    split at served
    · split at served
      · cases served
      · cases served
        exact writeRow_fence world token.profile _ (.inl (by simp [fence, found])) profile
    · cases served
      exact fence_congr rfl profile
  | assertActive daemon token transaction =>
    simp only [serve] at served
    split at served
    · cases served
      exact fence_congr rfl profile
    split at served
    · split at served
      · cases served
        exact fence_congr rfl profile
      · cases served
    · cases served
      exact fence_congr rfl profile
  | release token =>
    simp only [serve] at served
    split at served
    · cases served
      exact fence_congr rfl profile
    rename_i row found
    split at served
    · split at served
      · cases served
      · cases served
        exact writeRow_fence world token.profile _ (.inl (by simp [fence, found])) profile
    · cases served
      exact fence_congr rfl profile

/-- A passed assertion, seen by its transaction or still on its way back, keeps its row locked. -/
def Guarded (world : LeaseWorld ι) : Prop :=
  ∀ transaction token,
    (token ∈ (world.transactions transaction).asserted ∨
      ∃ daemon, LeaseReply.asserted daemon token (some transaction) true ∈ world.replies) →
    world.locks token.profile = some transaction ∧
      world.fence token.profile = some (token.ownerId, token.fencingEpoch)

theorem Guarded.endTransaction (guarded : world.Guarded) (ended : Nat)
    (settled : ∀ reply ∈ world.replies, reply.transaction ≠ some ended) :
    (world.endTransaction ended).Guarded := by
  intro transaction token held
  by_cases same : transaction = ended
  · -- The ended transaction has neither assertions nor replies left.
    subst same
    rcases held with member | ⟨daemon, member⟩
    · simp [LeaseWorld.endTransaction, FencedTransaction.idle] at member
    · exact absurd rfl (settled _ member)
  · obtain ⟨locked, fenced⟩ := guarded transaction token
      (by simpa [LeaseWorld.endTransaction, Function.update_of_ne same] using held)
    refine ⟨?_, fenced⟩
    simp [LeaseWorld.endTransaction, locked, same]

theorem serve_guarded {now : Int} (guarded : world.Guarded)
    (served : world.serve now request = some (next, output)) : next.Guarded := by
  have moves := serve_fence served
  -- Every reply but a passed assertion is one the guard does not speak about.
  have keep : next.locks = world.locks → next.transactions = world.transactions →
      (∀ daemon token transaction, LeaseReply.asserted daemon token transaction true ∈ next.replies →
        LeaseReply.asserted daemon token transaction true ∈ world.replies) → next.Guarded := by
    intro locks transactions replies transaction token held
    rw [transactions] at held
    obtain ⟨locked, fenced⟩ := guarded transaction token
      (held.imp id fun ⟨daemon, member⟩ => ⟨daemon, replies _ _ _ member⟩)
    refine ⟨by rw [locks, locked], ?_⟩
    rcases moves token.profile with same | ⟨free, -⟩
    · rw [same, fenced]
    · rw [locked] at free
      cases free
  cases request with
  | acquire daemon =>
    simp only [serve] at served
    split at served
    · cases served
    split at served <;> cases served <;> exact keep rfl rfl (by simp [reply, writeRow])
  | renew daemon token =>
    simp only [serve] at served
    split at served
    · cases served
      exact keep rfl rfl (by simp [reply])
    split at served
    · split at served
      · cases served
      · cases served
        exact keep rfl rfl (by simp [reply, writeRow])
    · cases served
      exact keep rfl rfl (by simp [reply])
  | assertActive daemon token owner =>
    simp only [serve] at served
    split at served
    · cases served
      exact keep rfl rfl (by simp [reply])
    rename_i row found
    split at served
    · rename_i matched
      split at served
      · rename_i available
        cases served
        intro transaction other held
        have fenced : world.fence token.profile = some (token.ownerId, token.fencingEpoch) := by
          simp [fence, found, matched.1.1, matched.1.2]
        simp only [reply, List.mem_append, List.mem_singleton] at held
        -- Either the assertion was there before, or it is the one that has just passed.
        have cases : (other ∈ (world.transactions transaction).asserted ∨
            ∃ daemon, LeaseReply.asserted daemon other (some transaction) true ∈ world.replies) ∨
            (other = token ∧ owner = some transaction) := by
          rcases held with member | ⟨daemon', member | fresh⟩
          · exact .inl (.inl member)
          · exact .inl (.inr ⟨daemon', member⟩)
          · cases fresh
            exact .inr ⟨rfl, rfl⟩
        rcases cases with earlier | ⟨rfl, rfl⟩
        · obtain ⟨locked, before⟩ := guarded transaction other earlier
          refine ⟨?_, before⟩
          by_cases same : other.profile = token.profile
          · rw [same] at locked
            rw [locked] at available
            have mine : some transaction = owner := by simpa using available
            simp [reply, same, mine]
          · simp [reply, Function.update_of_ne same, locked]
        · exact ⟨by simp [reply], fenced⟩
      · cases served
    · cases served
      exact keep rfl rfl (by simp [reply])
  | release token =>
    simp only [serve] at served
    split at served
    · cases served
      exact keep rfl rfl (by simp [reply])
    split at served
    · split at served
      · cases served
      · cases served
        exact keep rfl rfl (by simp [reply, writeRow])
    · cases served
      exact keep rfl rfl (by simp [reply])

variable [DecidableEq ι]

@[simp] theorem updateDaemon_fields (world : LeaseWorld ι) (daemon : ι)
    (change : DatabaseTurnDaemonLease → DatabaseTurnDaemonLease) :
    (world.updateDaemon daemon change).table = world.table ∧
    (world.updateDaemon daemon change).locks = world.locks ∧
    (world.updateDaemon daemon change).transactions = world.transactions ∧
    (world.updateDaemon daemon change).requests = world.requests ∧
    (world.updateDaemon daemon change).replies = world.replies := ⟨rfl, rfl, rfl, rfl, rfl⟩

theorem receive_table (world : LeaseWorld ι) (result : LeaseReply ι) :
    (world.receive result).1.table = world.table ∧ (world.receive result).1.locks = world.locks ∧
      (world.receive result).1.replies = world.replies := by
  cases result with
  | acquired daemon row => cases row <;> exact ⟨rfl, rfl, rfl⟩
  | renewed daemon matched => exact ⟨rfl, rfl, rfl⟩
  | asserted daemon token transaction matched =>
    cases matched <;> cases transaction <;> exact ⟨rfl, rfl, rfl⟩
  | released => exact ⟨rfl, rfl, rfl⟩

variable {event : LeaseEvent ι}

theorem step_fence (stepped : world.step event = some (next, output)) (profile : String) :
    FenceMoves (world.locks profile) (world.fence profile) (next.fence profile) := by
  cases event with
  | acquire daemon =>
    cases stepped
    exact fence_congr rfl profile
  | renew daemon =>
    cases stepped
    refine fence_congr ?_ profile
    simp only [renew]
    split
    · rfl
    · split <;> rfl
  | assertActive daemon transaction =>
    simp only [step, Option.some.injEq] at stepped
    refine fence_congr ?_ profile
    rw [← show (world.assertActive daemon transaction).1 = next by rw [stepped]]
    simp only [assertActive]
    split
    · simp
    · split
      · simp
      · rfl
  | release daemon =>
    cases stepped
    refine fence_congr ?_ profile
    simp only [release]
    split
    · rfl
    · split <;> rfl
  | execute index now =>
    simp only [step] at stepped
    split at stepped
    · cases stepped
    · -- Taking the statement off the wire leaves rows and locks as they were.
      exact serve_fence stepped profile
  | respond index =>
    simp only [step] at stepped
    split at stepped
    · cases stepped
    · rename_i result _
      have table := (receive_table { world with replies := world.replies.eraseIdx index } result).1
      simp only [Option.some.injEq] at stepped
      rw [stepped] at table
      exact fence_congr table profile
  | dropRequest index =>
    simp only [step] at stepped
    split at stepped
    · cases stepped
    · rename_i request _
      cases stepped
      refine fence_congr ?_ profile
      cases request <;> simp [abandon]
  | dropReply index =>
    simp only [step] at stepped
    split at stepped
    · cases stepped
    · rename_i result _
      cases stepped
      refine fence_congr ?_ profile
      cases result <;> simp [abandonReply]
  | watchdog daemon =>
    cases stepped
    exact fence_congr rfl profile
  | markClockReady transaction target =>
    simp only [step] at stepped
    split at stepped
    · cases stepped
      exact fence_congr rfl profile
    · cases stepped
  | commit transaction =>
    simp only [step] at stepped
    split at stepped
    · cases stepped
      -- Publishing the clock-ready flag rewrites the row under the same owner and epoch.
      left
      simp only [fence, endTransaction, publishClockReady]
      split
      · cases world.table profile <;> rfl
      · rfl
    · cases stepped
  | rollback transaction =>
    cases stepped
    exact fence_congr rfl profile

theorem step_fence_locked (stepped : world.step event = some (next, output)) {profile : String}
    {transaction : Nat} (locked : world.locks profile = some transaction) :
    next.fence profile = world.fence profile := by
  -- Every other move needs the row unlocked.
  rcases step_fence stepped profile with same | ⟨free, -⟩
  · exact same
  · rw [locked] at free
    cases free

theorem Guarded.mono (guarded : world.Guarded) (stepped : world.step event = some (next, output))
    (locks : next.locks = world.locks) (asserted : ∀ transaction token,
      (token ∈ (next.transactions transaction).asserted ∨
        ∃ daemon, LeaseReply.asserted daemon token (some transaction) true ∈ next.replies) →
      (token ∈ (world.transactions transaction).asserted ∨
        ∃ daemon, LeaseReply.asserted daemon token (some transaction) true ∈ world.replies)) :
    next.Guarded := by
  intro transaction token held
  obtain ⟨locked, fenced⟩ := guarded transaction token (asserted transaction token held)
  exact ⟨by rw [locks, locked], by rw [step_fence_locked stepped locked, fenced]⟩

theorem receive_asserted {result : LeaseReply ι} {transaction : Nat} {token : TurnDaemonLeaseToken}
    (held : token ∈ ((world.receive result).1.transactions transaction).asserted) :
    token ∈ (world.transactions transaction).asserted ∨
      ∃ daemon, result = .asserted daemon token (some transaction) true := by
  cases result with
  | acquired daemon row => cases row <;> exact .inl held
  | renewed daemon matched => exact .inl held
  | asserted daemon asserted owner matched =>
    cases matched with
    | false =>
      left
      simpa [receive] using held
    | true =>
      cases owner with
      | none => exact .inl held
      | some index =>
        by_cases same : transaction = index
        · subst same
          simp only [receive, updateTransaction, Function.update_self, List.mem_cons] at held
          rcases held with rfl | earlier
          · exact .inr ⟨daemon, rfl⟩
          · exact .inl earlier
        · left
          simpa [receive, updateTransaction, Function.update_of_ne same] using held
  | released => exact .inl held

theorem step_guarded (guarded : world.Guarded) (stepped : world.step event = some (next, output)) :
    next.Guarded := by
  have mono := fun locks asserted => guarded.mono stepped (locks : next.locks = world.locks) asserted
  cases event with
  | acquire daemon =>
    cases stepped
    exact mono rfl fun _ _ held => held
  | renew daemon =>
    cases stepped
    simp only [renew] at mono ⊢
    split
    · exact guarded
    · split
      · exact guarded
      · exact fun transaction token held => guarded transaction token held
  | assertActive daemon transaction =>
    simp only [step, Option.some.injEq, assertActive] at stepped
    split at stepped
    · cases stepped
      exact mono (by simp) (by simp)
    · split at stepped
      · cases stepped
        exact mono (by simp) (by simp)
      · cases stepped
        exact mono rfl fun _ _ held => held
  | release daemon =>
    cases stepped
    simp only [release] at mono ⊢
    split
    · exact fun transaction token held => guarded transaction token held
    · split <;> exact fun transaction token held => guarded transaction token held
  | execute index now =>
    simp only [step] at stepped
    split at stepped
    · cases stepped
    · have taken : { world with requests := world.requests.eraseIdx index }.Guarded := guarded
      exact serve_guarded taken stepped
  | respond index =>
    simp only [step] at stepped
    split at stepped
    · cases stepped
    · rename_i result found
      simp only [Option.some.injEq] at stepped
      obtain ⟨-, locks, replies⟩ :=
        receive_table { world with replies := world.replies.eraseIdx index } result
      rw [stepped] at locks replies
      refine mono locks fun transaction token held => ?_
      rcases held with member | ⟨daemon, member⟩
      · -- A new assertion is the reply that has just arrived.
        rcases receive_asserted (by rw [stepped]; exact member) with earlier | ⟨daemon, rfl⟩
        · exact .inl earlier
        · exact .inr ⟨daemon, List.mem_of_getElem? found⟩
      · rw [replies] at member
        exact .inr ⟨daemon, List.mem_of_mem_eraseIdx member⟩
  | dropRequest index =>
    simp only [step] at stepped
    split at stepped
    · cases stepped
    · rename_i request _
      cases stepped
      cases request <;> exact mono (by simp [abandon]) (by simp [abandon])
  | dropReply index =>
    simp only [step] at stepped
    split at stepped
    · cases stepped
    · rename_i result _
      cases stepped
      have fewer : ∀ reply, reply ∈ world.replies.eraseIdx index → reply ∈ world.replies :=
        fun _ member => List.mem_of_mem_eraseIdx member
      cases result <;> refine mono (by simp [abandonReply]) fun transaction token held =>
        held.imp (by simp [abandonReply]) (Exists.imp fun daemon member => fewer _ ?_) <;>
        simpa [abandonReply] using member
  | watchdog daemon =>
    cases stepped
    exact fun transaction token held => guarded transaction token held
  | markClockReady transaction target =>
    simp only [step] at stepped
    split at stepped
    · cases stepped
      refine mono rfl fun other token held => held.imp (fun member => ?_) id
      by_cases same : other = transaction
      · subst same
        simpa [updateTransaction] using member
      · simpa [updateTransaction, Function.update_of_ne same] using member
    · cases stepped
  | commit transaction =>
    have fences := fun {profile index} => @step_fence_locked _ _ _ _ _ _ stepped profile index
    simp only [step] at stepped
    split at stepped
    · rename_i ready
      cases stepped
      refine Guarded.endTransaction (fun other token held => ?_) transaction ready.2.2.2
      obtain ⟨locked, fenced⟩ := guarded other token held
      exact ⟨locked, (fences locked).trans fenced⟩
    · cases stepped
  | rollback transaction =>
    cases stepped
    refine Guarded.endTransaction (fun other token held => ?_) transaction ?_
    · refine guarded other token (held.imp id (Exists.imp fun daemon member => ?_))
      exact (List.mem_filter.mp member).1
    · intro reply member
      simpa using (List.mem_filter.mp member).2

end LeaseWorld

end Sammo
