import Sammo.Lifecycle.LeaseLaws

/-! Fencing of the turn-daemon lease over every interleaving of its daemons. -/

namespace Sammo

namespace LeaseWorld

variable {ι : Type}

/-- Every token in a daemon's hands or in its traffic carries that daemon's owner. -/
structure Owned (start world : LeaseWorld ι) : Prop where
  identity : ∀ daemon, (world.daemons daemon).ownerId = (start.daemons daemon).ownerId
  held : ∀ daemon token, (world.daemons daemon).token = some token →
    token.ownerId = (start.daemons daemon).ownerId
  asserting : ∀ daemon token transaction, .assertActive daemon token transaction ∈ world.requests →
    token.ownerId = (start.daemons daemon).ownerId
  acquired : ∀ daemon token, .acquired daemon (some token) ∈ world.replies →
    token.ownerId = (start.daemons daemon).ownerId

variable {start world next : LeaseWorld ι} {output : LeaseOutput ι} {request : LeaseRequest ι}

theorem Owned.mono (owned : Owned start world) (daemons : next.daemons = world.daemons)
    (requests : ∀ daemon token transaction, .assertActive daemon token transaction ∈ next.requests →
      .assertActive daemon token transaction ∈ world.requests)
    (replies : ∀ daemon token, .acquired daemon (some token) ∈ next.replies →
      .acquired daemon (some token) ∈ world.replies) : Owned start next where
  identity := by rw [daemons]; exact owned.identity
  held := by rw [daemons]; exact owned.held
  asserting daemon token transaction member :=
    owned.asserting daemon token transaction (requests daemon token transaction member)
  acquired daemon token member := owned.acquired daemon token (replies daemon token member)

theorem Owned.failTransaction (owned : Owned start world) (transaction : Option Nat) :
    Owned start (world.failTransaction transaction) := by
  cases transaction <;> exact owned.mono rfl (fun _ _ _ => id) (fun _ _ => id)

theorem acquireRow_owner {ownerId : String} {duration now : Int} {old : Option LeaseRow}
    {row : LeaseRow} (taken : acquireRow ownerId duration now old = some row) :
    row.ownerId = ownerId := by
  cases old with
  | none =>
    cases taken
    rfl
  | some previous =>
    simp only [acquireRow] at taken
    split at taken
    · cases taken
      rfl
    · cases taken

theorem serve_owned {now : Int} (owned : Owned start world)
    (served : world.serve now request = some (next, output)) : Owned start next := by
  -- Only an acquisition puts a token on the wire, and it carries the asking daemon's owner.
  have quiet : next.daemons = world.daemons → next.requests = world.requests →
      (∀ daemon token, .acquired daemon (some token) ∈ next.replies →
        .acquired daemon (some token) ∈ world.replies) → Owned start next := fun daemons requests replies =>
    owned.mono daemons (fun _ _ _ member => requests ▸ member) replies
  cases request with
  | acquire daemon =>
    simp only [serve] at served
    split at served
    · cases served
    split at served
    · cases served
      exact quiet rfl rfl (by simp [reply])
    · rename_i row taken
      cases served
      refine ⟨owned.identity, owned.held, owned.asserting, fun other token member => ?_⟩
      simp only [reply, writeRow, List.mem_append, List.mem_singleton] at member
      rcases member with earlier | fresh
      · exact owned.acquired other token earlier
      · cases fresh
        exact (acquireRow_owner taken).trans (owned.identity _)
  | renew daemon token =>
    simp only [serve] at served
    split at served
    · cases served
      exact quiet rfl rfl (by simp [reply])
    split at served
    · split at served <;> cases served
      exact quiet rfl rfl (by simp [reply, writeRow])
    · cases served
      exact quiet rfl rfl (by simp [reply])
  | assertActive daemon token transaction =>
    simp only [serve] at served
    split at served
    · cases served
      exact quiet rfl rfl (by simp [reply])
    split at served
    · split at served <;> cases served
      exact quiet rfl rfl (by simp [reply])
    · cases served
      exact quiet rfl rfl (by simp [reply])
  | release token =>
    simp only [serve] at served
    split at served
    · cases served
      exact quiet rfl rfl (by simp [reply])
    split at served
    · split at served <;> cases served
      exact quiet rfl rfl (by simp [reply, writeRow])
    · cases served
      exact quiet rfl rfl (by simp [reply])

theorem serve_explains {now : Int} (served : world.serve now request = some (next, output)) :
    (∀ daemon token, output = .acquired daemon token →
      next.fence token.profile = some (token.ownerId, token.fencingEpoch)) ∧
    (∀ daemon token, output = .passed daemon token →
      next.fence token.profile = some (token.ownerId, token.fencingEpoch) ∧
        ∃ transaction, request = .assertActive daemon token transaction) ∧
    ∀ tokens, output ≠ .committed tokens := by
  cases request with
  | acquire daemon =>
    simp only [serve] at served
    split at served
    · cases served
    split at served <;> cases served
    · simp
    · refine ⟨fun other token same => ?_, by simp, by simp⟩
      cases same
      simp [fence, reply, writeRow]
  | renew daemon token =>
    simp only [serve] at served
    split at served
    · cases served
      simp
    split at served
    · split at served <;> cases served
      simp
    · cases served
      simp
  | assertActive daemon token transaction =>
    simp only [serve] at served
    split at served
    · cases served
      simp
    rename_i row found
    split at served
    · rename_i matched
      split at served <;> cases served
      refine ⟨by simp, fun other asserted same => ?_, by simp⟩
      cases same
      exact ⟨by simp [fence, reply, found, matched.1.1, matched.1.2], transaction, rfl⟩
    · cases served
      simp
  | release token =>
    simp only [serve] at served
    split at served
    · cases served
      simp
    split at served
    · split at served <;> cases served
      simp
    · cases served
      simp

theorem Initial.invariants (initial : start.Initial) : start.Guarded ∧ Owned start start := by
  refine ⟨fun transaction token held => ?_, fun _ => rfl, ?_, ?_, ?_⟩
  · simp [initial.idle, initial.noReplies, FencedTransaction.idle] at held
  · simp [initial.noTokens]
  · simp [initial.noRequests]
  · simp [initial.noReplies]

variable [DecidableEq ι]

theorem Owned.updateDaemon (owned : Owned start world) (daemon : ι)
    {change : DatabaseTurnDaemonLease → DatabaseTurnDaemonLease}
    (named : (change (world.daemons daemon)).ownerId = (world.daemons daemon).ownerId)
    (tokens : ∀ token, (change (world.daemons daemon)).token = some token →
      token.ownerId = (start.daemons daemon).ownerId) :
    Owned start (world.updateDaemon daemon change) where
  identity other := by
    by_cases same : other = daemon
    · subst same
      simpa [LeaseWorld.updateDaemon, named] using owned.identity other
    · simpa [LeaseWorld.updateDaemon, Function.update_of_ne same] using owned.identity other
  held other token found := by
    by_cases same : other = daemon
    · subst same
      exact tokens token (by simpa [LeaseWorld.updateDaemon] using found)
    · exact owned.held other token (by simpa [LeaseWorld.updateDaemon, Function.update_of_ne same] using found)
  asserting := owned.asserting
  acquired := owned.acquired

theorem Owned.updateFlags (owned : Owned start world) (daemon : ι)
    (change : DatabaseTurnDaemonLease → DatabaseTurnDaemonLease)
    (kept : ∀ lease, (change lease).ownerId = lease.ownerId ∧ (change lease).token = lease.token) :
    Owned start (world.updateDaemon daemon change) :=
  owned.updateDaemon daemon (kept _).1
    fun token found => owned.held daemon token (by rw [← (kept _).2, found])

@[simp] theorem markLost_fields (lease : DatabaseTurnDaemonLease) (reason : String) :
    (lease.markLost reason).ownerId = lease.ownerId ∧ (lease.markLost reason).token = lease.token := by
  simp only [DatabaseTurnDaemonLease.markLost]
  split <;> exact ⟨rfl, rfl⟩

variable {event : LeaseEvent ι} {final : LeaseWorld ι} {trace : List (LeaseEvent ι × LeaseOutput ι)}

theorem step_owned (owned : Owned start world) (stepped : world.step event = some (next, output)) :
    Owned start next := by
  cases event with
  | acquire daemon =>
    cases stepped
    exact owned.mono rfl (by simp [acquire, send]) (fun _ _ => id)
  | renew daemon =>
    cases stepped
    simp only [renew]
    split
    · exact owned
    · split
      · exact owned
      · have flagged := owned.updateFlags daemon (fun lease => { lease with renewalInFlight := true })
          fun _ => ⟨rfl, rfl⟩
        exact flagged.mono rfl (by simp [send]) (fun _ _ => id)
  | assertActive daemon transaction =>
    simp only [step, Option.some.injEq, assertActive] at stepped
    split at stepped
    · cases stepped
      exact owned.failTransaction transaction
    · rename_i token found
      split at stepped
      · cases stepped
        exact owned.failTransaction transaction
      · cases stepped
        refine ⟨owned.identity, owned.held, fun other asserted index member => ?_, owned.acquired⟩
        simp only [send, List.mem_append, List.mem_singleton] at member
        rcases member with earlier | fresh
        · exact owned.asserting other asserted index earlier
        · cases fresh
          exact owned.held _ _ found
  | release daemon =>
    cases stepped
    have forgotten : Owned start (world.updateDaemon daemon fun lease => { lease with token := none }) :=
      owned.updateDaemon daemon rfl (by simp)
    simp only [release]
    split
    · exact forgotten
    · split
      · exact forgotten
      · exact forgotten.mono rfl (by simp [send]) (fun _ _ => id)
  | execute index now =>
    simp only [step] at stepped
    split at stepped
    · cases stepped
    · have taken : Owned start { world with requests := world.requests.eraseIdx index } :=
        owned.mono rfl (fun _ _ _ member => List.mem_of_mem_eraseIdx member) (fun _ _ => id)
      exact serve_owned taken stepped
  | respond index =>
    simp only [step] at stepped
    split at stepped
    · cases stepped
    · rename_i result found
      have taken : Owned start { world with replies := world.replies.eraseIdx index } :=
        owned.mono rfl (fun _ _ _ => id) (fun _ _ member => List.mem_of_mem_eraseIdx member)
      have arrived := List.mem_of_getElem? found
      simp only [Option.some.injEq] at stepped
      rw [← show (receive _ result).1 = next by rw [stepped]]
      cases result with
      | acquired daemon row =>
        cases row with
        | none => exact taken
        | some token =>
          simp only [receive]
          refine taken.updateDaemon daemon rfl fun other same => ?_
          cases same
          exact owned.acquired daemon _ arrived
      | renewed daemon matched =>
        simp only [receive]
        refine taken.updateFlags daemon _ fun lease => ?_
        cases matched <;> simp
      | asserted daemon token transaction matched =>
        cases matched with
        | true => cases transaction <;> exact taken.mono rfl (fun _ _ _ => id) (fun _ _ => id)
        | false =>
          have marked : Owned start (LeaseWorld.updateDaemon
              { world with replies := world.replies.eraseIdx index } daemon fun lease => lease.markLost
                "Transaction fencing rejected: lease expired or owner/epoch changed.") :=
            taken.updateFlags daemon _ (by simp)
          cases transaction <;> exact marked.mono rfl (fun _ _ _ => id) (fun _ _ => id)
      | released => exact taken
  | dropRequest index =>
    simp only [step] at stepped
    split at stepped
    · cases stepped
    · rename_i request _
      cases stepped
      have taken : Owned start { world with requests := world.requests.eraseIdx index } :=
        owned.mono rfl (fun _ _ _ member => List.mem_of_mem_eraseIdx member) (fun _ _ => id)
      cases request with
      | renew daemon token =>
        simp only [abandon]
        exact taken.updateFlags daemon _ (by simp)
      | assertActive daemon token transaction => exact taken.failTransaction transaction
      | acquire daemon => exact taken
      | release token => exact taken
  | dropReply index =>
    simp only [step] at stepped
    split at stepped
    · cases stepped
    · rename_i result _
      cases stepped
      have taken : Owned start { world with replies := world.replies.eraseIdx index } :=
        owned.mono rfl (fun _ _ _ => id) (fun _ _ member => List.mem_of_mem_eraseIdx member)
      cases result with
      | renewed daemon matched =>
        simp only [abandonReply]
        exact taken.updateFlags daemon _ (by simp)
      | asserted daemon token transaction matched => exact taken.failTransaction transaction
      | acquired daemon row => exact taken
      | released => exact taken
  | watchdog daemon =>
    cases stepped
    exact owned.updateFlags daemon _ (by simp)
  | markClockReady transaction target =>
    simp only [step] at stepped
    split at stepped <;> cases stepped
    exact owned.mono rfl (fun _ _ _ => id) (fun _ _ => id)
  | commit transaction =>
    simp only [step] at stepped
    split at stepped <;> cases stepped
    exact owned.mono rfl (fun _ _ _ => id) (fun _ _ => id)
  | rollback transaction =>
    cases stepped
    exact owned.mono rfl (fun _ _ _ member => (List.mem_filter.mp member).1)
      (fun _ _ member => (List.mem_filter.mp member).1)

/-- Ownership of a fence can only be lost upwards: the epoch never falls, and a new owner has a higher one. -/
def FenceAdvances (before after : LeaseWorld ι) : Prop :=
  ∀ profile owner epoch, before.fence profile = some (owner, epoch) →
    ∃ later next, after.fence profile = some (later, next) ∧ epoch ≤ next ∧
      (owner ≠ later → epoch < next)

theorem run_fenceAdvances (run : (leaseMachine ι).Run start trace final) : FenceAdvances start final := by
  refine run.related (fun world profile owner epoch found => ⟨owner, epoch, found, le_rfl, absurd rfl⟩)
    ?_ ?_
  · -- Two advances compose, whichever of them changed the owner.
    intro first second third before after profile owner epoch found
    obtain ⟨middle, next, seen, lower, changed⟩ := before profile owner epoch found
    obtain ⟨last, top, ending, upper, moved⟩ := after profile middle next seen
    refine ⟨last, top, ending, lower.trans upper, fun differs => ?_⟩
    by_cases same : owner = middle
    · have := moved (same ▸ differs)
      omega
    · have := changed same
      omega
  · intro world event output next _ stepped profile owner epoch found
    rcases step_fence stepped profile with same | ⟨-, ⟨_, absent, _⟩ | ⟨old, number, fresh, here, there, differs⟩⟩
    · exact ⟨owner, epoch, same.trans found, le_rfl, absurd rfl⟩
    · rw [absent] at found
      cases found
    · rw [here] at found
      cases found
      exact ⟨fresh, epoch + 1, there, by omega, fun _ => by omega⟩

/-- What an output says about the states around the event that made it. -/
def Explains (world next : LeaseWorld ι) : LeaseOutput ι → Prop
  | .acquired _ token => next.fence token.profile = some (token.ownerId, token.fencingEpoch)
  | .passed daemon token =>
    next.fence token.profile = some (token.ownerId, token.fencingEpoch) ∧
      ∃ transaction, .assertActive daemon token transaction ∈ world.requests
  | .committed tokens => ∃ transaction, tokens = (world.transactions transaction).asserted
  | .quiet => True
  | .threw _ => True

theorem step_explains (stepped : world.step event = some (next, output)) : Explains world next output := by
  cases event with
  | execute index now =>
    simp only [step] at stepped
    split at stepped
    · cases stepped
    · rename_i request found
      obtain ⟨acquired, passed, uncommitted⟩ := serve_explains stepped
      cases output with
      | acquired daemon token => exact acquired daemon token rfl
      | passed daemon token =>
        obtain ⟨fenced, transaction, rfl⟩ := passed daemon token rfl
        exact ⟨fenced, transaction, List.mem_of_getElem? found⟩
      | committed tokens => exact absurd rfl (uncommitted tokens)
      | quiet => trivial
      | threw message => trivial
  | respond index =>
    simp only [step] at stepped
    split at stepped
    · cases stepped
    · simp only [Option.some.injEq] at stepped
      unfold receive at stepped
      split at stepped <;> cases stepped <;> trivial
  | assertActive daemon transaction =>
    simp only [step, Option.some.injEq, assertActive] at stepped
    split at stepped
    · cases stepped
      trivial
    · split at stepped <;> cases stepped <;> trivial
  | dropRequest index =>
    simp only [step] at stepped
    split at stepped <;> cases stepped
    trivial
  | dropReply index =>
    simp only [step] at stepped
    split at stepped <;> cases stepped
    trivial
  | markClockReady transaction target =>
    simp only [step] at stepped
    split at stepped <;> cases stepped
    trivial
  | commit transaction =>
    simp only [step] at stepped
    split at stepped <;> cases stepped
    exact ⟨transaction, rfl⟩
  | acquire daemon => cases stepped; trivial
  | renew daemon => cases stepped; trivial
  | release daemon => cases stepped; trivial
  | watchdog daemon => cases stepped; trivial
  | rollback transaction => cases stepped; trivial

/-- What a whole run has shown: passes are backed by a row that was never contradicted since. -/
structure PassHistory (start : LeaseWorld ι) (trace : List (LeaseEvent ι × LeaseOutput ι))
    (world : LeaseWorld ι) : Prop where
  recorded : ∀ event daemon token, (event, LeaseOutput.passed daemon token) ∈ trace →
    token.ownerId = (start.daemons daemon).ownerId ∧
      ∃ owner epoch, world.fence token.profile = some (owner, epoch) ∧ token.fencingEpoch ≤ epoch ∧
        (token.fencingEpoch = epoch → token.ownerId = owner)
  exclusive : ∀ event daemon token event' daemon' token',
    (event, LeaseOutput.passed daemon token) ∈ trace →
    (event', LeaseOutput.passed daemon' token') ∈ trace → token.profile = token'.profile →
    token.fencingEpoch = token'.fencingEpoch → token.ownerId = token'.ownerId

theorem run_history (initial : start.Initial) (run : (leaseMachine ι).Run start trace final) :
    final.Guarded ∧ Owned start final ∧ PassHistory start trace final := by
  obtain ⟨guarded, owned⟩ := initial.invariants
  let Inv : List (LeaseEvent ι × LeaseOutput ι) → LeaseWorld ι → Prop := fun past world =>
    world.Guarded ∧ Owned start world ∧ PassHistory start past world
  have held : Inv trace final := by
    refine run.invariant ⟨guarded, owned, by simp, by simp⟩ ?_
    rintro past world event output next ⟨guarded, owned, history⟩ _ stepped
    refine ⟨step_guarded guarded stepped, step_owned owned stepped, ?_⟩
    -- Fences only advance in the step, so what was recorded before stays true.
    have advances : FenceAdvances world next :=
      run_fenceAdvances (.snoc (.nil world) trivial stepped)
    have kept : ∀ event daemon token, (event, LeaseOutput.passed daemon token) ∈ past →
        token.ownerId = (start.daemons daemon).ownerId ∧
        ∃ owner epoch, next.fence token.profile = some (owner, epoch) ∧ token.fencingEpoch ≤ epoch ∧
          (token.fencingEpoch = epoch → token.ownerId = owner) := by
      intro event daemon token member
      obtain ⟨mine, owner, epoch, fenced, bounded, matched⟩ := history.recorded event daemon token member
      obtain ⟨later, top, seen, lower, changed⟩ := advances _ _ _ fenced
      refine ⟨mine, later, top, seen, bounded.trans lower, fun same => ?_⟩
      by_cases unchanged : owner = later
      · exact unchanged ▸ matched (by omega)
      · have := changed unchanged
        omega
    -- A pass made by this very step finds the row with exactly its owner and epoch.
    have fresh : ∀ daemon token, output = .passed daemon token →
        token.ownerId = (start.daemons daemon).ownerId ∧
        next.fence token.profile = some (token.ownerId, token.fencingEpoch) := by
      rintro daemon token rfl
      obtain ⟨fenced, transaction, member⟩ := step_explains stepped
      exact ⟨owned.asserting daemon token transaction member, fenced⟩
    have agree : ∀ event daemon token daemon' token', (event, LeaseOutput.passed daemon token) ∈ past →
        output = .passed daemon' token' → token.profile = token'.profile →
        token.fencingEpoch = token'.fencingEpoch → token.ownerId = token'.ownerId := by
      intro event daemon token daemon' token' member same profile epoch
      obtain ⟨-, owner, number, fenced, -, matched⟩ := kept event daemon token member
      obtain ⟨-, exact⟩ := fresh daemon' token' same
      rw [profile, exact] at fenced
      cases fenced
      exact matched epoch
    constructor
    · intro event daemon token member
      rcases List.mem_append.mp member with earlier | now
      · exact kept event daemon token earlier
      · obtain ⟨mine, fenced⟩ := fresh daemon token (Prod.mk.inj (List.mem_singleton.mp now)).2.symm
        exact ⟨mine, token.ownerId, token.fencingEpoch, fenced, le_rfl, fun _ => rfl⟩
    · intro event daemon token event' daemon' token' member member' profile epoch
      rcases List.mem_append.mp member with earlier | now <;>
        rcases List.mem_append.mp member' with earlier' | now'
      · exact history.exclusive _ _ _ _ _ _ earlier earlier' profile epoch
      · exact agree _ _ _ daemon' token' earlier (Prod.mk.inj (List.mem_singleton.mp now')).2.symm
          profile epoch
      · exact (agree _ _ _ daemon token earlier' (Prod.mk.inj (List.mem_singleton.mp now)).2.symm
          profile.symm epoch.symm).symm
      · have first := (Prod.mk.inj (List.mem_singleton.mp now)).2
        have second := (Prod.mk.inj (List.mem_singleton.mp now')).2
        cases first.trans second.symm
        rfl
  exact held

end LeaseWorld

/--
The lease fences its daemons in every interleaving, at every passage of database time.

Between any two states of a run an epoch grows whenever its owner changes, daemons that pass under one
epoch share one owner, and nothing commits under an epoch below one already acquired.
-/
theorem lease_fencing {ι : Type} [DecidableEq ι] {start final : LeaseWorld ι}
    {trace : List (LeaseEvent ι × LeaseOutput ι)} (initial : start.Initial)
    (run : (leaseMachine ι).Run start trace final) :
    (∀ first middle second, (leaseMachine ι).Run start first middle →
      (leaseMachine ι).Run middle second final → middle.FenceAdvances final) ∧
    (∀ event daemon token event' daemon' token', (event, .passed daemon token) ∈ trace →
      (event', .passed daemon' token') ∈ trace → token.profile = token'.profile →
      token.fencingEpoch = token'.fencingEpoch →
      (start.daemons daemon).ownerId = (start.daemons daemon').ownerId) ∧
    ∀ first event daemon token second, trace = first ++ (event, .acquired daemon token) :: second →
      ∀ event' tokens, (event', .committed tokens) ∈ second →
        ∀ held ∈ tokens, held.profile = token.profile → token.fencingEpoch ≤ held.fencingEpoch := by
  obtain ⟨-, -, history⟩ := LeaseWorld.run_history initial run
  refine ⟨fun _ _ _ _ rest => LeaseWorld.run_fenceAdvances rest, ?_, ?_⟩
  · intro event daemon token event' daemon' token' member member' profile epoch
    have same := history.exclusive _ _ _ _ _ _ member member' profile epoch
    rw [(history.recorded _ _ _ member).1, (history.recorded _ _ _ member').1] at same
    exact same
  · rintro first event daemon token second rfl event' tokens member held among profile
    -- Cut the run at the acquisition and again at the commit.
    obtain ⟨before, after, opening, -, acquired, rest⟩ := run.split_at
    obtain ⟨earlier, later, rfl⟩ := List.append_of_mem member
    obtain ⟨middle, next, between, -, committed, -⟩ := rest.split_at
    have taken : (leaseMachine ι).Run start (first ++ [(event, .acquired daemon token)] ++ earlier) middle :=
      .append (.snoc opening trivial acquired) between
    obtain ⟨guarded, -⟩ := LeaseWorld.run_history initial taken
    obtain ⟨transaction, rfl⟩ := LeaseWorld.step_explains committed
    -- The committing transaction still holds its row, and the acquired epoch bounds that row below.
    obtain ⟨-, fenced⟩ := guarded transaction held (.inl among)
    obtain ⟨owner, epoch, seen, lower, -⟩ :=
      LeaseWorld.run_fenceAdvances between _ _ _ (LeaseWorld.step_explains acquired)
    rw [← profile, fenced] at seen
    cases seen
    exact lower

/-- Two daemons of one profile before either has acquired anything. -/
def handoverStart : LeaseWorld Bool where
  daemons second := .connect "che" (if second then "b" else "a") none
  table _ := none
  locks _ := none
  transactions _ := .idle
  requests := []
  replies := []

/-- One daemon commits, its lease runs out, and the other takes over and commits. -/
def handoverEvents : List (LeaseEvent Bool) :=
  [.acquire false, .execute 0 0, .respond 0, .assertActive false (some 0), .execute 0 10, .respond 0,
    .commit 0, .acquire true, .execute 0 40000, .respond 0, .assertActive true (some 1),
    .execute 0 40001, .respond 0, .commit 1]

/-- The handover is a run, and fencing applies to it. -/
theorem lease_fencing_handover :
    handoverStart.Initial ∧ ∃ final trace, (leaseMachine Bool).Run handoverStart trace final ∧
      trace.map Prod.snd = [.quiet, .acquired false ⟨"che", "a", 1⟩, .quiet, .quiet,
        .passed false ⟨"che", "a", 1⟩, .quiet, .committed [⟨"che", "a", 1⟩], .quiet,
        .acquired true ⟨"che", "b", 2⟩, .quiet, .quiet, .passed true ⟨"che", "b", 2⟩, .quiet,
        .committed [⟨"che", "b", 2⟩]] ∧
      handoverStart.FenceAdvances final := by
  have initial : handoverStart.Initial :=
    ⟨fun _ => rfl, fun _ => rfl, fun _ => rfl, rfl, rfl⟩
  have replayed : ∃ final trace,
      (leaseMachine Bool).replay handoverStart handoverEvents = some (final, trace) ∧
      trace.map Prod.snd = [.quiet, .acquired false ⟨"che", "a", 1⟩, .quiet, .quiet,
        .passed false ⟨"che", "a", 1⟩, .quiet, .committed [⟨"che", "a", 1⟩], .quiet,
        .acquired true ⟨"che", "b", 2⟩, .quiet, .quiet, .passed true ⟨"che", "b", 2⟩, .quiet,
        .committed [⟨"che", "b", 2⟩]] := ⟨_, _, rfl, rfl⟩
  obtain ⟨final, trace, replay, outputs⟩ := replayed
  have run := StateMachine.run_of_replay replay
  exact ⟨initial, final, trace, run, outputs, (lease_fencing initial run).1 [] _ trace (.nil _) run⟩

end Sammo
