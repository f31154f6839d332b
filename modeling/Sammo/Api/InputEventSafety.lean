import Sammo.Api.InputEvents

/-! Each request is carried out once at most, and every answer with a value is about that one time. -/

namespace Sammo.InputEvents

variable {β : Type} {durable : β → β}

/-- A row that no call changes any more. -/
def InputEventRow.Final (row : InputEventRow β) : Prop := row.status = .succeeded ∨ row.status = .processing

/-- The options of a call whose transaction is open. -/
def Call.inside : Call β → Option InputEventOptions
  | .working options _ | .committing options _ _ => some options
  | _ => none

/-- The row of an open transaction has the identity of its call. -/
def Call.Owns (durable : β → β) : Call β → Prop
  | .working options row => row.isMatchingIdentity options
  | .committing options row outcome =>
    ∃ before : InputEventRow β, before.isMatchingIdentity options ∧ row = before.settled (outcome.map durable)
  | _ => True

namespace Boundary

/-- What the answer of a call says has been committed, under the options of the call. -/
def Explains (state : Boundary β) (number : Nat) : Call β → Prop
  | .ended options (.executed value) =>
    ∃ done ∈ state.performed, done.call = number ∧ done.options = options ∧ done.value = value
  | .ended options (.replayed result) =>
    ∃ row, state.rows options.requestId = some row ∧ row.status = .succeeded ∧ row.result = result ∧
      row.isMatchingIdentity options
  | _ => True

/-- The journal tells what has been committed since it held the given rows. -/
structure Sound (durable : β → β) (rows : String → Option (InputEventRow β)) (state : Boundary β) : Prop where
  locked : ∀ number call options, state.calls number = some call → call.inside = some options →
    state.rowLock options.requestId = some number
  unsettled : ∀ number call options, state.calls number = some call → call.inside = some options →
    ∀ row, state.rows options.requestId = some row → ¬ row.Final
  owned : ∀ number call, state.calls number = some call → call.Owns durable
  explained : ∀ number call, state.calls number = some call → state.Explains number call
  kept : ∀ id row, rows id = some row → row.Final → state.rows id = some row
  stuck : ∀ id row, state.rows id = some row → row.status = .processing → rows id = some row
  stored : ∀ done ∈ state.performed, ∃ row, state.rows done.options.requestId = some row ∧
    row.status = .succeeded ∧ row.result = some (durable done.value) ∧ row.isMatchingIdentity done.options
  fresh : ∀ done ∈ state.performed, ∀ row, rows done.options.requestId = some row → ¬ row.Final
  once : (state.performed.map fun done => done.options.requestId).Nodup

variable {rows : String → Option (InputEventRow β)} {state next : Boundary β} {number : Nat}
  {options : InputEventOptions} {call : Call β}

theorem sound_initial (nextSequence : Nat) : (initial rows nextSequence).Sound durable rows where
  locked number call options found := by cases found
  unsettled number call options found := by cases found
  owned number call found := by cases found
  explained number call found := by cases found
  kept _ _ found _ := found
  stuck _ _ found _ := found
  stored done member := by cases member
  fresh done member := by cases member
  once := List.nodup_nil

theorem sameJson_toJson (identity : ApiInputPayloadIdentity) : sameJson identity.toJson identity := by
  simp [sameJson, ApiInputPayloadIdentity.toJson, List.lookup_cons, Json.number?, Json.string?]

theorem Sound.quiet (sound : state.Sound durable rows) (journal : next.rows = state.rows)
    (past : next.performed = state.performed) (calls : next.calls = Function.update state.calls number (some call))
    (own : ∀ options, call.inside = some options → next.rowLock options.requestId = some number ∧
      ∀ row, state.rows options.requestId = some row → ¬ row.Final)
    (others : ∀ other id, other ≠ number → state.rowLock id = some other → next.rowLock id = some other)
    (owns : call.Owns durable) (explains : state.Explains number call) : next.Sound durable rows := by
  have same (other : Nat) (held : Call β) : next.Explains other held ↔ state.Explains other held := by
    unfold Explains
    rw [journal, past]
  constructor
  case kept => rw [journal]; exact sound.kept
  case stuck => rw [journal]; exact sound.stuck
  case stored => rw [journal, past]; exact sound.stored
  case fresh => rw [past]; exact sound.fresh
  case once => rw [past]; exact sound.once
  -- What is left is about the calls: the one that goes on, and the others.
  all_goals
    intro other held
    rw [calls, Function.update_apply]
  case locked =>
    intro options
    split
    · rename_i itself
      rintro ⟨⟩ open_
      exact itself ▸ (own options open_).1
    · rename_i different
      exact fun found open_ => others other _ different (sound.locked other held options found open_)
  case unsettled =>
    intro options
    rw [journal]
    split
    · rintro ⟨⟩ open_
      exact (own options open_).2
    · exact sound.unsettled other held options
  case owned =>
    split
    · rintro ⟨⟩
      exact owns
    · exact sound.owned other held
  case explained =>
    rw [same]
    split
    · rename_i itself
      rintro ⟨⟩
      exact itself ▸ explains
    · exact sound.explained other held

theorem Sound.store (sound : state.Sound durable rows) {id : String} (row : InputEventRow β)
    (performed : List (Performed β)) (unheld : ∀ number call options, state.calls number = some call →
      call.inside = some options → options.requestId ≠ id)
    (open_ : ∀ before, state.rows id = some before → ¬ before.Final) (done : row.status ≠ .processing)
    (more : ∀ done ∈ performed, done.options.requestId = id ∧ row.status = .succeeded ∧
      row.result = some (durable done.value) ∧ row.isMatchingIdentity done.options)
    (single : performed.length ≤ 1) :
    ({ state with rows := Function.update state.rows id (some row)
                  performed := state.performed ++ performed } : Boundary β).Sound durable rows := by
  -- A final row is another one, so it stays.
  have stays {other : String} {before : InputEventRow β} (found : state.rows other = some before)
      (final : before.Final) : Function.update state.rows id (some row) other = some before := by
    rw [Function.update_apply, if_neg]
    · exact found
    · rintro rfl
      exact open_ before found final
  have elsewhere (done : Performed β) (member : done ∈ state.performed) : done.options.requestId ≠ id := by
    rintro rfl
    obtain ⟨before, found, succeeded, -⟩ := sound.stored done member
    exact open_ before found (.inl succeeded)
  constructor
  case locked => exact sound.locked
  case owned => exact sound.owned
  case unsettled =>
    intro number call options found inside
    dsimp only
    rw [Function.update_of_ne (unheld number call options found inside)]
    exact sound.unsettled number call options found inside
  case explained =>
    intro number call found
    have before := sound.explained number call found
    unfold Explains at before ⊢
    split at before
    · obtain ⟨done, member, rest⟩ := before
      exact ⟨done, List.mem_append_left _ member, rest⟩
    · obtain ⟨row, found, succeeded, rest⟩ := before
      exact ⟨row, stays found (.inl succeeded), succeeded, rest⟩
    · trivial
  case kept => exact fun other before found final => stays (sound.kept other before found final) final
  case stuck =>
    intro other before found processing
    dsimp only at found
    rw [Function.update_apply] at found
    split at found
    · cases found
      exact (done processing).elim
    · exact sound.stuck other before found processing
  case stored =>
    intro entry member
    rcases List.mem_append.mp member with old | new
    · obtain ⟨before, found, succeeded, rest⟩ := sound.stored entry old
      exact ⟨before, stays found (.inl succeeded), succeeded, rest⟩
    · obtain ⟨itself, rest⟩ := more entry new
      exact ⟨row, itself ▸ Function.update_self .., rest⟩
  case fresh =>
    intro entry member before found final
    rcases List.mem_append.mp member with old | new
    · exact sound.fresh entry old before found final
    · rw [(more entry new).1] at found
      exact open_ before (sound.kept id before found final) final
  case once =>
    rw [List.map_append, List.nodup_append]
    refine ⟨sound.once, ?_, ?_⟩
    · match performed, single with
      | [], _ => exact List.nodup_nil
      | [_], _ => simp
    · intro left old right new
      obtain ⟨first, isOld, rfl⟩ := List.mem_map.mp old
      obtain ⟨second, isNew, rfl⟩ := List.mem_map.mp new
      rw [(more second isNew).1]
      exact elsewhere first isOld

theorem Sound.alone (sound : state.Sound durable rows) (found : state.calls number = some call)
    (inside : call.inside = some options) {other : Nat} {held : Call β} {theirs : InputEventOptions}
    (also : state.calls other = some held) (open_ : held.inside = some theirs)
    (same : theirs.requestId = options.requestId) : other = number := by
  have own := sound.locked number call options found inside
  have their := sound.locked other held theirs also open_
  rw [same, own] at their
  exact (Option.some.inj their).symm

theorem Sound.released (sound : state.Sound durable rows) (found : state.calls number = some call)
    (inside : call.inside = some options) (other : Nat) (id : String) (different : other ≠ number)
    (held : state.rowLock id = some other) : (state.lockedBy options none).rowLock id = some other := by
  have own := sound.locked number call options found inside
  unfold lockedBy
  dsimp only
  rw [Function.update_of_ne]
  · exact held
  · rintro rfl
    rw [own] at held
    exact different (Option.some.inj held).symm

theorem unlocked_of_free (available : state.free options) : state.rowLock options.requestId = none := by
  simp only [free, Option.isNone_iff_eq_none, decide_eq_true_eq] at available
  exact available.1

theorem Sound.unheld (sound : state.Sound durable rows) (available : state.free options)
    (number : Nat) (call : Call β) (theirs : InputEventOptions) (found : state.calls number = some call)
    (inside : call.inside = some theirs) : theirs.requestId ≠ options.requestId := by
  intro same
  have held := sound.locked number call theirs found inside
  rw [same, unlocked_of_free available] at held
  cases held

theorem Sound.begin (sound : state.Sound durable rows) (available : state.free options)
    {row : InputEventRow β} (matching : row.isMatchingIdentity options) (nextSequence : Nat)
    (unsettled : ∀ row, state.rows options.requestId = some row → ¬ row.Final) :
    ((({ state with nextSequence } : Boundary β).lockedBy options (some number)).goOn number
      (.working options row)).Sound durable rows := by
  refine sound.quiet rfl rfl rfl ?_ ?_ matching trivial
  · rintro _ ⟨⟩
    exact ⟨Function.update_self .., unsettled⟩
  · intro other id _ held
    show Function.update state.rowLock _ _ id = _
    rw [Function.update_of_ne]
    · exact held
    · rintro rfl
      rw [unlocked_of_free available] at held
      cases held

theorem claimed_matches {row : InputEventRow β} (base : row.hasMatchingBaseIdentity options) :
    (row.claimed options).isMatchingIdentity options := by
  simp only [InputEventRow.isMatchingIdentity, InputEventRow.claimed, sameJson_toJson]
  simpa [InputEventRow.hasMatchingBaseIdentity] using base

theorem Sound.enter (sound : state.Sound durable rows) (available : state.free options) :
    (state.enter number options).Sound durable rows := by
  have refused : (({ state with nextSequence := state.nextSequence + 1 } : Boundary β).goOn number
      (.ended options .duplicate)).Sound durable rows :=
    sound.quiet rfl rfl rfl nofun (fun _ _ _ held => held) trivial trivial
  -- Without a row the call finds the one that it has entered itself.
  have origin : state.rows options.requestId = some (state.insertPendingIfAbsent options) ∨
      state.rows options.requestId = none ∧
        state.insertPendingIfAbsent options = .entered state.nextSequence options := by
    unfold insertPendingIfAbsent
    cases state.rows options.requestId with
    | none => exact .inr ⟨rfl, rfl⟩
    | some row => exact .inl rfl
  unfold Boundary.enter
  dsimp only
  split
  · rename_i succeeded
    split
    · rename_i matching
      rcases origin with found | ⟨-, entered⟩
      · exact sound.quiet rfl rfl rfl nofun (fun _ _ _ held => held) trivial ⟨_, found, succeeded, rfl, matching⟩
      · rw [entered] at succeeded
        cases succeeded
    · exact refused
  · rename_i unsuccessful
    split
    · exact refused
    · rename_i idle
      split
      · exact refused
      · rename_i admitted
        -- A row that is taken over is of the same kind of event of the same actor.
        have base : (state.insertPendingIfAbsent options).hasMatchingBaseIdentity options = true := by
          by_contra other
          simp [InputEventRow.isMatchingIdentity, InputEventRow.canAdoptLegacyFailedPayload, other] at admitted
        refine sound.begin available (claimed_matches base) _ ?_
        intro row found final
        rcases origin with seen | ⟨absent, -⟩
        · cases found.symm.trans seen
          exact final.elim unsuccessful idle
        · cases found.symm.trans absent

theorem Sound.commit (sound : state.Sound durable rows) {row : InputEventRow β} {outcome : Except String β}
    (found : state.calls number = some (.committing options row outcome)) (heard : Bool) :
    (((state.committed number options row outcome).lockedBy options none).goOn number
      (if heard then .ended options (answerOf outcome) else .unwinding options "The connection was lost.")).Sound
      durable rows := by
  obtain ⟨before, matching, rfl⟩ := sound.owned number _ found
  have unsettled := sound.unsettled number _ options found rfl
  -- The locks are given back first, then the row is stored, and then the caller hears of it.
  let given := (state.lockedBy options none).goOn number (.unwinding options "")
  have free_ : given.Sound durable rows := sound.quiet rfl rfl rfl nofun (sound.released found rfl) trivial trivial
  have unheld : ∀ other call theirs, given.calls other = some call → call.inside = some theirs →
      theirs.requestId ≠ options.requestId := by
    intro other call theirs also inside same
    simp only [given, goOn, Function.update_apply] at also
    split at also
    · cases also
      cases inside
    · rename_i different
      exact different (sound.alone found rfl also inside same)
  have identity (settled : Except String β) : (before.settled settled).isMatchingIdentity options = true := by
    cases settled <;> exact matching
  cases outcome with
  | error message =>
    have stored := free_.store (before.settled (.error message)) [] unheld unsettled nofun nofun
      (Nat.zero_le 1)
    rw [List.append_nil] at stored
    cases heard
    · exact stored.quiet rfl rfl (Function.update_idem ..).symm nofun (fun _ _ _ held => held) trivial trivial
    · exact stored.quiet rfl rfl (Function.update_idem ..).symm nofun (fun _ _ _ held => held) trivial trivial
  | ok value =>
    have stored := free_.store (before.settled (.ok (durable value)))
      [⟨number, options, before.sequence, before.attempts, value⟩] unheld unsettled nofun
      (by simpa using ⟨rfl, rfl, identity _⟩) (Nat.le_refl 1)
    cases heard
    · exact stored.quiet rfl rfl (Function.update_idem ..).symm nofun (fun _ _ _ held => held) trivial trivial
    · refine stored.quiet rfl rfl (Function.update_idem ..).symm nofun (fun _ _ _ held => held) trivial ?_
      exact ⟨_, List.mem_append_right _ List.mem_cons_self, rfl, rfl, rfl⟩

theorem Sound.recorded (sound : state.Sound durable rows) (available : state.free options) (error : String) :
    (state.markUnexpectedFailure options error).Sound durable rows := by
  have open_ : ∀ row, state.rows options.requestId = some row → state.insertPendingIfAbsent options = row := by
    intro row found
    simp [insertPendingIfAbsent, found]
  have later (journal : Boundary β) (held : journal.Sound durable rows) (nextSequence : Nat) :
      ({ journal with nextSequence } : Boundary β).Sound durable rows :=
    ⟨held.locked, held.unsettled, held.owned, held.explained, held.kept, held.stuck, held.stored, held.fresh, held.once⟩
  unfold markUnexpectedFailure
  dsimp only
  split
  · exact later state sound _
  · rename_i admitted
    have stored := sound.store ((state.insertPendingIfAbsent options).failedUnexpectedly options error) []
      (sound.unheld available)
      (fun row found final => admitted (.inr (open_ row found ▸ final))) nofun nofun (Nat.zero_le 1)
    rw [List.append_nil] at stored
    exact later _ stored _

theorem Sound.step (sound : state.Sound durable rows) {event : Event β} {output : Unit}
    (stepped : (machine durable).step state event = some (next, output)) : next.Sound durable rows := by
  have ends {number : Nat} {call : Call β} (outside : call.inside = none) (owns : call.Owns durable)
      (explains : state.Explains number call) : (state.goOn number call).Sound durable rows :=
    sound.quiet rfl rfl rfl (by simp [outside]) (fun _ _ _ held => held) owns explains
  have gives {number : Nat} {call held : Call β} {options : InputEventOptions} (found : state.calls number = some held)
      (inside : held.inside = some options) (outside : call.inside = none) (owns : call.Owns durable)
      (explains : state.Explains number call) :
      ((state.lockedBy options none).goOn number call).Sound durable rows :=
    sound.quiet rfl rfl rfl (by simp [outside]) (sound.released found inside) owns explains
  simp only [machine, Boundary.step] at stepped
  split at stepped
  case h_1 number options =>
    split at stepped
    · cases stepped
      exact ends rfl trivial trivial
    · cases stepped
  case h_2 number =>
    split at stepped
    · split at stepped
      · rename_i available
        cases stepped
        exact sound.enter available
      · cases stepped
    · cases stepped
  case h_3 number outcome =>
    split at stepped
    · rename_i options row found
      cases stepped
      have owned := sound.owned number _ found
      refine sound.quiet rfl rfl rfl ?_ (fun _ _ _ held => held) ⟨row, owned, rfl⟩ trivial
      rintro _ ⟨⟩
      exact ⟨sound.locked number _ options found rfl, sound.unsettled number _ options found rfl⟩
    · cases stepped
  case h_4 number heard =>
    split at stepped
    · rename_i found
      cases stepped
      exact sound.commit found heard
    · cases stepped
  case h_5 number error =>
    split at stepped
    · cases stepped
      exact ends rfl trivial trivial
    · rename_i found
      cases stepped
      exact gives found rfl rfl trivial trivial
    · rename_i found
      cases stepped
      exact gives found rfl rfl trivial trivial
    · cases stepped
  case h_6 number stored =>
    split at stepped
    · rename_i options error found
      split at stepped
      · cases stepped
        exact ends rfl trivial trivial
      · split at stepped
        · rename_i available
          cases stepped
          exact (sound.recorded available error).quiet rfl rfl rfl nofun (fun _ _ _ held => held) trivial trivial
        · cases stepped
    · cases stepped
  case h_7 number =>
    split at stepped
    · rename_i found
      cases stepped
      exact gives found rfl rfl trivial trivial
    · rename_i found
      cases stepped
      exact gives found rfl rfl trivial trivial
    · cases stepped
      exact ends rfl trivial trivial
    · cases stepped
      exact ends rfl trivial trivial
    · cases stepped

theorem sound_of_run {nextSequence : Nat} {trace : List (Event β × Unit)}
    (run : (machine durable).Run (initial rows nextSequence) trace next) : next.Sound durable rows :=
  run.stateInvariant (sound_initial nextSequence) fun _ _ _ _ sound _ stepped => sound.step stepped

end Boundary

end Sammo.InputEvents
