import Sammo.Realtime.ChangeJournal

/-! A journal has one normal form, whatever the order of its marks, and its payload reads back as that form. -/

namespace Sammo.ReadModelOutbox

/-! ### The lock order -/

/-- A key as a pair in the order of the locks. -/
def ReadModelRevisionKey.rank (key : ReadModelRevisionKey) : String ×ₗ Nat := toLex (key.domain.name, key.entityId)

/-- Domains are found by their names. -/
@[simp]
theorem readModelDomain?_name (domain : ReadModelDomain) : readModelDomain? domain.name = some domain := by
  cases domain <;> decide

theorem rank_injective : Function.Injective ReadModelRevisionKey.rank := by
  rintro ⟨domain, id⟩ ⟨other, number⟩ same
  obtain ⟨names, rfl⟩ := Prod.mk.inj (toLex.injective same)
  -- A domain can be told by its name.
  have found : some domain = some other := by
    rw [← readModelDomain?_name, ← readModelDomain?_name]
    exact congrArg readModelDomain? names
  rw [Option.some.inj found]

theorem comesFirst_iff {left right : ReadModelRevisionKey} : comesFirst left right ↔ left.rank ≤ right.rank := by
  simp only [comesFirst, ReadModelRevisionKey.rank, Prod.Lex.toLex_le_toLex]

/-- One key is locked before another. -/
def Before (left right : ReadModelRevisionKey) : Prop := left.rank < right.rank

instance : Std.Irrefl Before := ⟨fun key => lt_irrefl key.rank⟩

instance : Std.Antisymm Before := ⟨fun _ _ before after => absurd before (lt_asymm after)⟩

instance : Std.Total comesFirst := ⟨fun left right => by
  simpa only [comesFirst_iff] using le_total left.rank right.rank⟩

instance : IsTrans ReadModelRevisionKey comesFirst := ⟨fun first second third => by
  simpa only [comesFirst_iff] using le_trans (a := first.rank) (b := second.rank) (c := third.rank)⟩

theorem pairwise_before {keys : List ReadModelRevisionKey} (unique : keys.Nodup) :
    (keys.insertionSort comesFirst).Pairwise Before := by
  have sorted := List.pairwise_insertionSort comesFirst keys
  have apart : (keys.insertionSort comesFirst).Nodup := (List.perm_insertionSort comesFirst keys).nodup_iff.mpr unique
  exact (sorted.and apart).imp fun both =>
    lt_of_le_of_ne (comesFirst_iff.mp both.1) fun same => both.2 (rank_injective same)

theorem normalize_canonical (keys : List ReadModelRevisionKey) :
    (normalizeReadModelRevisionKeys keys).Pairwise Before ∧
      ∀ key, key ∈ normalizeReadModelRevisionKeys keys ↔ key ∈ keys :=
  ⟨pairwise_before (List.nodup_dedup keys), fun key => by
    rw [normalizeReadModelRevisionKeys, List.mem_insertionSort, List.mem_dedup]⟩

theorem eq_normalize {keys normal : List ReadModelRevisionKey} (sorted : normal.Pairwise Before)
    (same : ∀ key, key ∈ normal ↔ key ∈ keys) : normal = normalizeReadModelRevisionKeys keys :=
  sorted.eq_of_mem_iff (normalize_canonical keys).1 fun key =>
    (same key).trans ((normalize_canonical keys).2 key).symm

/-! ### Checks -/

/-- The number of an entity reads back. -/
@[simp]
theorem entityId?_num (id : EntityId) : entityId? (.num (id : Nat)) = some id := by
  obtain ⟨id, small⟩ := id
  have safe : isSafeInteger id := ⟨by omega, by omega⟩
  have read : Json.safeInteger? (.num (id : ℚ)) = some (id : Int) := by
    rw [Json.safeInteger?, Rat.den_natCast, Rat.num_natCast, if_pos ⟨rfl, safe⟩]
  simp [entityId?, read, small]

/-- A key that has been checked passes the checks again. -/
@[simp]
theorem assertRevisionKey_marked (checked : CheckedKey) : assertRevisionKey checked.marked = .ok checked := by
  simp [assertRevisionKey, CheckedKey.marked]

theorem mapM_marked (checked : List CheckedKey) :
    (checked.map CheckedKey.marked).mapM assertRevisionKey = .ok checked := by
  induction checked with
  | nil => rfl
  | cons first rest ih => rw [List.map_cons, List.mapM_cons, assertRevisionKey_marked, ih]; rfl

theorem key_injective : Function.Injective CheckedKey.key := by
  rintro ⟨domain, id⟩ ⟨other, number⟩ same
  obtain ⟨domains, ids⟩ := ReadModelRevisionKey.mk.inj same
  exact Prod.ext domains (Subtype.ext ids)

theorem map_sorted (checked : List CheckedKey) :
    (checked.map CheckedKey.key).insertionSort comesFirst =
      (checked.insertionSort fun left right => comesFirst left.key right.key).map CheckedKey.key :=
  (List.map_insertionSort (fun left right : CheckedKey => comesFirst left.key right.key) comesFirst CheckedKey.key
    checked fun _ _ _ _ => Iff.rfl).symm

namespace ChangeJournal

variable {journal other : ChangeJournal} {checked : CheckedKey}

theorem mem_listed : checked ∈ journal.listed ↔ ∃ ids, journal.get? checked.1 = some ids ∧ checked.2 ∈ ids := by
  simp only [listed, List.mem_flatMap, List.mem_map, Prod.exists, ← OrderedMap.mem_entries]
  constructor
  · rintro ⟨domain, ids, entry, id, member, rfl⟩
    exact ⟨ids, entry, member⟩
  · rintro ⟨ids, entry, member⟩
    exact ⟨checked.1, ids, entry, checked.2, member, rfl⟩

theorem listed_nodup (journal : ChangeJournal) : journal.listed.Nodup := by
  refine List.nodup_flatMap.mpr ⟨fun entry _ => ?_, ?_⟩
  · exact entry.2.nodup.map fun id number same => (Prod.mk.inj same).2
  · -- Keys of different entries differ in their domains.
    refine (List.pairwise_map.mp journal.nodup).imp fun apart key left right => ?_
    obtain ⟨_, _, rfl⟩ := List.mem_map.mp left
    obtain ⟨_, _, same⟩ := List.mem_map.mp right
    exact apart (Prod.mk.inj same).1.symm

theorem mem_record {added : CheckedKey} :
    checked ∈ (journal.record added).listed ↔ checked = added ∨ checked ∈ journal.listed := by
  simp only [mem_listed, record, OrderedMap.get?_set]
  by_cases same : checked.1 = added.1
  · rw [if_pos same]
    -- In the domain of the mark there are the entities from before and the one marked.
    have ids : (∃ ids, journal.get? checked.1 = some ids ∧ checked.2 ∈ ids) ↔
        checked.2 ∈ (journal.get? added.1).getD .empty := by
      rw [same]
      cases journal.get? added.1 <;> simp
    rw [ids]
    simp [Prod.ext_iff, same]
  · rw [if_neg same]
    simp [Prod.ext_iff, same]

theorem mem_foldl_record {marks : List CheckedKey} :
    checked ∈ (marks.foldl record journal).listed ↔ checked ∈ marks ∨ checked ∈ journal.listed := by
  induction marks generalizing journal with
  | nil => simp
  | cons first rest ih => rw [List.foldl_cons, ih, mem_record, List.mem_cons]; tauto

@[simp]
theorem listed_empty : listed OrderedMap.empty = [] := rfl

theorem foldlM_markKey (keys : List MarkedKey) (journal : ChangeJournal) :
    keys.foldlM markKey journal = (keys.mapM assertRevisionKey).map (List.foldl record journal) := by
  induction keys generalizing journal with
  | nil => rfl
  | cons key rest ih =>
    rw [List.foldlM_cons, List.mapM_cons, markKey]
    cases assertRevisionKey key with
    | error error => rfl
    | ok checked =>
      change rest.foldlM markKey (journal.record checked) = _
      rw [ih]
      cases rest.mapM assertRevisionKey <;> rfl

theorem normalize_eq (keys : List MarkedKey) :
    normalizeReadModelRevisionKeys keys = (keys.mapM assertRevisionKey).map fun checked =>
      ReadModelOutbox.normalizeReadModelRevisionKeys (checked.map CheckedKey.key) := by
  rw [normalizeReadModelRevisionKeys, foldlM_markKey]
  cases keys.mapM assertRevisionKey with
  | error error => rfl
  | ok checked =>
    -- What is listed is without repetition, and it is the keys that were checked.
    refine congrArg Except.ok (eq_normalize (pairwise_before ((listed_nodup _).map key_injective)) fun key => ?_)
    simp only [List.mem_insertionSort, List.mem_map, mem_foldl_record, listed_empty, List.not_mem_nil, or_false]

theorem normalize_listed (journal : ChangeJournal) :
    ReadModelOutbox.normalizeReadModelRevisionKeys (journal.listed.map CheckedKey.key) =
      (journal.listed.insertionSort fun left right => comesFirst left.key right.key).map CheckedKey.key := by
  rw [ReadModelOutbox.normalizeReadModelRevisionKeys, List.Nodup.dedup ((listed_nodup _).map key_injective)]
  exact map_sorted _

theorem snapshot_eq (journal : ChangeJournal) :
    journal.snapshot = .ok (ReadModelOutbox.normalizeReadModelRevisionKeys (journal.listed.map CheckedKey.key)) := by
  rw [snapshot, normalize_eq, mapM_marked]
  rfl

theorem markAll_eq (keys : List MarkedKey) (journal : ChangeJournal) :
    match keys.mapM assertRevisionKey with
    | .ok checked => journal.markAll keys = (checked.foldl record journal, none)
    | .error error => (journal.markAll keys).2 = some error := by
  induction keys generalizing journal with
  | nil => rfl
  | cons key rest ih =>
    rw [List.mapM_cons, markAll, markKey]
    cases assertRevisionKey key with
    | error error => rfl
    | ok checked =>
      have later := ih (journal.record checked)
      cases found : rest.mapM assertRevisionKey <;> rw [found] at later <;> exact later

end ChangeJournal

/-! ### The payload -/

theorem toDigits_shape (number : Nat) :
    ∃ first rest, Nat.toDigits 10 number = first :: rest ∧ (first = '0' → number = 0) := by
  induction number using Nat.strongRecOn with
  | _ number ih =>
    by_cases small : number < 10
    · have zeros : ∀ digit < 10, Nat.digitChar digit = '0' → digit = 0 := by decide
      exact ⟨_, _, Nat.toDigits_of_lt_base small, zeros number small⟩
    · -- The first digit is the first of those before the last.
      obtain ⟨first, rest, shape, zero⟩ := ih (number / 10) (by omega)
      refine ⟨first, rest ++ [Nat.digitChar (number % 10)], ?_, fun lead => ?_⟩
      · rw [Nat.toDigits_of_base_le (by decide) (by omega), shape, List.cons_append]
      · have := zero lead
        omega

theorem isRevision_toString (number : Nat) : isRevision (toString number) = true := by
  have digits : (toString number).toList = Nat.toDigits 10 number := Nat.toList_repr
  obtain ⟨first, rest, shape, zero⟩ := toDigits_shape number
  have plain : ∀ sign ∈ first :: rest, sign.isDigit = true := fun sign member =>
    Nat.isDigit_of_mem_toDigits (by decide) (by decide) (shape ▸ member)
  rw [isRevision, digits, shape]
  by_cases lead : first = '0'
  · have alone : rest = [] := by
      rw [zero lead, Nat.toDigits_zero] at shape
      exact (List.cons.inj shape).2.symm
    simp [lead, alone]
  · simpa [lead] using plain

theorem parseChange_json (change : OutboxChange) (number : isRevision change.revision = true) :
    parseChange (.arr [.str change.domain.name, .num (change.entityId : Nat), .str change.revision]) =
      some change := by
  simp [parseChange, number]

theorem parse_payloadJson {changes : List OutboxChange}
    (numbers : ∀ change ∈ changes, isRevision change.revision = true) :
    parseReadModelOutboxPayload (payloadJson changes) = some changes := by
  have read : (changes.map fun change => Json.arr
      [.str change.domain.name, .num (change.entityId : Nat), .str change.revision]).mapM parseChange =
      some changes := by
    induction changes with
    | nil => rfl
    | cons first rest ih =>
      obtain ⟨number, numbers⟩ := List.forall_mem_cons.mp numbers
      rw [List.map_cons, List.mapM_cons, parseChange_json first number, ih numbers]
      rfl
  exact read

theorem parse_create {records order : List CheckedKey} (sorted : (records.map CheckedKey.key).Pairwise Before)
    (perm : order.Perm records) (revision : CheckedKey → Nat) :
    parseReadModelOutboxPayload
        (payloadJson (createReadModelOutboxPayload (order.map fun checked => (checked, revision checked)))) =
      some (records.map fun checked => ⟨checked.1, checked.2, toString (revision checked)⟩) := by
  have lined : order.insertionSort (fun left right => comesFirst left.key right.key) = records := by
    -- Both are in the order of the locks, which leaves one way to list the same keys.
    refine List.map_injective_iff.mpr key_injective ?_
    rw [← map_sorted]
    refine (pairwise_before ?_).eq_of_mem_iff sorted fun key => ?_
    · exact (perm.map _).nodup_iff.mpr sorted.nodup
    · rw [List.mem_insertionSort, (perm.map _).mem_iff]
  have created : createReadModelOutboxPayload (order.map fun checked => (checked, revision checked)) =
      records.map fun checked => ⟨checked.1, checked.2, toString (revision checked)⟩ := by
    rw [createReadModelOutboxPayload, ← lined]
    rw [← List.map_insertionSort (fun left right => comesFirst left.key right.key) _ _ _ fun _ _ _ _ => Iff.rfl]
    rw [List.map_map]
    rfl
  rw [created]
  refine parse_payloadJson fun change member => ?_
  obtain ⟨checked, _, rfl⟩ := List.mem_map.mp member
  exact isRevision_toString _

/--
The normal form of a journal.

It is in strict order and lists what was marked, it does not depend on the order of the marks, and a
payload made of it reads back as it.
-/
theorem change_journal_canonical :
    (∀ keys checked, keys.mapM assertRevisionKey = .ok checked → ∃ normal,
      ChangeJournal.normalizeReadModelRevisionKeys keys = .ok normal ∧
      (ChangeJournal.markAll OrderedMap.empty keys).1.snapshot = .ok normal ∧
      normal.Pairwise Before ∧ ∀ key, key ∈ normal ↔ key ∈ checked.map CheckedKey.key) ∧
    (∀ keys error, keys.mapM assertRevisionKey = .error error →
      ChangeJournal.normalizeReadModelRevisionKeys keys = .error error ∧
      ∀ journal : ChangeJournal, (journal.markAll keys).2 = some error) ∧
    (∀ journal other : ChangeJournal, (∀ checked, checked ∈ journal.listed ↔ checked ∈ other.listed) →
      journal.snapshot = other.snapshot) ∧
    ∀ journal : ChangeJournal, ∃ records : List CheckedKey,
      journal.snapshot = .ok (records.map CheckedKey.key) ∧
      (records.map CheckedKey.key).Pairwise Before ∧ (∀ checked, checked ∈ records ↔ checked ∈ journal.listed) ∧
      ∀ order : List CheckedKey, order.Perm records → ∀ revision : CheckedKey → Nat,
        parseReadModelOutboxPayload
            (payloadJson (createReadModelOutboxPayload (order.map fun checked => (checked, revision checked)))) =
          some (records.map fun checked => ⟨checked.1, checked.2, toString (revision checked)⟩) := by
  refine ⟨fun keys checked passed => ?_, fun keys error failed => ?_, fun journal other same => ?_, fun journal => ?_⟩
  · have marked := ChangeJournal.markAll_eq keys OrderedMap.empty
    rw [passed] at marked
    refine ⟨_, by rw [ChangeJournal.normalize_eq, passed]; rfl, ?_, normalize_canonical _⟩
    rw [marked, ChangeJournal.snapshot_eq]
    -- The journal of these marks lists the keys that were checked.
    refine congrArg Except.ok (eq_normalize (normalize_canonical _).1 fun key => ?_)
    simp [(normalize_canonical _).2, ChangeJournal.mem_foldl_record]
  · refine ⟨by rw [ChangeJournal.normalize_eq, failed]; rfl, fun journal => ?_⟩
    have reported := ChangeJournal.markAll_eq keys journal
    rwa [failed] at reported
  · rw [ChangeJournal.snapshot_eq, ChangeJournal.snapshot_eq]
    refine congrArg Except.ok (eq_normalize (normalize_canonical _).1 fun key => ?_)
    simp [(normalize_canonical _).2, same]
  · have sorted := (normalize_canonical (journal.listed.map CheckedKey.key)).1
    rw [ChangeJournal.normalize_listed] at sorted
    exact ⟨_, by rw [ChangeJournal.snapshot_eq, ChangeJournal.normalize_listed], sorted,
      fun checked => List.mem_insertionSort _, fun order perm revision => parse_create sorted perm revision⟩

end Sammo.ReadModelOutbox
