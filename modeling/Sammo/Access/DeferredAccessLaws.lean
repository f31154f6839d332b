import Sammo.Access.DeferredAccess

/-! What holds of the deferred counters along every run: each access is counted once at most, in the batch it became. -/

namespace Sammo.DeferredAccess

/-- The weight that some accesses have for a general. -/
def weightOf (contributions : List Contribution) (generalId : Int) : Int :=
  match contributions with
  | [] => 0
  | contribution :: rest =>
    (if contribution.generalId = generalId then contribution.weight else 0) + weightOf rest generalId

theorem weightOf_append (first second : List Contribution) (generalId : Int) :
    weightOf (first ++ second) generalId = weightOf first generalId + weightOf second generalId := by
  induction first with
  | nil => simp [weightOf]
  | cons contribution rest ih =>
    simp only [List.cons_append, weightOf, ih]
    omega

theorem weightOf_singleton (contribution : Contribution) (generalId : Int) :
    weightOf [contribution] generalId = if contribution.generalId = generalId then contribution.weight else 0 := by
  simp [weightOf]

theorem weightOf_filter (contributions : List Contribution) (generals : List Int) (generalId : Int) :
    weightOf (contributions.filter fun contribution => contribution.generalId ∈ generals) generalId =
      if generalId ∈ generals then weightOf contributions generalId else 0 := by
  induction contributions with
  | nil => simp [weightOf]
  | cons contribution rest ih =>
    -- An access is left out of the sum when it is of another general, or when its general is not picked.
    by_cases picked : contribution.generalId ∈ generals
    · rw [List.filter_cons_of_pos (by simpa using picked), weightOf, weightOf, ih]
      by_cases own : contribution.generalId = generalId
      · have here : generalId ∈ generals := own ▸ picked
        simp [own, here]
      · simp [own]
    · rw [List.filter_cons_of_neg (by simpa using picked), weightOf, ih]
      by_cases own : contribution.generalId = generalId
      · have absent : generalId ∉ generals := own ▸ picked
        simp [absent]
      · simp [own]

/-- A hash is the sum of its accesses, and it expires within a day. -/
structure AccessHash.Sound (hash : AccessHash) (now : Int) : Prop where
  adds : ∀ generalId, hash.weight generalId = weightOf hash.contributions generalId
  expires : hash.expiresAt ≤ now + activeBatchTtlMs

theorem AccessHash.empty_sound (now : Int) : (AccessHash.empty now).Sound now where
  adds := fun _ => rfl
  expires := by
    show now ≤ now + activeBatchTtlMs
    unfold activeBatchTtlMs
    omega

variable {hash : AccessHash} {state next : State} {event : Event} {worker : Nat}

theorem AccessHash.Sound.enqueue {now : Int} (sound : hash.Sound now) (contribution : Contribution)
    (userId : String) (time : Int) : (hash.enqueue now contribution userId time).Sound now where
  adds := by
    intro generalId
    -- Only the field of the access's own general changes.
    have before := sound.adds contribution.generalId
    have other := sound.adds generalId
    unfold AccessHash.weight at before other ⊢
    simp only [AccessHash.enqueue, OrderedMap.get?_set, weightOf_append, weightOf_singleton]
    by_cases own : generalId = contribution.generalId
    · subst own
      rw [if_pos rfl, if_pos rfl, ← before]
      cases hash.fields.get? contribution.generalId <;> simp [PendingAccess.add]
    · rw [if_neg own, if_neg (Ne.symm own), other, Int.add_zero]
  expires := le_rfl

theorem AccessHash.Sound.later {now later : Int} (sound : hash.Sound now) (passed : now ≤ later) :
    hash.Sound later where
  adds := sound.adds
  expires := sound.expires.trans (by omega)

/-- What a worker has read of a batch adds up to accesses of the batch. -/
structure Reading.Sound (reading : Reading) (rotated : List Contribution) (now : Int) : Prop where
  part : reading.contributions.Sublist rotated
  adds : ∀ entry ∈ reading.entries, entry.weight = weightOf reading.contributions entry.generalId
  distinct : (reading.entries.map Entry.generalId).Nodup
  readAt : reading.readAt ≤ now

theorem parseFields_eq {generalId : Int} {pending : PendingAccess} {entry : Entry}
    (parsed : parseFields generalId pending = some entry) :
    entry.generalId = generalId ∧ entry.weight = pending.weight := by
  unfold parseFields at parsed
  split at parsed
  · obtain rfl := Option.some.inj parsed
    exact ⟨rfl, rfl⟩
  · cases parsed

theorem parseBatchHash_weight {entry : Entry} (member : entry ∈ parseBatchHash (some hash)) :
    entry.weight = hash.weight entry.generalId := by
  have parsed := (List.mem_insertionSort entryLe).mp member
  obtain ⟨⟨generalId, pending⟩, inside, found⟩ := List.mem_filterMap.mp parsed
  obtain ⟨rfl, weight⟩ := parseFields_eq found
  rw [AccessHash.weight, OrderedMap.mem_entries.mp inside]
  exact weight

theorem parseBatchHash_nodup (hash : AccessHash) : ((parseBatchHash (some hash)).map Entry.generalId).Nodup := by
  have sorted := (List.perm_insertionSort entryLe
    (hash.fields.entries.filterMap fun field => parseFields field.1 field.2)).map Entry.generalId
  refine sorted.nodup_iff.mpr ?_
  -- A field gives its own general to its entry, so the generals of the entries are among the fields' ones.
  have among : ((hash.fields.entries.filterMap fun field => parseFields field.1 field.2).map Entry.generalId).Sublist
      (hash.fields.entries.map Prod.fst) := by
    induction hash.fields.entries with
    | nil => exact .slnil
    | cons field rest ih =>
      cases parsed : parseFields field.1 field.2 with
      | none =>
        simp only [List.filterMap_cons, parsed]
        exact ih.cons _
      | some entry =>
        simp only [List.filterMap_cons, parsed, List.map_cons, (parseFields_eq parsed).1]
        exact ih.cons_cons _
  exact hash.fields.nodup.sublist among

/-- The batches that a worker has to do with. -/
def Stage.keys : Stage → List String
  | .idle => []
  | .listed keys | .rotated keys | .working keys _ => keys
  | .read reading rest => reading.id :: rest
  | .settled id rest => id :: rest

/-- What a worker has read of a batch that it is about to book. -/
def Stage.reading? : Stage → Option Reading
  | .read reading _ => some reading
  | _ => none

theorem Stage.keys_next (rest : List String) (runningProfile : Bool) : (Stage.next rest runningProfile).keys = rest := by
  unfold Stage.next
  split
  · rename_i done
    exact done.symm
  · rfl

theorem Stage.reading?_next (rest : List String) (runningProfile : Bool) :
    (Stage.next rest runningProfile).reading? = none := by
  unfold Stage.next
  split <;> rfl

/-- What the events do to the state. -/
inductive Effect (state : State) : Event → State → Prop
  | advance (milliseconds : Nat) : Effect state (.advance milliseconds) { state with now := state.now + milliseconds }
  | enqueue (auth : Option AuthUser) (generalId weight time : Int) (userId : String) :
      Effect state (.enqueue auth generalId weight time) (state.enqueue generalId weight userId time)
  | move (event : Event) (worker : Nat) (stage : Stage)
      (keys : ∀ key ∈ stage.keys, key ∈ state.redis.used ∨ key ∈ (state.workers worker).keys)
      (blank : stage.reading? = none) : Effect state event (state.setWorker worker stage)
  | rotate (worker : Nat) (keys : List String) (id : String) (held : state.workers worker = .listed keys)
      (fresh : id ∉ state.redis.used) : Effect state (.rotate worker id) (state.rotate worker keys id)
  | drop (event : Event) (worker : Nat) (id : String) (stage : Stage) (first : (state.workers worker).keys.head? = some id)
      (keys : ∀ key ∈ stage.keys, key ∈ (state.workers worker).keys) (blank : stage.reading? = none) :
      Effect state event ({ state with redis := state.redis.del id }.setWorker worker stage)
  | read (worker : Nat) (key : String) (rest : List String) (held : state.workers worker = .working (key :: rest) true) :
      Effect state (.read worker) (state.setWorker worker (.read (state.redis.reading state.now key) rest))
  | settle (worker : Nat) (reading : Reading) (rest : List String) (world : Option WorldState)
      (generals : Int → Option GeneralRow) (database : Database) (held : state.workers worker = .read reading rest)
      (flushed : state.database.flush state.now reading world generals = some database) :
      Effect state (.settle worker world generals)
        ({ state with database }.setWorker worker (.settled reading.id rest))

/-- The worker whose step an event is. -/
def Event.worker? : Event → Option Nat
  | .advance _ | .enqueue .. => none
  | .scan worker _ | .rotate worker _ | .status worker _ | .discard worker | .read worker | .settle worker .. |
    .delete worker | .crash worker => some worker

theorem effect_of_work (own : event.worker? = some worker)
    (worked : state.work worker (state.workers worker) event = some next) : Effect state event next := by
  generalize held : state.workers worker = stage at worked
  unfold State.work at worked
  split at worked
  · split at worked
    · rename_i used
      obtain rfl := Option.some.inj worked
      exact .move _ worker _ (fun key member => .inl (used key member)) rfl
    · cases worked
  · split at worked
    · rename_i fresh
      obtain rfl := Option.some.inj own
      obtain rfl := Option.some.inj worked
      exact .rotate _ _ _ held fresh.2
    · cases worked
  · obtain rfl := Option.some.inj worked
    refine .move _ worker _ (fun key member => .inr ?_) rfl
    rw [held]
    exact member
  · obtain rfl := Option.some.inj worked
    refine .drop _ worker _ _ (by rw [held]; rfl) ?_ (Stage.reading?_next _ _)
    intro key member
    rw [Stage.keys_next] at member
    rw [held]
    exact List.mem_cons_of_mem _ member
  · obtain rfl := Option.some.inj own
    obtain rfl := Option.some.inj worked
    exact .read _ _ _ held
  · obtain rfl := Option.some.inj own
    obtain ⟨database, flushed, rfl⟩ := Option.map_eq_some_iff.mp worked
    exact .settle _ _ _ _ _ _ held flushed
  · obtain rfl := Option.some.inj worked
    refine .drop _ worker _ _ (by rw [held]; rfl) ?_ (Stage.reading?_next _ _)
    intro key member
    rw [Stage.keys_next] at member
    rw [held]
    exact List.mem_cons_of_mem _ member
  · obtain rfl := Option.some.inj worked
    exact .move _ worker .idle nofun rfl
  · cases worked

theorem effect_of_step {output : Unit} (stepped : machine.step state event = some (next, output)) :
    Effect state event next := by
  obtain ⟨result, done, same⟩ := Option.map_eq_some_iff.mp stepped
  obtain ⟨rfl, -⟩ := Prod.mk.inj same
  cases event with
  | advance milliseconds =>
    obtain rfl := Option.some.inj done
    exact .advance milliseconds
  | enqueue auth generalId weight time =>
    obtain ⟨user, -, rest⟩ := Option.bind_eq_some_iff.mp done
    split at rest
    · obtain rfl := Option.some.inj rest
      exact .enqueue auth generalId weight time user.id
    · cases rest
  | scan worker keys => exact effect_of_work rfl done
  | rotate worker id => exact effect_of_work rfl done
  | status worker runningProfile => exact effect_of_work rfl done
  | discard worker => exact effect_of_work rfl done
  | read worker => exact effect_of_work rfl done
  | settle worker world generals => exact effect_of_work rfl done
  | delete worker => exact effect_of_work rfl done
  | crash worker => exact effect_of_work rfl done

/-- The accesses are where they were enqueued and rotated: each in the counters or in one batch. -/
structure Stored (now : Int) (redis : Redis) : Prop where
  tickets : redis.enqueued.map Contribution.ticket = List.range redis.enqueued.length
  active : ∀ hash, redis.active = some hash → hash.Sound now ∧ hash.contributions.Nodup ∧
    ∀ contribution ∈ hash.contributions, contribution ∈ redis.enqueued ∧ ∀ id, contribution ∉ redis.rotations id
  batches : ∀ id hash, redis.batches id = some hash → hash.Sound now ∧ hash.contributions = redis.rotations id
  nodup : ∀ id, (redis.rotations id).Nodup
  enqueued : ∀ id, ∀ contribution ∈ redis.rotations id, contribution ∈ redis.enqueued
  apart : ∀ id other, id ≠ other → ∀ contribution ∈ redis.rotations id, contribution ∉ redis.rotations other
  unused : ∀ id, id ∉ redis.used → redis.rotations id = []

variable {now : Int} {redis : Redis}

theorem Stored.ticket_lt (stored : Stored now redis) {contribution : Contribution}
    (member : contribution ∈ redis.enqueued) : contribution.ticket < redis.enqueued.length := by
  have ticket : contribution.ticket ∈ redis.enqueued.map Contribution.ticket := List.mem_map_of_mem member
  rw [stored.tickets] at ticket
  exact List.mem_range.mp ticket

theorem Stored.next_not_mem (stored : Stored now redis) (generalId weight : Int) :
    ⟨redis.enqueued.length, generalId, weight⟩ ∉ redis.enqueued := fun member =>
  Nat.lt_irrefl _ (stored.ticket_lt member)

theorem live_eq_some {hash : Option AccessHash} {found : AccessHash} (alive : live now hash = some found) :
    hash = some found ∧ now ≤ found.expiresAt := by
  obtain ⟨is, current⟩ := Option.filter_eq_some_iff.mp alive
  exact ⟨is, of_decide_eq_true current⟩

theorem Stored.later (stored : Stored now redis) {later : Int} (passed : now ≤ later) : Stored later redis :=
  { stored with
    active := fun hash is => (stored.active hash is).imp_left fun sound => sound.later passed
    batches := fun id hash is => (stored.batches id hash is).imp_left fun sound => sound.later passed }

theorem Stored.enqueue (stored : Stored now redis) (generalId weight : Int) (userId : String) (time : Int) :
    Stored now (redis.enqueue now ⟨redis.enqueued.length, generalId, weight⟩ userId time) := by
  have fresh := stored.next_not_mem generalId weight
  -- The counters before: what is left of them, or none.
  have before : ((live now redis.active).getD (.empty now)).Sound now ∧
      ((live now redis.active).getD (.empty now)).contributions.Nodup ∧
      ∀ contribution ∈ ((live now redis.active).getD (.empty now)).contributions,
        contribution ∈ redis.enqueued ∧ ∀ id, contribution ∉ redis.rotations id := by
    cases alive : live now redis.active with
    | none => exact ⟨AccessHash.empty_sound now, List.nodup_nil, nofun⟩
    | some hash => exact stored.active hash (live_eq_some alive).1
  obtain ⟨sound, nodup, inside⟩ := before
  constructor
  · show (redis.enqueued ++ [_]).map Contribution.ticket = List.range (redis.enqueued ++ [_]).length
    rw [List.map_append, stored.tickets, List.length_append, List.length_singleton, List.range_succ]
    rfl
  · intro hash is
    obtain rfl := Option.some.inj is
    refine ⟨sound.enqueue _ userId time, ?_, ?_⟩
    · show (_ ++ [_]).Nodup
      rw [List.nodup_append]
      refine ⟨nodup, List.nodup_singleton _, ?_⟩
      intro contribution member other last same
      rw [same, List.mem_singleton.mp last] at member
      exact fresh (inside _ member).1
    · intro contribution member
      rcases List.mem_append.mp member with member | member
      · exact ⟨List.mem_append_left _ (inside contribution member).1, (inside contribution member).2⟩
      · obtain rfl := List.mem_singleton.mp member
        exact ⟨List.mem_append_right _ member, fun id rotated => fresh (stored.enqueued id _ rotated)⟩
  · exact stored.batches
  · exact stored.nodup
  · intro id contribution member
    exact List.mem_append_left _ (stored.enqueued id contribution member)
  · exact stored.apart
  · exact stored.unused

theorem Stored.del (stored : Stored now redis) (id : String) : Stored now (redis.del id) :=
  { stored with
    batches := by
      intro other hash is
      have left : Function.update redis.batches id none other = some hash := is
      by_cases same : other = id
      · subst same
        rw [Function.update_self] at left
        cases left
      · rw [Function.update_of_ne same] at left
        exact stored.batches other hash left }

theorem Stored.take (stored : Stored now redis) (id : String) : Stored now { redis with used := id :: redis.used } := by
  refine { stored with unused := ?_ }
  intro other unused
  exact stored.unused other fun used => unused (List.mem_cons_of_mem _ used)

variable {id : String} {stage : Stage} {reading : Reading} {database : Database} {marker : String × Int}
  {column : AccessRow → Int} {log : Table Int AccessRow} {trace : List (Event × Unit)}

theorem Stored.rotate (stored : Stored now redis) (fresh : id ∉ redis.used)
    (alive : live now redis.active = some hash) :
    Stored now { redis.rotate id hash with used := id :: redis.used } := by
  obtain ⟨is, -⟩ := live_eq_some alive
  obtain ⟨sound, nodup, inside⟩ := stored.active hash is
  -- What a batch was made of, before and after.
  have own : Function.update redis.rotations id hash.contributions id = hash.contributions := Function.update_self ..
  have others {other : String} (different : other ≠ id) :
      Function.update redis.rotations id hash.contributions other = redis.rotations other :=
    Function.update_of_ne different ..
  constructor
  · exact stored.tickets
  · nofun
  · intro other batch found
    show batch.Sound now ∧ batch.contributions = Function.update redis.rotations id hash.contributions other
    have changed : Function.update redis.batches id (some hash) other = some batch := found
    by_cases same : other = id
    · subst same
      rw [Function.update_self] at changed
      obtain rfl := Option.some.inj changed
      exact ⟨sound, own.symm⟩
    · rw [Function.update_of_ne same] at changed
      rw [others same]
      exact stored.batches other batch changed
  · intro other
    show (Function.update redis.rotations id hash.contributions other).Nodup
    by_cases same : other = id
    · rw [same, own]
      exact nodup
    · rw [others same]
      exact stored.nodup other
  · intro other contribution member
    have rotated : contribution ∈ Function.update redis.rotations id hash.contributions other := member
    by_cases same : other = id
    · rw [same, own] at rotated
      exact (inside contribution rotated).1
    · rw [others same] at rotated
      exact stored.enqueued other contribution rotated
  · intro first second different contribution member
    have left : contribution ∈ Function.update redis.rotations id hash.contributions first := member
    show contribution ∉ Function.update redis.rotations id hash.contributions second
    by_cases same : first = id
    · rw [same, own] at left
      rw [others (same ▸ different).symm]
      exact (inside contribution left).2 second
    · rw [others same] at left
      by_cases also : second = id
      · rw [also, own]
        intro right
        exact (inside contribution right).2 first left
      · rw [others also]
        exact stored.apart first second different contribution left
  · intro other unused
    obtain ⟨different, before⟩ := not_or.mp (fun either => unused (List.mem_cons.mpr either))
    show Function.update redis.rotations id hash.contributions other = []
    rw [others different]
    exact stored.unused other before

theorem Stored.step (stored : Stored state.now state.redis) (effect : Effect state event next) :
    Stored next.now next.redis := by
  cases effect with
  | advance milliseconds => exact stored.later (by show state.now ≤ state.now + milliseconds; omega)
  | enqueue auth generalId weight time userId => exact stored.enqueue generalId weight userId time
  | move => exact stored
  | rotate worker keys id held fresh =>
    unfold State.rotate
    split
    · exact stored.take id
    · rename_i hash alive
      exact stored.rotate fresh alive
  | drop event worker id stage first keys blank => exact stored.del id
  | read => exact stored
  | settle => exact stored

/-- The workers have to do with batches that have been made, and have read accesses of them. -/
structure Working (now : Int) (redis : Redis) (workers : Nat → Stage) : Prop where
  keys : ∀ worker, ∀ key ∈ (workers worker).keys, key ∈ redis.used
  readings : ∀ worker, ∀ reading ∈ (workers worker).reading?, reading.Sound (redis.rotations reading.id) now

theorem Working.setWorker {workers : Nat → Stage} (working : Working now redis workers) (worker : Nat)
    (keys : ∀ key ∈ stage.keys, key ∈ redis.used)
    (sound : ∀ reading ∈ stage.reading?, reading.Sound (redis.rotations reading.id) now) :
    Working now redis (Function.update workers worker stage) where
  keys := by
    intro other
    by_cases same : other = worker
    · subst same
      rw [Function.update_self]
      exact keys
    · rw [Function.update_of_ne same]
      exact working.keys other
  readings := by
    intro other
    by_cases same : other = worker
    · subst same
      rw [Function.update_self]
      exact sound
    · rw [Function.update_of_ne same]
      exact working.readings other

theorem Stored.reading_sound (stored : Stored now redis) (id : String) :
    (redis.reading now id).Sound (redis.rotations id) now := by
  unfold Redis.reading
  cases alive : live now (redis.batches id) with
  | none => exact ⟨List.nil_sublist _, nofun, List.nodup_nil, le_rfl⟩
  | some hash =>
    obtain ⟨sound, rotated⟩ := stored.batches id hash (live_eq_some alive).1
    refine ⟨?_, ?_, parseBatchHash_nodup hash, le_rfl⟩
    · show hash.contributions.Sublist (redis.rotations id)
      rw [rotated]
    · intro entry member
      rw [parseBatchHash_weight member]
      exact sound.adds entry.generalId

theorem rotations_rotate {other : String} (hash : AccessHash) (used : other ∈ redis.used)
    (fresh : id ∉ redis.used) : (redis.rotate id hash).rotations other = redis.rotations other := by
  have different : other ≠ id := fun same => fresh (same ▸ used)
  exact Function.update_of_ne different ..

theorem mem_roundKeys {keys : List String} {key : String} : key ∈ State.roundKeys keys ↔ key ∈ keys := by
  rw [State.roundKeys, List.mem_insertionSort, List.mem_dedup]

theorem Stage.reading_mem_keys (held : reading ∈ stage.reading?) : reading.id ∈ stage.keys := by
  cases stage with
  | read found rest =>
    obtain rfl := Option.some.inj held
    exact List.mem_cons_self
  | idle => cases held
  | listed => cases held
  | rotated => cases held
  | working => cases held
  | settled => cases held

theorem Working.step (working : Working state.now state.redis state.workers)
    (stored : Stored state.now state.redis) (effect : Effect state event next) :
    Working next.now next.redis next.workers := by
  have blank {stage : Stage} (unread : stage.reading? = none) :
      ∀ reading ∈ stage.reading?, reading.Sound (state.redis.rotations reading.id) state.now := by
    rw [unread]
    nofun
  cases effect with
  | advance milliseconds =>
    refine ⟨working.keys, fun worker reading held => ?_⟩
    have sound := working.readings worker reading held
    exact { sound with readAt := sound.readAt.trans (by show state.now ≤ state.now + milliseconds; omega) }
  | enqueue => exact ⟨working.keys, working.readings⟩
  | move event worker stage keys unread =>
    refine working.setWorker worker (fun key member => ?_) (blank unread)
    exact (keys key member).elim (fun used => used) (working.keys worker key)
  | rotate worker keys id held fresh =>
    have own : ∀ key ∈ keys, key ∈ state.redis.used := fun key member => working.keys worker key (by rw [held]; exact member)
    -- The new id is not the id of a batch that a worker has to do with.
    unfold State.rotate
    split
    · have idle : Working state.now { state.redis with used := id :: state.redis.used } state.workers :=
        ⟨fun other key member => List.mem_cons_of_mem _ (working.keys other key member), working.readings⟩
      refine idle.setWorker worker ?_ ?_
      · intro key member
        split at member
        · cases member
        · exact List.mem_cons_of_mem _ (own key (mem_roundKeys.mp member))
      · split <;> nofun
    · rename_i hash alive
      have rotated : Working state.now { state.redis.rotate id hash with used := id :: state.redis.used }
          state.workers := by
        refine ⟨fun other key member => List.mem_cons_of_mem _ (working.keys other key member), ?_⟩
        intro other reading held
        have used := working.keys other reading.id (Stage.reading_mem_keys held)
        show reading.Sound ((state.redis.rotate id hash).rotations reading.id) state.now
        rw [rotations_rotate hash used fresh]
        exact working.readings other reading held
      refine rotated.setWorker worker ?_ nofun
      intro key member
      rcases List.mem_append.mp (mem_roundKeys.mp member) with member | member
      · exact List.mem_cons_of_mem _ (own key member)
      · rw [List.mem_singleton.mp member]
        exact List.mem_cons_self
  | drop event worker id stage first keys unread =>
    have dropped : Working state.now (state.redis.del id) state.workers := ⟨working.keys, working.readings⟩
    exact dropped.setWorker worker (fun key member => working.keys worker key (keys key member)) (blank unread)
  | read worker key rest held =>
    have own : ∀ other ∈ key :: rest, other ∈ state.redis.used := fun other member =>
      working.keys worker other (by rw [held]; exact member)
    refine working.setWorker worker own ?_
    intro reading found
    obtain rfl := Option.some.inj found
    exact stored.reading_sound key
  | settle worker reading rest world generals database held flushed =>
    refine working.setWorker worker ?_ nofun
    intro key member
    refine working.keys worker key ?_
    rw [held]
    exact member

/-- What a database step does: it marks the batch, finds it marked, or counts it. -/
inductive Flushed (database : Database) (now : Int) (reading : Reading) : Database → Prop
  | marked : Flushed database now reading (database.markBatchProcessed now reading.id)
  | skipped (done : reading.id ∈ database.markers.map Prod.fst) : Flushed database now reading { database with
      markers := (database.marked now reading.id).filter fun marker => now - completedBatchRetentionMs ≤ marker.2 }
  | counted (world : WorldState) (generals : Int → Option GeneralRow) (newest : Int) (filled : reading.entries ≠ [])
      (unmarked : reading.id ∉ database.markers.map Prod.fst) : Flushed database now reading {
      markers := (database.marked now reading.id).filter fun marker => now - completedBatchRetentionMs ≤ marker.2
      log := database.log.upsertRows
        (accessRows world generals database.log newest (reading.entries.filter (Resolved generals)))
      counted := database.counted ++ [⟨reading.id, now, reading.contributions.filter fun contribution =>
        contribution.generalId ∈ (reading.entries.filter (Resolved generals)).map Entry.generalId⟩] }

theorem flushed_of_flush {next : Database} {world : Option WorldState} {generals : Int → Option GeneralRow}
    (flushed : database.flush now reading world generals = some next) : Flushed database now reading next := by
  unfold Database.flush at flushed
  split at flushed
  · obtain rfl := Option.some.inj flushed
    exact .marked
  · rename_i first rest entries
    obtain ⟨world, -, rest⟩ := Option.bind_eq_some_iff.mp flushed
    split at rest
    · obtain rfl := Option.some.inj rest
      exact .marked
    · simp only [Database.book] at rest
      split at rest
      · cases rest
      · split at rest
        · rename_i done
          obtain rfl := Option.some.inj rest
          exact .skipped done
        · rename_i unmarked
          split at rest
          · obtain rfl := Option.some.inj rest
            exact .counted world generals _ (by rw [entries]; exact List.cons_ne_nil _ _) unmarked
          · cases rest

theorem mem_marked (member : marker ∈ database.markers) (id : String) : marker ∈ database.marked now id := by
  unfold Database.marked
  split
  · exact member
  · exact List.mem_append_left _ member

theorem Flushed.keeps {next : Database} (flushed : Flushed database now reading next)
    (member : marker ∈ database.markers) :
    marker ∈ next.markers ∨ marker.2 + completedBatchRetentionMs < now := by
  have kept : marker ∈ database.marked now reading.id := mem_marked member reading.id
  by_cases recent : now - completedBatchRetentionMs ≤ marker.2
  · refine .inl ?_
    cases flushed with
    | marked => exact kept
    | skipped done => exact List.mem_filter.mpr ⟨kept, decide_eq_true recent⟩
    | counted => exact List.mem_filter.mpr ⟨kept, decide_eq_true recent⟩
  · exact .inr (by omega)

/-- The worker that books a batch in an event. -/
def Event.settler? : Event → Option Nat
  | .settle worker _ _ => some worker
  | _ => none

/-- Every database step comes soon enough after its worker has read the batch. -/
def Prompt (state : State) (event : Event) : Prop :=
  ∀ worker ∈ event.settler?, ∀ reading ∈ (state.workers worker).reading?,
    state.now ≤ reading.readAt + (completedBatchRetentionMs - activeBatchTtlMs)

instance (state : State) (event : Event) : Decidable (Prompt state event) :=
  inferInstanceAs (Decidable (∀ worker ∈ event.settler?, ∀ reading ∈ (state.workers worker).reading?, _))

/-- The batches that are counted are marked for a week, and nobody reads them any more after a day. -/
structure Counting (state : State) : Prop where
  used : ∀ count ∈ state.database.counted, count.id ∈ state.redis.used
  past : ∀ count ∈ state.database.counted, count.countedAt ≤ state.now
  marked : ∀ count ∈ state.database.counted, (count.id, count.countedAt) ∈ state.database.markers ∨
    count.countedAt + completedBatchRetentionMs < state.now
  batches : ∀ count ∈ state.database.counted, ∀ hash, state.redis.batches count.id = some hash →
    hash.expiresAt ≤ count.countedAt + activeBatchTtlMs
  readings : ∀ count ∈ state.database.counted, ∀ worker, ∀ reading ∈ (state.workers worker).reading?,
    reading.id = count.id → reading.entries ≠ [] → reading.readAt ≤ count.countedAt + activeBatchTtlMs
  parts : ∀ count ∈ state.database.counted, count.contributions.Sublist (state.redis.rotations count.id)
  once : (state.database.counted.map Count.id).Nodup

theorem Counting.setWorker (counting : Counting state) (worker : Nat)
    (soon : ∀ count ∈ state.database.counted, ∀ reading ∈ stage.reading?, reading.id = count.id →
      reading.entries ≠ [] → reading.readAt ≤ count.countedAt + activeBatchTtlMs) :
    Counting (state.setWorker worker stage) := by
  refine ⟨counting.used, counting.past, counting.marked, counting.batches, ?_, counting.parts, counting.once⟩
  intro count member other
  show ∀ reading ∈ (Function.update state.workers worker stage other).reading?, _
  by_cases same : other = worker
  · subst same
    rw [Function.update_self]
    exact soon count member
  · rw [Function.update_of_ne same]
    exact counting.readings count member other

theorem Counting.unmarked (counting : Counting state) (held : reading ∈ (state.workers worker).reading?)
    (prompt : state.now ≤ reading.readAt + (completedBatchRetentionMs - activeBatchTtlMs))
    (filled : reading.entries ≠ []) (unmarked : reading.id ∉ state.database.markers.map Prod.fst) :
    ∀ count ∈ state.database.counted, reading.id ≠ count.id := by
  intro count member same
  have soon := counting.readings count member worker reading held same filled
  rcases counting.marked count member with marker | old
  · -- The marker is still there.
    exact unmarked (List.mem_map.mpr ⟨_, marker, same.symm⟩)
  · -- The batch was read within a day of its count, so the marker cannot be a week old.
    omega

theorem Counting.settle (counting : Counting state) (stored : Stored state.now state.redis)
    (working : Working state.now state.redis state.workers) (held : reading ∈ (state.workers worker).reading?)
    (prompt : state.now ≤ reading.readAt + (completedBatchRetentionMs - activeBatchTtlMs))
    (flushed : Flushed state.database state.now reading database) : Counting { state with database } := by
  have marked : ∀ count ∈ state.database.counted, (count.id, count.countedAt) ∈ database.markers ∨
      count.countedAt + completedBatchRetentionMs < state.now := fun count member =>
    (counting.marked count member).elim flushed.keeps .inr
  cases flushed with
  | marked =>
    exact ⟨counting.used, counting.past, marked, counting.batches, counting.readings, counting.parts, counting.once⟩
  | skipped done =>
    exact ⟨counting.used, counting.past, marked, counting.batches, counting.readings, counting.parts, counting.once⟩
  | counted world generals newest filled unmarked =>
    have new := counting.unmarked held prompt filled unmarked
    have sound := working.readings worker reading held
    have used := working.keys worker reading.id (Stage.reading_mem_keys held)
    -- What holds of the counts before, and of the new one, holds of all.
    have all {property : Count → Prop} (before : ∀ count ∈ state.database.counted, property count)
        (now : property ⟨reading.id, state.now, reading.contributions.filter fun contribution =>
          contribution.generalId ∈ (reading.entries.filter (Resolved generals)).map Entry.generalId⟩) :
        ∀ count ∈ state.database.counted ++ [⟨reading.id, state.now, reading.contributions.filter fun contribution =>
          contribution.generalId ∈ (reading.entries.filter (Resolved generals)).map Entry.generalId⟩],
          property count := by
      intro count member
      rcases List.mem_append.mp member with member | member
      · exact before count member
      · obtain rfl := List.mem_singleton.mp member
        exact now
    constructor
    · exact all counting.used used
    · exact all counting.past le_rfl
    · refine all marked (.inl (List.mem_filter.mpr ⟨?_, decide_eq_true ?_⟩))
      · unfold Database.marked
        rw [if_neg unmarked]
        exact List.mem_append_right _ (List.mem_singleton.mpr rfl)
      · show state.now - completedBatchRetentionMs ≤ state.now
        unfold completedBatchRetentionMs
        omega
    · exact all counting.batches fun hash is => (stored.batches reading.id hash is).1.expires
    · refine all counting.readings fun other another found _ _ => ?_
      have before := (working.readings other another found).readAt
      show another.readAt ≤ state.now + activeBatchTtlMs
      unfold activeBatchTtlMs
      omega
    · exact all counting.parts (List.filter_sublist.trans sound.part)
    · show ((state.database.counted ++ [_]).map Count.id).Nodup
      rw [List.map_append, List.nodup_append]
      refine ⟨counting.once, List.nodup_singleton _, ?_⟩
      intro id member other last same
      obtain ⟨count, inside, rfl⟩ := List.mem_map.mp member
      exact new count inside (same.trans (List.mem_singleton.mp last)).symm

theorem Counting.rotate (counting : Counting state) (fresh : id ∉ state.redis.used) (hash : AccessHash) :
    Counting { state with redis := { state.redis.rotate id hash with used := id :: state.redis.used } } := by
  have different : ∀ count ∈ state.database.counted, count.id ≠ id := fun count member same =>
    fresh (same ▸ counting.used count member)
  refine ⟨?_, counting.past, counting.marked, ?_, counting.readings, ?_, counting.once⟩
  · intro count member
    exact List.mem_cons_of_mem _ (counting.used count member)
  · intro count member batch found
    have kept : Function.update state.redis.batches id (some hash) count.id = some batch := found
    rw [Function.update_of_ne (different count member)] at kept
    exact counting.batches count member batch kept
  · intro count member
    show count.contributions.Sublist ((state.redis.rotate id hash).rotations count.id)
    rw [rotations_rotate hash (counting.used count member) fresh]
    exact counting.parts count member

theorem Counting.step (counting : Counting state) (stored : Stored state.now state.redis)
    (working : Working state.now state.redis state.workers) (prompt : Prompt state event)
    (effect : Effect state event next) : Counting next := by
  have blank {stage : Stage} (unread : stage.reading? = none) : ∀ count ∈ state.database.counted,
      ∀ reading ∈ stage.reading?, reading.id = count.id → reading.entries ≠ [] →
        reading.readAt ≤ count.countedAt + activeBatchTtlMs := by
    rw [unread]
    nofun
  cases effect with
  | advance milliseconds =>
    have passed : state.now ≤ state.now + milliseconds := by omega
    refine ⟨counting.used, fun count member => (counting.past count member).trans passed, ?_, counting.batches,
      counting.readings, counting.parts, counting.once⟩
    intro count member
    exact (counting.marked count member).imp_right fun old => old.trans_le passed
  | enqueue =>
    exact ⟨counting.used, counting.past, counting.marked, counting.batches, counting.readings, counting.parts,
      counting.once⟩
  | move event worker stage keys unread => exact counting.setWorker worker (blank unread)
  | rotate worker keys id held fresh =>
    unfold State.rotate
    split
    · have taken : Counting { state with redis := { state.redis with used := id :: state.redis.used } } :=
        ⟨fun count member => List.mem_cons_of_mem _ (counting.used count member), counting.past, counting.marked,
          counting.batches, counting.readings, counting.parts, counting.once⟩
      refine taken.setWorker worker ?_
      split <;> exact blank rfl
    · rename_i hash alive
      exact (counting.rotate fresh hash).setWorker worker (blank rfl)
  | drop event worker id stage first keys unread =>
    have dropped : Counting { state with redis := state.redis.del id } := by
      refine ⟨counting.used, counting.past, counting.marked, ?_, counting.readings, counting.parts, counting.once⟩
      intro count member hash found
      have left : Function.update state.redis.batches id none count.id = some hash := found
      by_cases same : count.id = id
      · rw [same, Function.update_self] at left
        cases left
      · rw [Function.update_of_ne same] at left
        exact counting.batches count member hash left
    exact dropped.setWorker worker (blank unread)
  | read worker key rest held =>
    refine counting.setWorker worker ?_
    intro count member reading found same filled
    obtain rfl := Option.some.inj found
    -- A batch with entries is still there, and a counted one is there for a day at most.
    show state.now ≤ count.countedAt + activeBatchTtlMs
    cases alive : live state.now (state.redis.batches key) with
    | none =>
      refine absurd ?_ filled
      simp [Redis.reading, alive, parseBatchHash]
    | some hash =>
      obtain ⟨is, current⟩ := live_eq_some alive
      have key_eq : key = count.id := same
      exact current.trans (counting.batches count member hash (key_eq ▸ is))
  | settle worker reading rest world generals database held flushed =>
    have here : reading ∈ (state.workers worker).reading? := by
      rw [held]
      rfl
    have settled := counting.settle stored working here (prompt worker rfl reading here) (flushed_of_flush flushed)
    exact settled.setWorker worker (by nofun)

/-- A total of a general's row in the access log. -/
def total (column : AccessRow → Int) (log : Table Int AccessRow) (generalId : Int) : Int :=
  ((log generalId).map column).getD 0

/-- A column that counts every entry. -/
structure Totals (column : AccessRow → Int) : Prop where
  adds : ∀ periodStartedAt scoreStartedAt old entry, column (accessRow periodStartedAt scoreStartedAt old entry) =
    (old.map column).getD 0 + entry.weight

theorem totals_refreshTotal : Totals AccessRow.refreshTotal where
  adds := by
    intro periodStartedAt scoreStartedAt old entry
    cases old <;> simp [accessRow]

theorem totals_refreshScoreTotal : Totals AccessRow.refreshScoreTotal where
  adds := by
    intro periodStartedAt scoreStartedAt old entry
    cases old <;> simp [accessRow]

theorem total_upsertRows (totals : Totals column) (world : WorldState) (generals : Int → Option GeneralRow)
    (log : Table Int AccessRow) (newest : Int) {resolved : List Entry} {contributions : List Contribution}
    (distinct : (resolved.map Entry.generalId).Nodup)
    (adds : ∀ entry ∈ resolved, entry.weight = weightOf contributions entry.generalId) (generalId : Int) :
    total column (log.upsertRows (accessRows world generals log newest resolved)) generalId =
      total column log generalId + weightOf (contributions.filter fun contribution =>
        contribution.generalId ∈ resolved.map Entry.generalId) generalId := by
  have keys : (accessRows world generals log newest resolved).map Prod.fst = resolved.map Entry.generalId := by
    simp [accessRows, Function.comp_def]
  rw [Table.upsertRows_eq _ _ (keys ▸ distinct), weightOf_filter]
  unfold total Table.overlay Table.rowOf
  cases found : (accessRows world generals log newest resolved).find? fun row => row.1 = generalId with
  | none =>
    -- No entry is about the general.
    have absent : generalId ∉ resolved.map Entry.generalId := by
      rw [← keys]
      intro member
      obtain ⟨row, inside, same⟩ := List.mem_map.mp member
      exact absurd (decide_eq_true same) (List.find?_eq_none.mp found row inside)
    rw [if_neg absent]
    simp
  | some row =>
    have named : row.1 = generalId := by simpa using List.find?_some found
    obtain ⟨entry, member, rfl⟩ := List.mem_map.mp (List.mem_of_find?_eq_some found)
    obtain rfl : entry.generalId = generalId := named
    rw [if_pos (List.mem_map_of_mem member), ← adds entry member]
    exact totals.adds ..

/-- The totals are those from the beginning and all that is counted. -/
def Booked (column : AccessRow → Int) (log : Table Int AccessRow) (state : State) : Prop :=
  ∀ generalId, total column state.database.log generalId =
    total column log generalId + weightOf (state.database.counted.flatMap Count.contributions) generalId

theorem Booked.step (totals : Totals column) (booked : Booked column log state)
    (working : Working state.now state.redis state.workers) (effect : Effect state event next) :
    Booked column log next := by
  cases effect with
  | advance => exact booked
  | enqueue => exact booked
  | move => exact booked
  | rotate worker keys id held fresh =>
    unfold State.rotate
    split
    · exact booked
    · exact booked
  | drop => exact booked
  | read => exact booked
  | settle worker reading rest world generals database held flushed =>
    cases flushed_of_flush flushed with
    | marked => exact booked
    | skipped => exact booked
    | counted world generals newest filled unmarked =>
      have sound := working.readings worker reading (by rw [held]; rfl)
      intro generalId
      show total column (state.database.log.upsertRows _) generalId = _ + weightOf
        ((state.database.counted ++ [_]).flatMap Count.contributions) generalId
      rw [total_upsertRows totals world generals _ newest (sound.distinct.sublist (List.filter_sublist.map _))
        fun entry member => sound.adds entry (List.mem_of_mem_filter member), booked generalId, List.flatMap_append,
        weightOf_append, List.flatMap_singleton, Int.add_assoc]

/-- What holds of the counters in every state. -/
structure Consistent (log : Table Int AccessRow) (state : State) : Prop where
  stored : Stored state.now state.redis
  working : Working state.now state.redis state.workers
  counting : Counting state
  refreshTotal : Booked AccessRow.refreshTotal log state
  refreshScoreTotal : Booked AccessRow.refreshScoreTotal log state

theorem consistent_opening (now : Int) (log : Table Int AccessRow) : Consistent log (State.opening now log) where
  stored := ⟨rfl, nofun, nofun, fun _ => List.nodup_nil, nofun, nofun, fun _ _ => rfl⟩
  working := ⟨nofun, nofun⟩
  counting := ⟨nofun, nofun, nofun, nofun, nofun, nofun, List.nodup_nil⟩
  refreshTotal := fun _ => (Int.add_zero _).symm
  refreshScoreTotal := fun _ => (Int.add_zero _).symm

theorem Consistent.step (consistent : Consistent log state) (prompt : Prompt state event)
    (effect : Effect state event next) :
    Consistent log next where
  stored := consistent.stored.step effect
  working := consistent.working.step consistent.stored effect
  counting := consistent.counting.step consistent.stored consistent.working prompt effect
  refreshTotal := consistent.refreshTotal.step totals_refreshTotal consistent.working effect
  refreshScoreTotal := consistent.refreshScoreTotal.step totals_refreshScoreTotal consistent.working effect

theorem consistent_of_run {start : State} (consistent : Consistent log start)
    (run : machine.RunWhile Prompt start trace state) : Consistent log state :=
  run.stateInvariant consistent fun _ _ _ _ held prompt stepped => held.step prompt (effect_of_step stepped)

/-- The accesses that have been counted, in the order in which their batches were. -/
def State.countedAccesses (state : State) : List Contribution := state.database.counted.flatMap Count.contributions

theorem Consistent.nodup (consistent : Consistent log state) :
    (state.countedAccesses.map Contribution.ticket).Nodup := by
  obtain ⟨stored, working, counting, -, -⟩ := consistent
  -- The accesses of one batch are different, and no two batches have one in common.
  have distinct : state.countedAccesses.Nodup := by
    refine List.nodup_flatMap.mpr ⟨?_, ?_⟩
    · intro count member
      exact (stored.nodup count.id).sublist (counting.parts count member)
    · refine (List.pairwise_map.mp counting.once).imp_of_mem ?_
      intro first second one other different contribution left right
      exact stored.apart first.id second.id different contribution ((counting.parts first one).subset left)
        ((counting.parts second other).subset right)
  refine distinct.map_on ?_
  intro first left second right same
  have enqueued {contribution : Contribution} (counted : contribution ∈ state.countedAccesses) :
      contribution ∈ state.redis.enqueued := by
    obtain ⟨count, member, inside⟩ := List.mem_flatMap.mp counted
    exact stored.enqueued count.id contribution ((counting.parts count member).subset inside)
  have tickets : (state.redis.enqueued.map Contribution.ticket).Nodup := by
    rw [stored.tickets]
    exact List.nodup_range
  exact List.inj_on_of_nodup_map tickets (enqueued left) (enqueued right) same

/-- An access is in the counters or in a batch. -/
def Waiting (contribution : Contribution) (redis : Redis) : Prop :=
  (∃ hash, redis.active = some hash ∧ contribution ∈ hash.contributions) ∨
    ∃ id hash, redis.batches id = some hash ∧ contribution ∈ hash.contributions

/-- An access is no part of a batch: it is neither in the batch nor counted with it. -/
def Outside (contribution : Contribution) (id : String) (state : State) : Prop :=
  (∀ hash, state.redis.batches id = some hash → contribution ∉ hash.contributions) ∧
    ∀ count ∈ state.database.counted, count.id = id → contribution ∉ count.contributions

/-- Accesses that are enqueued after a batch was made are no part of it, and they stay when it is deleted. -/
def LaterAccessesKept (state : State) : Prop :=
  ∀ id ∈ state.redis.used, ∀ auth generalId weight time next,
    machine.step state (.enqueue auth generalId weight time) = some (next, ()) →
    ∀ later final, machine.RunWhile Prompt next later final →
      Outside ⟨state.redis.enqueued.length, generalId, weight⟩ id final ∧
      ∀ worker event after, (final.workers worker).keys.head? = some id →
        (event = .discard worker ∨ event = .delete worker) → machine.step final event = some (after, ()) →
        Waiting ⟨state.redis.enqueued.length, generalId, weight⟩ final.redis →
        Waiting ⟨state.redis.enqueued.length, generalId, weight⟩ after.redis

theorem rotations_of_run {final : State} (used : id ∈ state.redis.used)
    (run : machine.RunWhile Prompt state trace final) :
    id ∈ final.redis.used ∧ final.redis.rotations id = state.redis.rotations id := by
  induction run with
  | nil => exact ⟨used, rfl⟩
  | snoc earlier _ stepped held =>
    obtain ⟨before, same⟩ := held
    cases effect_of_step stepped with
    | advance => exact ⟨before, same⟩
    | enqueue => exact ⟨before, same⟩
    | move => exact ⟨before, same⟩
    | rotate worker keys other listed fresh =>
      unfold State.rotate
      split
      · exact ⟨List.mem_cons_of_mem _ before, same⟩
      · rename_i hash alive
        exact ⟨List.mem_cons_of_mem _ before, (rotations_rotate hash before fresh).trans same⟩
    | drop => exact ⟨before, same⟩
    | read => exact ⟨before, same⟩
    | settle => exact ⟨before, same⟩

theorem deletes_first (first : (state.workers worker).keys.head? = some id)
    (deletes : event = .discard worker ∨ event = .delete worker)
    (stepped : machine.step state event = some (next, ())) : next.redis = state.redis.del id := by
  obtain ⟨result, done, same⟩ := Option.map_eq_some_iff.mp stepped
  obtain ⟨rfl, -⟩ := Prod.mk.inj same
  rcases deletes with rfl | rfl
  · have worked : state.work worker (state.workers worker) (.discard worker) = some result := done
    generalize state.workers worker = stage at worked first
    cases stage with
    | working keys runningProfile =>
      cases keys with
      | nil => cases first
      | cons key rest =>
        obtain rfl : key = id := Option.some.inj first
        cases runningProfile with
        | false =>
          obtain rfl := Option.some.inj worked
          rfl
        | true => cases worked
    | idle => cases worked
    | listed => cases worked
    | rotated => cases worked
    | read => cases worked
    | settled => cases worked
  · have worked : state.work worker (state.workers worker) (.delete worker) = some result := done
    generalize state.workers worker = stage at worked first
    cases stage with
    | settled key rest =>
      obtain rfl : key = id := Option.some.inj first
      obtain rfl := Option.some.inj worked
      rfl
    | working keys runningProfile => cases keys <;> cases runningProfile <;> cases worked
    | idle => cases worked
    | listed => cases worked
    | rotated => cases worked
    | read => cases worked

theorem Consistent.laterAccessesKept (consistent : Consistent log state) : LaterAccessesKept state := by
  intro id used auth generalId weight time next enqueued later final run
  have fresh := consistent.stored.next_not_mem generalId weight
  have effect := effect_of_step enqueued
  have prompt : Prompt state (.enqueue auth generalId weight time) := by
    intro worker settles
    cases settles
  have after := consistent.step prompt effect
  have final_consistent := consistent_of_run after run
  -- The batch was made before the access was enqueued, and what it was made of does not change.
  have rotated : id ∈ next.redis.used ∧ next.redis.rotations id = state.redis.rotations id := by
    cases effect with
    | enqueue => exact ⟨used, rfl⟩
    | move => exact ⟨used, rfl⟩
    | drop => exact ⟨used, rfl⟩
  obtain ⟨-, same⟩ := rotations_of_run rotated.1 run
  have apart : ⟨state.redis.enqueued.length, generalId, weight⟩ ∉ final.redis.rotations id := by
    rw [same, rotated.2]
    exact fun member => fresh (consistent.stored.enqueued id _ member)
  have outside : Outside ⟨state.redis.enqueued.length, generalId, weight⟩ id final := by
    refine ⟨?_, ?_⟩
    · intro hash is
      rw [(final_consistent.stored.batches id hash is).2]
      exact apart
    · intro count member here inside
      exact apart (here ▸ (final_consistent.counting.parts count member).subset inside)
  refine ⟨outside, ?_⟩
  intro worker event deleted first deletes stepped waiting
  rw [deletes_first first deletes stepped]
  rcases waiting with active | ⟨other, hash, is, inside⟩
  · exact .inl active
  · refine .inr ⟨other, hash, ?_, inside⟩
    show Function.update final.redis.batches id none other = some hash
    have different : other ≠ id := by
      rintro rfl
      exact outside.1 hash is inside
    rw [Function.update_of_ne different]
    exact is

/--
Every enqueued access is counted once at most, in every run in which the database steps come soon enough.

The totals of a general are those from the beginning and the weights of its accesses that have been counted. Accesses
that are enqueued while a batch is booked are neither part of the batch nor lost with it.
-/
theorem accesses_counted_once {now : Int} {log : Table Int AccessRow} {trace : List (Event × Unit)} {state : State}
    (run : machine.RunWhile Prompt (State.opening now log) trace state) :
    (state.countedAccesses.map Contribution.ticket).Nodup ∧
      (∀ contribution ∈ state.countedAccesses, contribution ∈ state.redis.enqueued) ∧
      (∀ generalId, total AccessRow.refreshTotal state.database.log generalId =
          total AccessRow.refreshTotal log generalId + weightOf state.countedAccesses generalId ∧
        total AccessRow.refreshScoreTotal state.database.log generalId =
          total AccessRow.refreshScoreTotal log generalId + weightOf state.countedAccesses generalId) ∧
      LaterAccessesKept state := by
  have consistent := consistent_of_run (consistent_opening now log) run
  refine ⟨consistent.nodup, ?_, ?_, consistent.laterAccessesKept⟩
  · intro contribution counted
    obtain ⟨count, member, inside⟩ := List.mem_flatMap.mp counted
    exact consistent.stored.enqueued count.id contribution ((consistent.counting.parts count member).subset inside)
  · intro generalId
    exact ⟨consistent.refreshTotal generalId, consistent.refreshScoreTotal generalId⟩

/-- A user whose accesses are counted. -/
def reader : AuthUser := ⟨"reader", []⟩

/-- A world that is open. -/
def openWorld : WorldState := ⟨600, 0, none, none⟩

/-- Every general is the reader's. -/
def readersGenerals (_ : Int) : Option GeneralRow := some ⟨some "reader", 0⟩

/-- A batch is booked while the next access comes, and both are booked in the end. -/
def accessMeanwhile : List Event :=
  [.enqueue (some reader) 7 2 1000, .scan 1 [], .rotate 1 "b1", .status 1 true, .read 1,
    .enqueue (some reader) 7 1 2000, .settle 1 (some openWorld) readersGenerals, .crash 1,
    .scan 2 ["b1"], .rotate 2 "b2", .status 2 true, .read 2, .settle 2 (some openWorld) readersGenerals, .delete 2,
    .read 2, .settle 2 (some openWorld) readersGenerals, .delete 2]

/-- The accesses before and after the rotation are counted once each. -/
theorem accesses_counted_once_meanwhile : ∃ trace state,
    machine.RunWhile Prompt (State.opening 1000 fun _ => none) trace state ∧
      total AccessRow.refreshTotal state.database.log 7 = 3 ∧
      (state.countedAccesses.map Contribution.ticket).Nodup := by
  have replayed : (machine.replay (State.opening 1000 fun _ => none) accessMeanwhile).map
      (fun result => total AccessRow.refreshTotal result.1.database.log 7) = some 3 := by decide +kernel
  obtain ⟨⟨state, trace⟩, found, counted⟩ := Option.map_eq_some_iff.mp replayed
  have prompt : machine.Guarded Prompt (State.opening 1000 fun _ => none) accessMeanwhile := by decide +kernel
  have run := StateMachine.runWhile_of_guarded prompt found
  exact ⟨trace, state, run, counted, (accesses_counted_once run).1⟩

/-- A worker reads a batch and stalls for a week, while another one books the batch and a later one. -/
def stalledWorker : List Event :=
  [.enqueue (some reader) 7 2 1000, .scan 1 [], .rotate 1 "b1", .status 1 true, .read 1,
    .scan 2 ["b1"], .rotate 2 "b2", .status 2 true, .read 2, .settle 2 (some openWorld) readersGenerals, .delete 2,
    .advance 604800001, .enqueue (some reader) 8 1 2000, .scan 2 [], .rotate 2 "b3", .status 2 true, .read 2,
    .settle 2 (some openWorld) readersGenerals, .delete 2, .settle 1 (some openWorld) readersGenerals, .delete 1]

/-- A worker that stalls for longer than a week counts a batch for the second time. -/
theorem stalled_worker_counts_again : ¬ ∀ now log trace state,
    machine.Run (State.opening now log) trace state → (state.countedAccesses.map Contribution.ticket).Nodup := by
  intro once
  have replayed : (machine.replay (State.opening 1000 fun _ => none) stalledWorker).map
      (fun result => result.1.countedAccesses.map Contribution.ticket) = some [0, 1, 0] := by decide +kernel
  obtain ⟨⟨state, trace⟩, found, counted⟩ := Option.map_eq_some_iff.mp replayed
  have distinct := once _ _ _ _ (StateMachine.run_of_replay found)
  have tickets : state.countedAccesses.map Contribution.ticket = [0, 1, 0] := counted
  rw [tickets] at distinct
  exact absurd distinct (by decide)

end Sammo.DeferredAccess
