import Sammo.Realtime.DeltaCache

/-! A subscriber's copy is the server's value, whatever the cache has lost. -/

namespace Sammo

namespace DeltaRuntime

variable (runtime : DeltaRuntime) (slice : ReadModelSlice)

/-- What is asked of the runtime for the values that the server ever sends. -/
structure Sound (values : Set JsonDocument) : Prop where
  /-- A text that was written is read as the document it was written from. -/
  parsed : ∀ value ∈ values, ∃ read, runtime.parse (runtime.serialized value.value) = some read ∧
    read.Same (runtime.canonical value.value) ∧ read.Distinct
  /-- The content hash tells the texts of the values apart. -/
  collisionFree : ∀ first ∈ values, ∀ second ∈ values,
    runtime.revision first.value = runtime.revision second.value →
      runtime.serialized first.value = runtime.serialized second.value
  patches : ImplementsPatch runtime.applyPatch

variable {runtime slice}

theorem Sound.same_of_revision {values : Set JsonDocument} (sound : runtime.Sound values) {first second : JsonDocument}
    (firstSent : first ∈ values) (secondSent : second ∈ values)
    (same : runtime.revision first.value = runtime.revision second.value) :
    (runtime.canonical first.value).Same (runtime.canonical second.value) := by
  -- Both are what their one text is read as.
  obtain ⟨read, parsed, readFirst, _⟩ := sound.parsed first firstSent
  obtain ⟨other, otherParsed, readSecond, _⟩ := sound.parsed second secondSent
  rw [sound.collisionFree first firstSent second secondSent same, otherParsed] at parsed
  cases parsed
  exact readFirst.symm.trans readSecond

theorem cacheKey_injective {first second : String}
    (same : runtime.buildReadModelDeltaCacheKey slice first = runtime.buildReadModelDeltaCacheKey slice second) :
    first = second := by
  unfold buildReadModelDeltaCacheKey at same
  exact (String.append_right_inj _).mp same

theorem replacement_is_longer (baseRevision : String) (value : Json) :
    snapshotByteLength (runtime.revision value) (runtime.serialized value) ≤
      runtime.patchByteLength baseRevision (runtime.revision value) [replaceOperation "" (runtime.canonical value)] := by
  have kind : (quoteJson "kind").utf8ByteSize = 6 := by decide +kernel
  have patch : (quoteJson "patch").utf8ByteSize = 7 := by decide +kernel
  have base : (quoteJson "baseRevision").utf8ByteSize = 14 := by decide +kernel
  have revision : (quoteJson "revision").utf8ByteSize = 10 := by decide +kernel
  have operations : (quoteJson "operations").utf8ByteSize = 12 := by decide +kernel
  have opening : "\x7b\"kind\":\"snapshot\",\"revision\":".utf8ByteSize = 30 := by decide +kernel
  have data : ",\"data\":".utf8ByteSize = 8 := by decide +kernel
  have comma : ",".utf8ByteSize = 1 := by decide +kernel
  have colon : ":".utf8ByteSize = 1 := by decide +kernel
  -- Both have the revision and the value in them; what else a patch says is longer.
  simp only [patchByteLength, snapshotByteLength, serialized, List.map_cons, List.map_nil, JsonPatchOperation.toJson,
    replaceOperation, Option.map_none, Option.map_some, Option.toList_none, Option.toList_some, List.append_nil,
    List.cons_append, List.nil_append, stringify, stringifyMembers, stringifyItems, String.utf8ByteSize_append, kind,
    patch, base, revision, operations, opening, data, comma, colon]
  omega

theorem deltaFrom_patch {baseRevision : String} {baseline value : Json} :
    runtime.deltaFrom baseRevision baseline value = .snapshot (runtime.revision value) none (runtime.canonical value) ∨
      SameShape baseline (runtime.canonical value) ∧ runtime.deltaFrom baseRevision baseline value =
        .patch baseRevision (runtime.revision value) none (createJsonPatch baseline (runtime.canonical value)) := by
  unfold deltaFrom
  dsimp only
  split
  · rename_i chosen
    obtain ⟨fromContainer, toContainer, shorter⟩ := chosen
    by_cases shape : SameShape baseline (runtime.canonical value)
    · exact Or.inr ⟨shape, rfl⟩
    · -- An array that becomes an object, or the reverse, is replaced as a whole.
      have replaced : createJsonPatch baseline (runtime.canonical value) =
          [replaceOperation "" (runtime.canonical value)] := by
        generalize runtime.canonical value = next at shape toContainer ⊢
        cases baseline <;> cases next <;>
          simp_all [SameShape, canPatch, createJsonPatch, appendLinearJsonDiff, objectIs]
      rw [replaced] at shorter
      exact absurd shorter (not_lt.mpr (replacement_is_longer baseRevision value))
  · exact Or.inl rfl

variable (runtime)

/-- A reply that says the truth about a value the server sends. -/
inductive Faithful (values : Set JsonDocument) : ReadModelReply → Prop
  | snapshot {value : JsonDocument} (sent : value ∈ values) (knownRevision : Option String) :
      Faithful values ⟨value.value, knownRevision,
        .snapshot (runtime.revision value.value) none (runtime.canonical value.value)⟩
  | unchanged {value : JsonDocument} (sent : value ∈ values) :
      Faithful values ⟨value.value, some (runtime.revision value.value),
        .unchanged (runtime.revision value.value) none⟩
  | patch {value base : JsonDocument} (sent : value ∈ values) (baseSent : base ∈ values) {baseline : Json}
      (read : baseline.Same (runtime.canonical base.value)) (distinct : baseline.Distinct)
      (shape : SameShape baseline (runtime.canonical value.value)) :
      Faithful values ⟨value.value, some (runtime.revision base.value),
        .patch (runtime.revision base.value) (runtime.revision value.value) none
          (createJsonPatch baseline (runtime.canonical value.value))⟩

/-- The cache holds snapshots of values that were sent, under their revisions. -/
def CachesSent (slice : ReadModelSlice) (values : Set JsonDocument) (store : ReadModelDeltaCacheStore) : Prop :=
  ∀ key text, store key = some text → ∃ value ∈ values,
    key = runtime.buildReadModelDeltaCacheKey slice (runtime.revision value.value) ∧
      text = runtime.serialized value.value

variable {runtime} {values : Set JsonDocument}

variable {store : ReadModelDeltaCacheStore} {value : JsonDocument}

theorem CachesSent.storeSnapshot (cached : runtime.CachesSent slice values store) (sent : value ∈ values)
    (fails : Bool) :
    runtime.CachesSent slice values (DeltaRuntime.storeSnapshot fails store
      (runtime.buildReadModelDeltaCacheKey slice (runtime.revision value.value)) (runtime.serialized value.value)) := by
  intro key text found
  unfold DeltaRuntime.storeSnapshot at found
  split at found
  · exact cached key text found
  · by_cases same : key = runtime.buildReadModelDeltaCacheKey slice (runtime.revision value.value)
    · rw [same, Function.update_self] at found
      exact ⟨value, sent, same, (Option.some.inj found).symm⟩
    · rw [Function.update_of_ne same] at found
      exact cached key text found

theorem readBaseline_sent (sound : runtime.Sound values) (cached : runtime.CachesSent slice values store)
    {fails : Bool} {revision : String} {baseline : Json}
    (found : runtime.readBaseline slice store fails revision = some baseline) :
    ∃ base ∈ values, revision = runtime.revision base.value ∧ baseline.Same (runtime.canonical base.value) ∧
      baseline.Distinct := by
  unfold readBaseline at found
  split at found
  · cases found
  · obtain ⟨text, kept, parsed⟩ := Option.bind_eq_some_iff.mp found
    have there := (Option.filter_eq_some_iff.mp kept).1
    obtain ⟨base, sent, key, rfl⟩ := cached _ _ there
    obtain ⟨read, reads, same, distinct⟩ := sound.parsed base sent
    rw [reads] at parsed
    cases parsed
    exact ⟨base, sent, cacheKey_injective key, same, distinct⟩

theorem createReadModelDelta_faithful (sound : runtime.Sound values)
    (cached : runtime.CachesSent slice values store) (failures : CacheFailures) (sent : value ∈ values)
    (knownRevision : Option String) (forceSnapshot : Bool) :
    let reply := runtime.createReadModelDelta slice store failures ⟨value.value, knownRevision, forceSnapshot⟩
    runtime.Faithful values ⟨value.value, knownRevision, reply.1⟩ ∧ runtime.CachesSent slice values reply.2 := by
  have stored := cached.storeSnapshot sent failures.writes
  dsimp only
  unfold createReadModelDelta
  dsimp only
  split
  · exact ⟨.snapshot sent knownRevision, stored⟩
  split
  · rename_i known
    rw [known]
    exact ⟨.unchanged sent, cached⟩
  split
  · exact ⟨.snapshot sent knownRevision, stored⟩
  rename_i known named
  have asked : knownRevision = some known := (Option.filter_eq_some_iff.mp named).1
  split
  · exact ⟨.snapshot sent knownRevision, stored⟩
  · rename_i baseline read
    obtain ⟨base, baseSent, rfl, same, distinct⟩ := readBaseline_sent sound cached read
    refine ⟨?_, stored⟩
    rcases deltaFrom_patch with whole | ⟨shape, patched⟩
    · rw [whole]
      exact .snapshot sent knownRevision
    · rw [patched, asked]
      exact .patch sent baseSent same distinct shape

end DeltaRuntime

namespace DeltaChannel

variable (runtime : DeltaRuntime) (slice : ReadModelSlice) (values : Set JsonDocument)

/-- What holds of a read model at all times. -/
structure Coherent (channel : DeltaChannel) : Prop where
  cached : runtime.CachesSent slice values channel.store
  copied : ∀ document, channel.current = some document → ∃ value ∈ values,
    channel.currentRevision = some (runtime.revision value.value) ∧
      document.Same (runtime.canonical value.value)
  unknown : channel.current = none → channel.currentRevision = none
  replies : ∀ reply ∈ channel.replies, runtime.Faithful values reply

/-- A reply that applies makes the copy its value, and one that answers what the copy is applies. -/
structure Converges (channel : DeltaChannel) (reply : ReadModelReply) : Prop where
  applied : ∀ applied, applyReadModelDelta runtime.applyPatch channel.current channel.currentRevision reply.delta =
    .ok applied → applied.data.Same (runtime.canonical reply.value) ∧
      applied.revision = runtime.revision reply.value
  applies : reply.knownRevision = channel.currentRevision → ∃ applied,
    applyReadModelDelta runtime.applyPatch channel.current channel.currentRevision reply.delta = .ok applied

variable {runtime slice values}

variable {channel : DeltaChannel} {reply : ReadModelReply}

theorem Coherent.converges (sound : runtime.Sound values) (coherent : channel.Coherent runtime slice values)
    (faithful : runtime.Faithful values reply) : channel.Converges runtime reply := by
  obtain ⟨store, current, currentRevision, replies⟩ := channel
  cases current with
  | none =>
    -- Without a copy only a snapshot applies, and only a snapshot answers no revision.
    have blank : currentRevision = none := coherent.unknown rfl
    subst blank
    cases faithful with
    | snapshot sent knownRevision =>
      constructor
      · intro applied done
        cases done
        exact ⟨.refl _, rfl⟩
      · intro _
        exact ⟨_, rfl⟩
    | unchanged sent =>
      constructor
      · intro applied done
        cases done
      · intro asked
        cases asked
    | patch sent baseSent read distinct shape =>
      constructor
      · intro applied done
        cases done
      · intro asked
        cases asked
  | some document =>
    obtain ⟨held, heldSent, known, same⟩ := coherent.copied document rfl
    have knownRevision : currentRevision = some (runtime.revision held.value) := known
    subst knownRevision
    cases faithful with
    | snapshot sent knownRevision =>
      constructor
      · intro applied done
        cases done
        exact ⟨.refl _, rfl⟩
      · intro _
        exact ⟨_, rfl⟩
    | @unchanged value sent =>
      constructor
      · intro applied done
        simp only [applyReadModelDelta] at done
        split at done
        · cases done
        · rename_i agrees
          cases done
          have revisions := not_not.mp agrees
          exact ⟨same.trans (sound.same_of_revision heldSent sent revisions), revisions⟩
      · intro asked
        have revisions : runtime.revision held.value = runtime.revision value.value := (Option.some.inj asked).symm
        refine ⟨⟨document, runtime.revision held.value, none⟩, ?_⟩
        simp only [applyReadModelDelta, revisions, ne_eq, not_true, if_false]
        rfl
    | @patch value base sent baseSent baseline read distinct shape =>
      have patched (revisions : runtime.revision held.value = runtime.revision base.value) :=
        applyReadModelDelta_patch sound.patches
          ((same.trans (sound.same_of_revision heldSent baseSent revisions)).trans read.symm) distinct
          (canonicalize_same runtime.localeLe value.distinct).2 shape (runtime.revision base.value)
          (runtime.revision value.value) none
      constructor
      · intro applied done
        by_cases revisions : runtime.revision held.value = runtime.revision base.value
        · obtain ⟨reached, reaches, sameNext, revision⟩ := patched revisions
          rw [revisions] at done
          have equal : reached = applied := Except.ok.inj (reaches.symm.trans done)
          subst equal
          exact ⟨sameNext, revision⟩
        · simp only [applyReadModelDelta, ne_eq, revisions, not_false_eq_true, if_true] at done
          cases done
      · intro asked
        have revisions : runtime.revision held.value = runtime.revision base.value := (Option.some.inj asked).symm
        obtain ⟨reached, done, _⟩ := patched revisions
        refine ⟨reached, ?_⟩
        show applyReadModelDelta _ _ (some (runtime.revision held.value)) _ = _
        rw [revisions]
        exact done

theorem Coherent.receive (sound : runtime.Sound values) (coherent : channel.Coherent runtime slice values)
    (faithful : runtime.Faithful values reply) :
    (channel.receive runtime reply).1.Coherent runtime slice values := by
  have converges := coherent.converges sound faithful
  have sent : ∃ value ∈ values, reply.value = value.value := by
    cases faithful with
    | snapshot sent _ => exact ⟨_, sent, rfl⟩
    | unchanged sent => exact ⟨_, sent, rfl⟩
    | patch sent _ _ _ _ => exact ⟨_, sent, rfl⟩
  obtain ⟨value, valueSent, named⟩ := sent
  unfold DeltaChannel.receive
  split
  · rename_i applied done
    obtain ⟨same, revision⟩ := converges.applied applied done
    rw [named] at same revision
    exact {
      cached := coherent.cached
      copied := by
        intro document is
        cases is
        exact ⟨value, valueSent, congrArg some revision, same⟩
      unknown := by
        intro none
        cases none
      replies := coherent.replies }
  · exact coherent

end DeltaChannel

/-- The values that an event serves are among some. -/
def DeltaEvent.ServesFrom (values : Set JsonDocument) : DeltaEvent → Prop
  | .request value _ _ _ => value ∈ values
  | _ => True

theorem deltaMachine_coherent {runtime : DeltaRuntime} {slice : ReadModelSlice} {values : Set JsonDocument}
    (sound : runtime.Sound values) {channel next : DeltaChannel} {event : DeltaEvent} {output : Bool}
    (coherent : channel.Coherent runtime slice values) (served : event.ServesFrom values)
    (stepped : (deltaMachine runtime slice).step channel event = some (next, output)) :
    next.Coherent runtime slice values := by
  cases event with
  | request value knownRevision forceSnapshot failures =>
    cases stepped
    have made := DeltaRuntime.createReadModelDelta_faithful sound coherent.cached failures served knownRevision
      forceSnapshot
    exact {
      cached := made.2
      copied := coherent.copied
      unknown := coherent.unknown
      replies := by
        intro reply member
        rcases List.mem_append.mp member with earlier | new
        · exact coherent.replies reply earlier
        · cases List.mem_singleton.mp new
          exact made.1 }
  | evict key =>
    cases stepped
    have kept : runtime.CachesSent slice values (Function.update channel.store key none) := by
      intro other text found
      by_cases same : other = key
      · rw [same, Function.update_self] at found
        cases found
      · rw [Function.update_of_ne same] at found
        exact coherent.cached other text found
    exact { coherent with cached := kept }
  | deliver index =>
    simp only [deltaMachine, Option.map_eq_some_iff] at stepped
    obtain ⟨reply, there, received⟩ := stepped
    have faithful := coherent.replies reply (List.mem_of_getElem? there)
    have result := coherent.receive sound faithful
    rw [received] at result
    exact result
  | reload =>
    cases stepped
    exact {
      cached := coherent.cached
      copied := by
        intro document is
        cases is
      unknown := fun _ => rfl
      replies := coherent.replies }

/--
A subscriber's copy is the canonical form of the server's value after every reply that applies, and every reply applies
that answers the revision of the copy.
-/
theorem read_models_converge {runtime : DeltaRuntime} {slice : ReadModelSlice} {values : Set JsonDocument}
    (sound : runtime.Sound values) {trace : List (DeltaEvent × Bool)} {channel : DeltaChannel}
    (run : (deltaMachine runtime slice).RunWhile (fun _ event => event.ServesFrom values) DeltaChannel.opening trace
      channel) : ∀ reply ∈ channel.replies, channel.Converges runtime reply := by
  have opened : DeltaChannel.opening.Coherent runtime slice values := {
    cached := by
      intro key text found
      cases found
    copied := by
      intro document is
      cases is
    unknown := fun _ => rfl
    replies := by
      intro reply member
      cases member }
  have coherent : channel.Coherent runtime slice values := run.stateInvariant opened
    fun state event output next held served stepped => deltaMachine_coherent sound held served stepped
  intro reply member
  exact coherent.converges sound (coherent.replies reply member)

/-- A list, a list with one entry changed, and an object in its place. -/
def rosterBefore : JsonDocument where
  value := .arr [.str "a roster with a name that is rather long", .str "and a second name that is as long as the first",
    .str "liu"]
  distinct := .arr (by
    simp only [List.mem_cons, List.not_mem_nil, or_false, forall_eq_or_imp, forall_eq]
    exact ⟨.str _, .str _, .str _⟩)

/-- The list with its last entry changed. -/
def rosterAfter : JsonDocument where
  value := .arr [.str "a roster with a name that is rather long", .str "and a second name that is as long as the first",
    .str "cao"]
  distinct := .arr (by
    simp only [List.mem_cons, List.not_mem_nil, or_false, forall_eq_or_imp, forall_eq]
    exact ⟨.str _, .str _, .str _⟩)

/-- The object that takes the place of the list. -/
def rosterClosed : JsonDocument where
  value := .obj [("closed", .bool true)]
  distinct := .obj (by decide) (by simpa using .bool true)

/-- Reads the texts of these documents. -/
def rosterParse (text : String) : Option Json :=
  if text = stringify (fun _ => "0") rosterBefore.value then some rosterBefore.value
  else if text = stringify (fun _ => "0") rosterAfter.value then some rosterAfter.value
  else if text = stringify (fun _ => "0") rosterClosed.value then some rosterClosed.value
  else none

/-- A runtime that reads the texts of these documents, and whose content hash is the end of the text. -/
def rosterRuntime : DeltaRuntime where
  localeLe := fun left right => decide (left ≤ right)
  numberText := fun _ => "0"
  parse := rosterParse
  digest := fun text => String.ofList (text.toList.reverse.take 5)
  applyPatch := applyPatchByFormat

theorem rosterRuntime_sound : rosterRuntime.Sound {rosterBefore, rosterAfter, rosterClosed} where
  parsed := by
    -- The documents are canonical as they are, and their texts differ.
    have first : rosterRuntime.serialized rosterBefore.value = stringify (fun _ => "0") rosterBefore.value := by
      decide +kernel
    have second : rosterRuntime.serialized rosterAfter.value ≠ stringify (fun _ => "0") rosterBefore.value ∧
        rosterRuntime.serialized rosterAfter.value = stringify (fun _ => "0") rosterAfter.value := by
      decide +kernel
    have third : rosterRuntime.serialized rosterClosed.value ≠ stringify (fun _ => "0") rosterBefore.value ∧
        rosterRuntime.serialized rosterClosed.value ≠ stringify (fun _ => "0") rosterAfter.value ∧
        rosterRuntime.serialized rosterClosed.value = stringify (fun _ => "0") rosterClosed.value := by
      decide +kernel
    intro value sent
    rcases sent with rfl | rfl | rfl
    · refine ⟨rosterBefore.value, ?_, .refl _, rosterBefore.distinct⟩
      show rosterParse (rosterRuntime.serialized rosterBefore.value) = _
      rw [rosterParse, if_pos first]
    · refine ⟨rosterAfter.value, ?_, .refl _, rosterAfter.distinct⟩
      show rosterParse (rosterRuntime.serialized rosterAfter.value) = _
      rw [rosterParse, if_neg second.1, if_pos second.2]
    · refine ⟨rosterClosed.value, ?_, .refl _, rosterClosed.distinct⟩
      show rosterParse (rosterRuntime.serialized rosterClosed.value) = _
      rw [rosterParse, if_neg third.1, if_neg third.2.1, if_pos third.2.2]
  collisionFree := by
    have apart : rosterRuntime.revision rosterBefore.value ≠ rosterRuntime.revision rosterAfter.value ∧
        rosterRuntime.revision rosterBefore.value ≠ rosterRuntime.revision rosterClosed.value ∧
        rosterRuntime.revision rosterAfter.value ≠ rosterRuntime.revision rosterClosed.value := by
      decide +kernel
    intro first firstSent second secondSent same
    rcases firstSent with rfl | rfl | rfl
    · rcases secondSent with rfl | rfl | rfl
      · rfl
      · exact absurd same apart.1
      · exact absurd same apart.2.1
    · rcases secondSent with rfl | rfl | rfl
      · exact absurd same.symm apart.1
      · rfl
      · exact absurd same apart.2.2
    · rcases secondSent with rfl | rfl | rfl
      · exact absurd same.symm apart.2.1
      · exact absurd same.symm apart.2.2
      · rfl
  patches := applyPatchByFormat_implements

/-- Requests with the revision that is known, their replies, and a reply that arrives again too late. -/
def rosterEvents : List DeltaEvent :=
  [.request rosterBefore none false ⟨false, false⟩, .deliver 0,
    .request rosterAfter (some (rosterRuntime.revision rosterBefore.value)) false ⟨false, false⟩, .deliver 1,
    .request rosterClosed (some (rosterRuntime.revision rosterAfter.value)) false ⟨false, true⟩, .deliver 2, .deliver 1]

/-- A list is patched, becomes an object, and a late reply no longer applies; the copy follows all the same. -/
theorem read_models_converge_roster : ∃ trace channel,
    (deltaMachine rosterRuntime ⟨"che", "1", "context"⟩).RunWhile
      (fun _ event => event.ServesFrom {rosterBefore, rosterAfter, rosterClosed}) DeltaChannel.opening trace channel ∧
    trace.map Prod.snd = [true, true, true, true, true, true, false] ∧
    ∀ reply ∈ channel.replies, channel.Converges rosterRuntime reply := by
  have replayed : ((deltaMachine rosterRuntime ⟨"che", "1", "context"⟩).replay DeltaChannel.opening rosterEvents).map
      (fun result => result.2.map Prod.snd) = some [true, true, true, true, true, true, false] := by
    decide +kernel
  obtain ⟨⟨channel, trace⟩, reached, outputs⟩ := Option.map_eq_some_iff.mp replayed
  have served : ∀ event ∈ rosterEvents, event.ServesFrom {rosterBefore, rosterAfter, rosterClosed} := by
    intro event member
    simp only [rosterEvents, List.mem_cons, List.not_mem_nil, or_false] at member
    rcases member with rfl | rfl | rfl | rfl | rfl | rfl | rfl <;> simp [DeltaEvent.ServesFrom]
  have run := StateMachine.runWhile_of_replay (fun event member _ => served event member) reached
  exact ⟨trace, channel, run, outputs, read_models_converge rosterRuntime_sound run⟩

end Sammo
