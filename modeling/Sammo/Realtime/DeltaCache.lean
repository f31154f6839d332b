import Sammo.Data.JsonText
import Sammo.Lib.StateMachine
import Sammo.Realtime.DeltaLaws

/-!
The server's side of read-model deltas: replies from cached snapshots, and the subscriber that applies them.

A server value is the JSON document that is sent: a date in it is the text it is written as, and a member without a
value is left out.
-/

namespace Sammo

/-- What the runtime and the libraries provide. -/
structure DeltaRuntime where
  /-- Whether a name comes before another one, or with it, in the order of the locale. -/
  localeLe : String → String → Bool
  numberText : ℚ → String
  /-- Parses a JSON text; a text that is none throws. -/
  parse : String → Option Json
  /-- The content hash of a text. -/
  digest : String → String
  applyPatch : ApplyPatch

/-- The names under which a read model is cached. -/
structure ReadModelSlice where
  profile : String
  viewerId : String
  slice : String

/-- The cache: the texts under its keys. -/
abbrev ReadModelDeltaCacheStore := String → Option String

/-- What a subscriber asks for, and what the server has to say. -/
structure ReadModelDeltaRequest where
  value : Json
  knownRevision : Option String
  forceSnapshot : Bool

/-- Whether the cache fails while a reply is made. -/
structure CacheFailures where
  reads : Bool
  writes : Bool

/-- A value below which a patch can change something. -/
def canPatch : Json → Bool
  | .arr _ | .obj _ => true
  | _ => false

/-- The name of an operation kind. -/
def JsonPatchOp.name : JsonPatchOp → String
  | .add => "add"
  | .remove => "remove"
  | .replace => "replace"
  | .move => "move"
  | .copy => "copy"
  | .test => "test"

/-- An operation as it is sent. -/
def JsonPatchOperation.toJson (operation : JsonPatchOperation) : Json :=
  .obj ([("op", .str operation.op.name), ("path", .str operation.path)] ++
    (operation.fromPath.map fun path => ("from", Json.str path)).toList ++
    (operation.value.map fun value => ("value", value)).toList)

namespace DeltaRuntime

variable (runtime : DeltaRuntime) (slice : ReadModelSlice)

/-- The canonical form of a server value. -/
def canonical (value : Json) : Json := canonicalize runtime.localeLe value

/-- The text of a server value. -/
def serialized (value : Json) : String := stringify runtime.numberText (runtime.canonical value)

/-- The revision of a server value. -/
def revision (value : Json) : String := runtime.digest (runtime.serialized value)

/-- The scope of a read model's keys. -/
def buildScope : String :=
  runtime.digest (slice.profile ++ "\x00" ++ slice.viewerId ++ "\x00" ++ slice.slice)

/-- The key under which the snapshot of a revision is cached. -/
def buildReadModelDeltaCacheKey (revision : String) : String :=
  "sammo:" ++ slice.profile ++ ":private-read-model:" ++ runtime.buildScope slice ++ ":" ++ revision

/-- The bytes that a snapshot would take. -/
def snapshotByteLength (revision serialized : String) : Nat :=
  ("\x7b\"kind\":\"snapshot\",\"revision\":" ++ quoteJson revision ++ ",\"data\":").utf8ByteSize +
    serialized.utf8ByteSize + 1

/-- The bytes that a patch takes. -/
def patchByteLength (baseRevision revision : String) (operations : List JsonPatchOperation) : Nat :=
  (stringify runtime.numberText (.obj [("kind", .str "patch"), ("baseRevision", .str baseRevision),
    ("revision", .str revision), ("operations", .arr (operations.map JsonPatchOperation.toJson))])).utf8ByteSize

/-- Caches a snapshot, if the cache lets it. -/
def storeSnapshot (fails : Bool) (store : ReadModelDeltaCacheStore) (key serialized : String) :
    ReadModelDeltaCacheStore :=
  if fails then store else Function.update store key (some serialized)

/-- The cached snapshot of a revision, if it can be read. -/
def readBaseline (store : ReadModelDeltaCacheStore) (fails : Bool) (revision : String) : Option Json :=
  if fails then none
  else ((store (runtime.buildReadModelDeltaCacheKey slice revision)).filter (· ≠ "")).bind runtime.parse

/-- The reply from a baseline: the patch to the value where it is shorter than the value. -/
def deltaFrom (baseRevision : String) (baseline value : Json) : ReadModelDelta :=
  let next := runtime.canonical value
  let revision := runtime.revision value
  let operations := createJsonPatch baseline next
  if canPatch baseline ∧ canPatch next ∧
      runtime.patchByteLength baseRevision revision operations <
        snapshotByteLength revision (runtime.serialized value) then
    .patch baseRevision revision none operations
  else .snapshot revision none next

/-- The reply to a request, and the cache after it. -/
def createReadModelDelta (store : ReadModelDeltaCacheStore) (failures : CacheFailures)
    (request : ReadModelDeltaRequest) : ReadModelDelta × ReadModelDeltaCacheStore :=
  let revision := runtime.revision request.value
  let stored := storeSnapshot failures.writes store (runtime.buildReadModelDeltaCacheKey slice revision)
    (runtime.serialized request.value)
  let snapshot := .snapshot revision none (runtime.canonical request.value)
  if request.forceSnapshot then (snapshot, stored)
  else if request.knownRevision = some revision then (.unchanged revision none, store)
  else
    -- An empty revision counts as none.
    match request.knownRevision.filter (· ≠ "") with
    | none => (snapshot, stored)
    | some known =>
      match runtime.readBaseline slice store failures.reads known with
      | none => (snapshot, stored)
      | some baseline => (runtime.deltaFrom known baseline request.value, stored)

end DeltaRuntime

/-- A reply on its way, with the value it stands for and the revision it was asked with. -/
structure ReadModelReply where
  value : Json
  knownRevision : Option String
  delta : ReadModelDelta

/-- A read model between the server's cache and a subscriber. -/
structure DeltaChannel where
  store : ReadModelDeltaCacheStore
  current : Option Json
  currentRevision : Option String
  replies : List ReadModelReply

/-- Nothing is cached, and the subscriber has no copy. -/
def DeltaChannel.opening : DeltaChannel := ⟨fun _ => none, none, none, []⟩

/-- What happens to a read model. -/
inductive DeltaEvent where
  /-- A reply is made to some revision, which need not be the one that the subscriber has. -/
  | request (value : JsonDocument) (knownRevision : Option String) (forceSnapshot : Bool) (failures : CacheFailures)
  /-- A snapshot expires or is thrown out of the cache. -/
  | evict (key : String)
  /-- One of the replies arrives, late or twice or in another order as it may be. -/
  | deliver (index : Nat)
  /-- The subscriber starts anew. -/
  | reload

/-- The subscriber after a reply: a copy that follows it, or the copy it had if the reply does not apply. -/
def DeltaChannel.receive (runtime : DeltaRuntime) (channel : DeltaChannel) (reply : ReadModelReply) : DeltaChannel × Bool :=
  match applyReadModelDelta runtime.applyPatch channel.current channel.currentRevision reply.delta with
  | .ok applied => ({ channel with current := some applied.data, currentRevision := some applied.revision }, true)
  | .error _ => (channel, false)

/-- The server, its cache and a subscriber; an arrival tells whether the reply applied. -/
def deltaMachine (runtime : DeltaRuntime) (slice : ReadModelSlice) : StateMachine DeltaChannel DeltaEvent Bool where
  step channel
    | .request value knownRevision forceSnapshot failures =>
      let reply := runtime.createReadModelDelta slice channel.store failures ⟨value.value, knownRevision, forceSnapshot⟩
      some ({ channel with
        store := reply.2, replies := channel.replies ++ [⟨value.value, knownRevision, reply.1⟩] }, true)
    | .evict key => some ({ channel with store := Function.update channel.store key none }, true)
    | .deliver index => (channel.replies[index]?).map (channel.receive runtime)
    | .reload => some ({ channel with current := none, currentRevision := none }, true)

end Sammo
