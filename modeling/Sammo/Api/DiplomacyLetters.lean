import Mathlib.Logic.Function.Basic
import Mathlib.Logic.Relation
import Sammo.Lib.StateMachine

/-! Diplomatic letters: nations write to each other, each letter may follow an earlier one, and agreements replace. -/

namespace Sammo.Letters

/-- Where a letter stands. -/
inductive DiplomacyLetterState where
  | proposed
  | activated
  | cancelled
  | replaced
  deriving DecidableEq

/-- The side that has asked for a letter in force to be destroyed. -/
inductive DestroyRequest where
  | tryDestroySrc
  | tryDestroyDest
  deriving DecidableEq

/-- Why a letter was withdrawn, refused or replaced: who did it, and what. -/
structure LetterReason where
  who : Nat
  action : String
  reason : String
  deriving DecidableEq

/-- A letter from one nation to another. -/
structure DiplomacyLetter where
  srcNationId : Nat
  destNationId : Nat
  prevId : Option Nat
  state : DiplomacyLetterState
  srcSignerId : Nat
  destSignerId : Option Nat
  stateOpt : Option DestroyRequest
  reason : Option LetterReason
  deriving DecidableEq

/-- Who makes a request: a general, its place in its nation, and what it may do there. -/
structure LetterActor where
  generalId : Nat
  nationId : Nat
  officerLevel : Nat
  permission : Int
  deriving DecidableEq

/-- All letters, and the id of the next one. -/
structure Correspondence where
  letters : Nat → Option DiplomacyLetter
  nextId : Nat

/-- What a request answers. -/
inductive LetterAnswer where
  | sent (id : Nat)
  | done
  | state (resultState : DiplomacyLetterState)
  deriving DecidableEq

/-- Only officers of a nation who may speak for it are let through. -/
def authorize (actor : LetterActor) (nations : List Nat) : Except String Unit :=
  if actor.nationId = 0 ∨ actor.officerLevel = 0 then .error "Nation membership required."
  else if actor.nationId ∉ nations then .error "Nation not found"
  else if actor.permission < 4 then .error "권한이 부족합니다."
  else .ok ⟨⟩

/-- Both nations of a letter have to be there. -/
def loadLetterNations (nations : List Nat) (srcNationId destNationId : Nat) : Except String Unit :=
  if srcNationId ∈ nations ∧ destNationId ∈ nations then .ok ⟨⟩ else .error "올바르지 않은 국가입니다."

namespace Correspondence

/-- A letter is written over. -/
def put (state : Correspondence) (id : Nat) (letter : DiplomacyLetter) : Correspondence :=
  { state with letters := Function.update state.letters id (some letter) }

/-- A letter with some condition, or none. -/
def findFirst (state : Correspondence) (id : Nat) (condition : DiplomacyLetter → Bool) :
    Except String DiplomacyLetter :=
  match (state.letters id).filter condition with
  | some letter => .ok letter
  | none => .error "서신이 없습니다."

/-- A letter that has not been cancelled follows another one. -/
def newer (state : Correspondence) (prevId : Nat) : Bool :=
  (List.range state.nextId).any fun id =>
    (state.letters id).any fun letter => letter.prevId = some prevId ∧ letter.state ≠ .cancelled

/-- A letter is added under the next id. -/
def add (state : Correspondence) (letter : DiplomacyLetter) : Correspondence :=
  ⟨Function.update state.letters state.nextId (some letter), state.nextId + 1⟩

/-- A new proposal is added. -/
def create (state : Correspondence) (actor : LetterActor) (nations : List Nat) (destNationId : Nat)
    (prevId : Option Nat) : Except String (Correspondence × LetterAnswer) :=
  if destNationId = actor.nationId ∨ actor.nationId ∉ nations ∨ destNationId ∉ nations then
    .error "올바르지 않은 국가입니다."
  else
    .ok (state.add
      { srcNationId := actor.nationId, destNationId, prevId, state := .proposed, srcSignerId := actor.generalId
        destSignerId := none, stateOpt := none, reason := none }, .sent state.nextId)

/-- Sends a letter; one that follows a proposal takes its place. -/
def sendLetter (state : Correspondence) (actor : LetterActor) (nations : List Nat) (destNationId : Nat)
    (prevId : Option Nat) : Except String (Correspondence × LetterAnswer) := do
  authorize actor nations
  if destNationId = actor.nationId then .error "자국으로 보낼 수 없습니다."
  else
    match prevId.filter fun id => 0 < id with
    | none => state.create actor nations destNationId none
    | some prevId =>
      let both := [actor.nationId, destNationId]
      match (state.letters prevId).filter fun letter =>
          decide (letter.srcNationId ∈ both ∧ letter.destNationId ∈ both) with
      | none => .error "이전 문서가 없습니다."
      | some prevLetter =>
        if state.newer prevId then .error "해당 문서에 대한 새로운 문서가 이미 있습니다."
        else
          let replaced := if prevLetter.state = .proposed then
              state.put prevId { prevLetter with
                state := .replaced, reason := some ⟨actor.generalId, "new_letter", "new_letter"⟩ }
            else state
          replaced.create actor nations
            (if prevLetter.srcNationId = actor.nationId then prevLetter.destNationId else prevLetter.srcNationId)
            (some prevId)

/-- Marks the letters before an agreement as replaced, one after another, for so many steps. -/
def replaceLine (state : Correspondence) : Nat → Option Nat → Correspondence
  | fuel + 1, some prevId =>
    match state.letters prevId with
    | none => state
    | some prevLetter => (state.put prevId { prevLetter with state := .replaced }).replaceLine fuel prevLetter.prevId
  | _, _ => state

/-- Agrees to a proposal, or refuses it. -/
def respondLetter (state : Correspondence) (actor : LetterActor) (nations : List Nat) (letterId : Nat) (agree : Bool)
    (reason : String) : Except String (Correspondence × LetterAnswer) := do
  authorize actor nations
  let letter ← state.findFirst letterId fun letter =>
    letter.destNationId = actor.nationId ∧ letter.state = .proposed
  loadLetterNations nations letter.srcNationId letter.destNationId
  if agree then
    -- The ids of a line go down, so there are not more letters before one than its id says.
    let activated := state.put letterId { letter with state := .activated, destSignerId := some actor.generalId }
    .ok (activated.replaceLine letterId letter.prevId, .done)
  else
    .ok (state.put letterId { letter with
      state := .cancelled, reason := some ⟨actor.generalId, "disagree", reason⟩ }, .done)

/-- Takes a proposal back. -/
def rollbackLetter (state : Correspondence) (actor : LetterActor) (nations : List Nat) (letterId : Nat) :
    Except String (Correspondence × LetterAnswer) := do
  authorize actor nations
  let letter ← state.findFirst letterId fun letter =>
    letter.srcNationId = actor.nationId ∧ letter.state = .proposed
  loadLetterNations nations letter.srcNationId letter.destNationId
  .ok (state.put letterId { letter with
    state := .cancelled, reason := some ⟨actor.generalId, "cancelled", "회수"⟩ }, .done)

/-- The request that a nation makes when it asks for a letter to be destroyed. -/
def myStateOpt (letter : DiplomacyLetter) (nationId : Nat) : DestroyRequest :=
  if letter.srcNationId = nationId then .tryDestroySrc else .tryDestroyDest

/-- Asks for a letter in force to be destroyed; once both nations have asked, it is. -/
def destroyLetter (state : Correspondence) (actor : LetterActor) (nations : List Nat) (letterId : Nat) :
    Except String (Correspondence × LetterAnswer) := do
  authorize actor nations
  let letter ← state.findFirst letterId fun letter =>
    letter.state = .activated ∧ (letter.srcNationId = actor.nationId ∨ letter.destNationId = actor.nationId)
  if letter.stateOpt = some (myStateOpt letter actor.nationId) then .error "이미 파기 신청을 했습니다."
  else
    loadLetterNations nations letter.srcNationId letter.destNationId
    if letter.stateOpt.isSome then .ok (state.put letterId { letter with state := .cancelled }, .state .cancelled)
    else
      .ok (state.put letterId { letter with stateOpt := some (myStateOpt letter actor.nationId) }, .state .activated)

end Correspondence

/-- A request about letters. -/
inductive LetterRequest where
  | send (destNationId : Nat) (prevId : Option Nat)
  | respond (letterId : Nat) (agree : Bool) (reason : String)
  | rollback (letterId : Nat)
  | destroy (letterId : Nat)
  deriving DecidableEq

/-- A request, with who makes it and the nations there are at the time. -/
structure LetterEvent where
  actor : LetterActor
  nations : List Nat
  request : LetterRequest
  deriving DecidableEq

/-- What a request leads to. -/
def LetterEvent.run (event : LetterEvent) (state : Correspondence) :
    Except String (Correspondence × LetterAnswer) :=
  match event.request with
  | .send destNationId prevId => state.sendLetter event.actor event.nations destNationId prevId
  | .respond letterId agree reason => state.respondLetter event.actor event.nations letterId agree reason
  | .rollback letterId => state.rollbackLetter event.actor event.nations letterId
  | .destroy letterId => state.destroyLetter event.actor event.nations letterId

/-- The requests come one after another, each in a transaction, so one that is refused leaves everything as it was. -/
def correspondence : StateMachine Correspondence LetterEvent (Except String LetterAnswer) where
  step state event := some (match event.run state with
    | .ok (next, answer) => (next, .ok answer)
    | .error message => (state, .error message))

end Sammo.Letters
