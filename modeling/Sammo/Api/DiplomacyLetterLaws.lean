import Sammo.Api.DiplomacyLetters
import Sammo.Lib.Effect

/-! Of the letters of one line at most one is in force, and it ends by an agreement that follows or by both nations. -/

namespace Sammo.Letters

open Relation

namespace Correspondence

/-- A letter is followed by another one. -/
def Link (state : Correspondence) (old new : Nat) : Prop :=
  ∃ letter, state.letters new = some letter ∧ letter.prevId = some old

/-- Two letters are between the same two nations. -/
def SamePair (left right : DiplomacyLetter) : Prop :=
  left.srcNationId = right.srcNationId ∧ left.destNationId = right.destNationId ∨
    left.srcNationId = right.destNationId ∧ left.destNationId = right.srcNationId

/-- Lines of letters go back in time between two nations, and what a letter in force follows is replaced. -/
structure Orderly (state : Correspondence) : Prop where
  bounded : ∀ id letter, state.letters id = some letter → id < state.nextId
  apart : ∀ id letter, state.letters id = some letter → letter.srcNationId ≠ letter.destNationId
  linked : ∀ id letter prev, state.letters id = some letter → letter.prevId = some prev →
    prev < id ∧ ∃ earlier, state.letters prev = some earlier ∧ earlier.state ≠ .proposed ∧ SamePair earlier letter
  inForce : ∀ old new earlier letter, TransGen state.Link old new → state.letters old = some earlier →
    state.letters new = some letter → letter.state = .activated → earlier.state = .replaced

/-- What never changes about a letter, and what never changes back. -/
structure Carries (before after : DiplomacyLetter) : Prop where
  src : after.srcNationId = before.srcNationId
  dest : after.destNationId = before.destNationId
  prev : after.prevId = before.prevId
  answered : before.state ≠ .proposed → after.state ≠ .proposed
  replaced : before.state = .replaced → after.state = .replaced

variable {state next : Correspondence} {id fuel : Nat} {letter changed : DiplomacyLetter} {start : Option Nat}

theorem link_congr (same : ∀ id, (next.letters id).map DiplomacyLetter.prevId =
    (state.letters id).map DiplomacyLetter.prevId) : next.Link = state.Link := by
  have read (state : Correspondence) (old new : Nat) :
      state.Link old new ↔ (state.letters new).map DiplomacyLetter.prevId = some (some old) := by
    simp [Link, Option.map_eq_some_iff]
  funext old new
  rw [eq_iff_iff, read, read, same]

theorem put_apply (other : Nat) :
    (state.put id changed).letters other = if other = id then some changed else state.letters other :=
  Function.update_apply ..

theorem link_put (found : state.letters id = some letter) (same : changed.prevId = letter.prevId) :
    (state.put id changed).Link = state.Link := by
  refine link_congr fun other => ?_
  rw [put_apply]
  split
  · rename_i itself
    rw [itself, found, Option.map_some, Option.map_some, same]
  · rfl

theorem Orderly.put (orderly : state.Orderly) (found : state.letters id = some letter) (carries : Carries letter changed)
    (still : changed.state = .activated → letter.state = .activated) : (state.put id changed).Orderly := by
  -- Every letter there is has come from one that carried it.
  have origin {other : Nat} {after : DiplomacyLetter} (seen : (state.put id changed).letters other = some after) :
      ∃ before, state.letters other = some before ∧ Carries before after ∧
        (after.state = .activated → before.state = .activated) := by
    rw [put_apply] at seen
    split at seen
    · rename_i itself
      cases seen
      exact ⟨letter, itself ▸ found, carries, still⟩
    · exact ⟨after, seen, ⟨rfl, rfl, rfl, fun open_ => open_, fun gone => gone⟩, fun held => held⟩
  have later {other : Nat} {before : DiplomacyLetter} (seen : state.letters other = some before) :
      ∃ after, (state.put id changed).letters other = some after ∧ Carries before after := by
    rw [put_apply]
    split
    · rename_i itself
      rw [itself, found] at seen
      cases seen
      exact ⟨changed, rfl, carries⟩
    · exact ⟨before, seen, ⟨rfl, rfl, rfl, fun open_ => open_, fun gone => gone⟩⟩
  constructor
  · intro other after seen
    obtain ⟨before, was, -⟩ := origin seen
    exact orderly.bounded other before was
  · intro other after seen
    obtain ⟨before, was, carried, -⟩ := origin seen
    rw [carried.src, carried.dest]
    exact orderly.apart other before was
  · intro other after prev seen follows
    obtain ⟨before, was, carried, -⟩ := origin seen
    obtain ⟨down, earlier, there, answered, pair⟩ := orderly.linked other before prev was (carried.prev ▸ follows)
    obtain ⟨now, stored, kept⟩ := later there
    refine ⟨down, now, stored, kept.answered answered, ?_⟩
    unfold SamePair at pair ⊢
    rw [kept.src, kept.dest, carried.src, carried.dest]
    exact pair
  · intro old new earlier after line seenOld seenNew active
    rw [link_put found carries.prev] at line
    obtain ⟨before, was, carried, -⟩ := origin seenOld
    obtain ⟨source, there, -, held⟩ := origin seenNew
    exact carried.replaced (orderly.inForce old new before source line was there (held active))

theorem replaceLine_either (state : Correspondence) (fuel : Nat) (start : Option Nat) :
    (state.replaceLine fuel start).nextId = state.nextId ∧
    ∀ id, (state.replaceLine fuel start).letters id = state.letters id ∨ ∃ letter, state.letters id = some letter ∧
      (state.replaceLine fuel start).letters id = some { letter with state := .replaced } := by
  -- The induction is on the steps; a letter that is replaced twice is replaced.
  induction fuel generalizing state start with
  | zero => exact ⟨rfl, fun id => .inl rfl⟩
  | succ fuel ih =>
    unfold replaceLine
    split
    · rename_i first same
      split
      · exact ⟨rfl, fun id => .inl rfl⟩
      · rename_i prevLetter found
        cases same
        obtain ⟨number, either⟩ := ih (state.put first { prevLetter with state := .replaced }) prevLetter.prevId
        refine ⟨number, fun id => ?_⟩
        rcases either id with stays | ⟨letter, was, now⟩
        · rw [stays, put_apply]
          split
          · rename_i itself
            exact .inr ⟨prevLetter, itself ▸ found, rfl⟩
          · exact .inl rfl
        · rw [put_apply] at was
          split at was
          · rename_i itself
            cases was
            exact .inr ⟨prevLetter, itself ▸ found, now⟩
          · exact .inr ⟨letter, was, now⟩
    · exact ⟨rfl, fun id => .inl rfl⟩

theorem replaceLine_spec (down : ∀ id letter prev, state.letters id = some letter → letter.prevId = some prev → prev < id)
    (enough : ∀ first, start = some first → first < fuel) :
    (∀ id, (∀ first, start = some first → first < id) → (state.replaceLine fuel start).letters id = state.letters id) ∧
    ∀ id letter first, start = some first → ReflTransGen state.Link id first → state.letters id = some letter →
      (state.replaceLine fuel start).letters id = some { letter with state := .replaced } := by
  -- The induction is on the steps; each of them goes on from the letter before, whose id is smaller.
  induction fuel generalizing state start with
  | zero =>
    refine ⟨fun id _ => rfl, ?_⟩
    exact fun id letter first begins => (Nat.not_lt_zero _ (enough first begins)).elim
  | succ fuel ih =>
    cases start with
    | none => exact ⟨fun id _ => rfl, nofun⟩
    | some first =>
      cases found : state.letters first with
      | none =>
        have stays : state.replaceLine (fuel + 1) (some first) = state := by simp [replaceLine, found]
        rw [stays]
        refine ⟨fun id _ => rfl, ?_⟩
        rintro id letter _ ⟨⟩ line stored
        rcases line.cases_tail with same | ⟨middle, -, before, there, -⟩
        · cases same
          cases stored.symm.trans found
        · cases there.symm.trans found
      | some prevLetter =>
        let marked := state.put first { prevLetter with state := .replaced }
        have goes : state.replaceLine (fuel + 1) (some first) = marked.replaceLine fuel prevLetter.prevId := by
          simp [replaceLine, found, marked]
        have links : marked.Link = state.Link := link_put found rfl
        have other {id : Nat} (different : id ≠ first) : marked.letters id = state.letters id := by
          rw [put_apply, if_neg different]
        have itself : marked.letters first = some { prevLetter with state := .replaced } := by
          rw [put_apply, if_pos rfl]
        have downMarked (id : Nat) (letter : DiplomacyLetter) (prev : Nat) (stored : marked.letters id = some letter)
            (follows : letter.prevId = some prev) : prev < id := by
          by_cases same : id = first
          · subst same
            cases itself.symm.trans stored
            exact down _ prevLetter prev found follows
          · exact down id letter prev (other same ▸ stored) follows
        obtain ⟨later, line⟩ := @ih marked prevLetter.prevId downMarked
          (fun prev begins => Nat.lt_of_lt_of_le (down first prevLetter prev found begins)
            (Nat.le_of_lt_succ (enough first rfl)))
        have still : (marked.replaceLine fuel prevLetter.prevId).letters first = marked.letters first :=
          later first fun prev begins => down first prevLetter prev found begins
        rw [goes]
        refine ⟨?_, ?_⟩
        · intro id below
          have past : first < id := below first rfl
          rw [later id fun prev begins => Nat.lt_trans (down first prevLetter prev found begins) past, other (Nat.ne_of_gt past)]
        · rintro id letter _ ⟨⟩ reaches stored
          rcases reaches.cases_tail with same | ⟨middle, further, before, there, follows⟩
          · cases same
            cases stored.symm.trans found
            exact still.trans itself
          · cases there.symm.trans found
            by_cases same : id = first
            · subst same
              cases stored.symm.trans found
              exact still.trans itself
            · exact line id letter middle follows (links ▸ further) ((other same).trans stored)

theorem Orderly.line_lt (orderly : state.Orderly) {old new : Nat} (line : TransGen state.Link old new) : old < new := by
  induction line with
  | single link =>
    obtain ⟨letter, found, follows⟩ := link
    exact (orderly.linked _ letter _ found follows).1
  | tail _ link ih =>
    obtain ⟨letter, found, follows⟩ := link
    exact Nat.lt_trans ih (orderly.linked _ letter _ found follows).1

theorem Orderly.agree (orderly : state.Orderly) (found : state.letters id = some letter) (open_ : letter.state = .proposed)
    (signer : Nat) : ((state.put id { letter with state := .activated, destSignerId := some signer }).replaceLine id
      letter.prevId).Orderly := by
  let agreed : DiplomacyLetter := { letter with state := .activated, destSignerId := some signer }
  let activated := state.put id agreed
  have links : activated.Link = state.Link := link_put found rfl
  have own : activated.letters id = some agreed := by rw [put_apply, if_pos rfl]
  have other {place : Nat} (different : place ≠ id) : activated.letters place = state.letters place := by
    rw [put_apply, if_neg different]
  have down (place : Nat) (after : DiplomacyLetter) (prev : Nat) (stored : activated.letters place = some after)
      (follows : after.prevId = some prev) : prev < place := by
    by_cases same : place = id
    · subst same
      cases own.symm.trans stored
      exact (orderly.linked _ letter prev found follows).1
    · exact (orderly.linked place after prev (other same ▸ stored) follows).1
  obtain ⟨number, either⟩ := replaceLine_either activated id letter.prevId
  obtain ⟨later, line⟩ := @replaceLine_spec activated id letter.prevId down
    fun first begins => (orderly.linked id letter first found begins).1
  have itself := (later id fun first begins => (orderly.linked id letter first found begins).1).trans own
  have linksAfter : (activated.replaceLine id letter.prevId).Link = state.Link := by
    rw [← links]
    refine link_congr fun place => ?_
    rcases either place with same | ⟨before, was, now⟩
    · rw [same]
    · rw [was, now, Option.map_some, Option.map_some]
  -- What is stored has been there, or is the agreement.
  have origin {place : Nat} {after : DiplomacyLetter}
      (seen : (activated.replaceLine id letter.prevId).letters place = some after) :
      ∃ before, state.letters place = some before ∧ after.srcNationId = before.srcNationId ∧
        after.destNationId = before.destNationId ∧ after.prevId = before.prevId ∧
        (place ≠ id → after = before ∨ after.state = .replaced) := by
    by_cases same : place = id
    · subst same
      cases itself.symm.trans seen
      exact ⟨letter, found, rfl, rfl, rfl, fun different => (different rfl).elim⟩
    · rcases either place with stays | ⟨before, was, now⟩
      · exact ⟨after, (other same).symm.trans (stays.symm.trans seen), rfl, rfl, rfl, fun _ => .inl rfl⟩
      · cases now.symm.trans seen
        exact ⟨before, (other same).symm.trans was, rfl, rfl, rfl, fun _ => .inr rfl⟩
  have later_ {place : Nat} {before : DiplomacyLetter} (different : place ≠ id)
      (stored : state.letters place = some before) :
      ∃ after, (activated.replaceLine id letter.prevId).letters place = some after ∧
        after.srcNationId = before.srcNationId ∧ after.destNationId = before.destNationId ∧
        (after = before ∨ after.state = .replaced) := by
    rcases either place with stays | ⟨held, was, now⟩
    · exact ⟨before, stays.trans ((other different).trans stored), rfl, rfl, .inl rfl⟩
    · cases was.symm.trans ((other different).trans stored)
      exact ⟨_, now, rfl, rfl, .inr rfl⟩
  constructor
  · intro place after seen
    obtain ⟨before, was, -⟩ := origin seen
    rw [number]
    exact orderly.bounded place before was
  · intro place after seen
    obtain ⟨before, was, src, dest, -⟩ := origin seen
    rw [src, dest]
    exact orderly.apart place before was
  · intro place after prev seen follows
    obtain ⟨before, was, src, dest, back, -⟩ := origin seen
    obtain ⟨below, earlier, there, answered, pair⟩ := orderly.linked place before prev was (back ▸ follows)
    have different : prev ≠ id := by
      rintro rfl
      cases there.symm.trans found
      exact answered open_
    obtain ⟨now, stored, nowSrc, nowDest, kept⟩ := later_ different there
    refine ⟨below, now, stored, ?_, ?_⟩
    · rcases kept with rfl | gone
      · exact answered
      · rw [gone]
        nofun
    · unfold SamePair at pair ⊢
      rw [nowSrc, nowDest, src, dest]
      exact pair
  · intro old new earlier after reaches seenOld seenNew active
    rw [linksAfter] at reaches
    by_cases same : new = id
    · -- The agreement itself: its whole line has been replaced.
      subst same
      obtain ⟨middle, further, held, stored, follows⟩ := TransGen.tail'_iff.mp reaches
      cases stored.symm.trans found
      have above : old ≠ new := Nat.ne_of_lt (orderly.line_lt reaches)
      obtain ⟨before, was, -⟩ := origin seenOld
      have marked := line old before middle follows (links ▸ further) ((other above).trans was)
      cases marked.symm.trans seenOld
      rfl
    · obtain ⟨source, there, -, -, -, held⟩ := origin seenNew
      rcases held same with rfl | gone
      · obtain ⟨before, was, -, -, -, kept⟩ := origin seenOld
        have replaced := orderly.inForce old new before after reaches was there active
        have different : old ≠ id := by
          rintro rfl
          cases was.symm.trans found
          rw [open_] at replaced
          cases replaced
        rcases kept different with rfl | gone
        · exact replaced
        · exact gone
      · rw [gone] at active
        cases active

theorem Orderly.add (orderly : state.Orderly) (open_ : letter.state = .proposed)
    (abroad : letter.srcNationId ≠ letter.destNationId) (follows : ∀ prev, letter.prevId = some prev →
      ∃ earlier, state.letters prev = some earlier ∧ earlier.state ≠ .proposed ∧ SamePair earlier letter) :
    (state.add letter).Orderly := by
  have apply (place : Nat) : (state.add letter).letters place =
      if place = state.nextId then some letter else state.letters place := Function.update_apply ..
  -- The new letter is the last one, so nothing follows it and the others are as before.
  have other {place : Nat} {stored : DiplomacyLetter} (found : state.letters place = some stored) :
      place ≠ state.nextId := Nat.ne_of_lt (orderly.bounded place stored found)
  have links {old new : Nat} (different : new ≠ state.nextId) (line : TransGen (state.add letter).Link old new) :
      TransGen state.Link old new := by
    induction line with
    | single link =>
      obtain ⟨after, found, back⟩ := link
      rw [apply, if_neg different] at found
      exact .single ⟨after, found, back⟩
    | tail _ link ih =>
      obtain ⟨after, found, back⟩ := link
      rw [apply, if_neg different] at found
      obtain ⟨-, earlier, there, -⟩ := orderly.linked _ after _ found back
      exact .tail (ih (other there)) ⟨after, found, back⟩
  constructor
  · intro place after found
    rw [apply] at found
    split at found
    · rename_i last
      exact last ▸ Nat.lt_succ_self _
    · exact Nat.lt_succ_of_lt (orderly.bounded place after found)
  · intro place after found
    rw [apply] at found
    split at found
    · cases found
      exact abroad
    · exact orderly.apart place after found
  · intro place after prev found back
    rw [apply] at found
    split at found
    · rename_i last
      cases found
      obtain ⟨earlier, there, rest⟩ := follows prev back
      refine ⟨last ▸ orderly.bounded prev earlier there, earlier, ?_, rest⟩
      rw [apply, if_neg (other there)]
      exact there
    · obtain ⟨down, earlier, there, rest⟩ := orderly.linked place after prev found back
      refine ⟨down, earlier, ?_, rest⟩
      rw [apply, if_neg (other there)]
      exact there
  · intro old new earlier after line foundOld foundNew active
    rw [apply] at foundNew
    split at foundNew
    · cases foundNew
      rw [open_] at active
      cases active
    · rename_i different
      have before := links different line
      have down := orderly.line_lt before
      have bound := orderly.bounded new after foundNew
      rw [apply, if_neg (by omega)] at foundOld
      exact orderly.inForce old new earlier after before foundOld foundNew active

theorem findFirst_ok {condition : DiplomacyLetter → Bool} (ok : state.findFirst id condition = .ok letter) :
    state.letters id = some letter ∧ condition letter := by
  unfold findFirst at ok
  split at ok
  · rename_i found
    cases ok
    exact Option.filter_eq_some_iff.mp found
  · cases ok

end Correspondence

/-- What a request that is carried out does to the letters. -/
inductive Done (event : LetterEvent) (state : Correspondence) : Correspondence → Prop
  | sent {letter : DiplomacyLetter} (open_ : letter.state = .proposed)
      (abroad : letter.srcNationId ≠ letter.destNationId)
      (fresh : letter.destSignerId = none ∧ letter.stateOpt = none) (follows : ∀ prev, letter.prevId = some prev →
        ∃ earlier, state.letters prev = some earlier ∧ earlier.state ≠ .proposed ∧
          Correspondence.SamePair earlier letter) : Done event state (state.add letter)
  | followed {id : Nat} {earlier letter : DiplomacyLetter} (reason : Option LetterReason)
      (found : state.letters id = some earlier) (waiting : earlier.state = .proposed) (open_ : letter.state = .proposed)
      (abroad : letter.srcNationId ≠ letter.destNationId)
      (fresh : letter.destSignerId = none ∧ letter.stateOpt = none) (back : letter.prevId = some id)
      (pair : Correspondence.SamePair earlier letter) :
      Done event state ((state.put id { earlier with state := .replaced, reason }).add letter)
  | agreed {id : Nat} {letter : DiplomacyLetter} (found : state.letters id = some letter)
      (open_ : letter.state = .proposed) : Done event state ((state.put id { letter with
        state := .activated, destSignerId := some event.actor.generalId }).replaceLine id letter.prevId)
  | ended {id : Nat} {letter : DiplomacyLetter} (reason : Option LetterReason)
      (found : state.letters id = some letter) (open_ : letter.state = .proposed) :
      Done event state (state.put id { letter with state := .cancelled, reason })
  | asked {id : Nat} {letter : DiplomacyLetter} (asks : event.request = .destroy id)
      (found : state.letters id = some letter) (active : letter.state = .activated)
      (party : letter.srcNationId = event.actor.nationId ∨ letter.destNationId = event.actor.nationId) :
      Done event state
        (state.put id { letter with stateOpt := some (Correspondence.myStateOpt letter event.actor.nationId) })
  | destroyed {id : Nat} {letter : DiplomacyLetter} {other : DestroyRequest} (asks : event.request = .destroy id)
      (found : state.letters id = some letter) (active : letter.state = .activated)
      (party : letter.srcNationId = event.actor.nationId ∨ letter.destNationId = event.actor.nationId)
      (also : letter.stateOpt = some other) (theirs : other ≠ Correspondence.myStateOpt letter event.actor.nationId) :
      Done event state (state.put id { letter with state := .cancelled })

namespace Correspondence

variable {state next : Correspondence} {id : Nat} {letter : DiplomacyLetter} {event : LetterEvent}
  {answer : LetterAnswer}

theorem create_ok {actor : LetterActor} {nations : List Nat} {destNationId : Nat} {prevId : Option Nat}
    (created : state.create actor nations destNationId prevId = .ok (next, answer)) :
    actor.nationId ≠ destNationId ∧ next = state.add
      { srcNationId := actor.nationId, destNationId, prevId, state := .proposed, srcSignerId := actor.generalId
        destSignerId := none, stateOpt := none, reason := none } := by
  unfold Correspondence.create at created
  split at created
  · cases created
  · rename_i admitted
    cases created
    exact ⟨fun same => admitted (.inl same.symm), rfl⟩

theorem sendLetter_done {actor : LetterActor} {destNationId : Nat} {prevId : Option Nat} (orderly : state.Orderly)
    (sent : state.sendLetter actor event.nations destNationId prevId = .ok (next, answer)) : Done event state next := by
  obtain ⟨-, -, went⟩ := Effect.bind_ok sent
  split at went
  · cases went
  split at went
  · obtain ⟨abroad, rfl⟩ := create_ok went
    exact .sent rfl abroad ⟨rfl, rfl⟩ nofun
  · rename_i earlierId _
    dsimp only at went
    split at went
    · cases went
    rename_i earlier found
    obtain ⟨stored, both⟩ := Option.filter_eq_some_iff.mp found
    have apart := orderly.apart earlierId earlier stored
    have pair : SamePair earlier
        { srcNationId := actor.nationId, prevId := some earlierId, state := .proposed, srcSignerId := actor.generalId
          destNationId := if earlier.srcNationId = actor.nationId then earlier.destNationId else earlier.srcNationId
          destSignerId := none, stateOpt := none, reason := none } := by
      simp only [List.mem_cons, List.not_mem_nil, or_false, decide_eq_true_eq] at both
      unfold SamePair
      dsimp only
      grind
    split at went
    · cases went
    split at went
    · rename_i waiting
      obtain ⟨abroad, rfl⟩ := create_ok went
      exact .followed _ stored waiting rfl abroad ⟨rfl, rfl⟩ rfl pair
    · rename_i answered
      obtain ⟨abroad, rfl⟩ := create_ok went
      refine .sent rfl abroad ⟨rfl, rfl⟩ ?_
      rintro _ ⟨⟩
      exact ⟨earlier, stored, answered, pair⟩

theorem done_of_run (orderly : state.Orderly) (ran : event.run state = .ok (next, answer)) : Done event state next := by
  unfold LetterEvent.run at ran
  split at ran
  · exact sendLetter_done orderly ran
  · obtain ⟨-, -, rest⟩ := Effect.bind_ok ran
    obtain ⟨letter, seen, rest⟩ := Effect.bind_ok rest
    obtain ⟨-, -, rest⟩ := Effect.bind_ok rest
    obtain ⟨found, mine⟩ := findFirst_ok seen
    simp only [decide_eq_true_eq] at mine
    split at rest
    · cases rest
      exact .agreed found mine.2
    · cases rest
      exact .ended _ found mine.2
  · obtain ⟨-, -, rest⟩ := Effect.bind_ok ran
    obtain ⟨letter, seen, rest⟩ := Effect.bind_ok rest
    obtain ⟨-, -, rest⟩ := Effect.bind_ok rest
    obtain ⟨found, mine⟩ := findFirst_ok seen
    simp only [decide_eq_true_eq] at mine
    cases rest
    exact .ended _ found mine.2
  · rename_i asks
    obtain ⟨-, -, rest⟩ := Effect.bind_ok ran
    obtain ⟨letter, seen, rest⟩ := Effect.bind_ok rest
    obtain ⟨found, mine⟩ := findFirst_ok seen
    simp only [decide_eq_true_eq] at mine
    split at rest
    · cases rest
    rename_i other
    obtain ⟨-, -, rest⟩ := Effect.bind_ok rest
    split at rest
    · rename_i also
      cases rest
      obtain ⟨theirs, asked⟩ := Option.isSome_iff_exists.mp also
      exact .destroyed asks found mine.1 mine.2 asked fun same => other (asked.trans (congrArg some same))
    · cases rest
      exact .asked asks found mine.1 mine.2

theorem Orderly.done (orderly : state.Orderly) (done : Done event state next) : next.Orderly := by
  cases done with
  | sent open_ abroad _ follows => exact orderly.add open_ abroad follows
  | @followed id earlier letter reason found waiting open_ abroad _ back pair =>
    have replaced : (state.put id { earlier with state := .replaced, reason }).Orderly :=
      orderly.put found ⟨rfl, rfl, rfl, nofun, fun _ => rfl⟩ nofun
    refine replaced.add open_ abroad fun prev follows => ?_
    cases back.symm.trans follows
    exact ⟨{ earlier with state := .replaced, reason }, by rw [put_apply, if_pos rfl], nofun, pair⟩
  | agreed found open_ => exact orderly.agree found open_ _
  | ended reason found open_ =>
    exact orderly.put found ⟨rfl, rfl, rfl, nofun, fun gone => by rw [open_] at gone; cases gone⟩ nofun
  | asked asks found active party => exact orderly.put found ⟨rfl, rfl, rfl, fun held => held, fun held => held⟩ fun held => held
  | destroyed asks found active =>
    exact orderly.put found ⟨rfl, rfl, rfl, nofun, fun gone => by rw [active] at gone; cases gone⟩ nofun

/-- A nation has asked for a letter to be destroyed. -/
def Asked (trace : List (LetterEvent × Except String LetterAnswer)) (id nationId : Nat) : Prop :=
  ∃ event answer, (event, .ok answer) ∈ trace ∧ event.actor.nationId = nationId ∧ event.request = .destroy id

/-- The nation that a request to destroy a letter is from. -/
def sideOf (letter : DiplomacyLetter) : DestroyRequest → Nat
  | .tryDestroySrc => letter.srcNationId
  | .tryDestroyDest => letter.destNationId

/-- What has been asked for a letter is in the trace, and a cancelled agreement was cancelled by both sides. -/
structure Consented (trace : List (LetterEvent × Except String LetterAnswer)) (id : Nat) (letter : DiplomacyLetter) :
    Prop where
  unsigned : letter.state = .proposed → letter.destSignerId = none ∧ letter.stateOpt = none
  asked : ∀ request, letter.stateOpt = some request → Asked trace id (sideOf letter request)
  both : letter.destSignerId.isSome → letter.state = .cancelled →
    Asked trace id letter.srcNationId ∧ Asked trace id letter.destNationId

variable {trace : List (LetterEvent × Except String LetterAnswer)}

theorem Asked.later {nationId : Nat} (asked : Asked trace id nationId)
    (last : LetterEvent × Except String LetterAnswer) : Asked (trace ++ [last]) id nationId := by
  obtain ⟨event, answer, member, rest⟩ := asked
  exact ⟨event, answer, List.mem_append_left _ member, rest⟩

theorem Consented.later (consented : Consented trace id letter) (last : LetterEvent × Except String LetterAnswer) :
    Consented (trace ++ [last]) id letter :=
  ⟨consented.unsigned, fun request held => (consented.asked request held).later last, fun signed gone =>
    ⟨(consented.both signed gone).1.later last, (consented.both signed gone).2.later last⟩⟩

theorem sideOf_myStateOpt {nationId : Nat}
    (party : letter.srcNationId = nationId ∨ letter.destNationId = nationId) :
    sideOf letter (myStateOpt letter nationId) = nationId := by
  unfold myStateOpt
  split
  · assumption
  · rename_i other
    exact party.resolve_left other

theorem consented_done (done : Done event state next)
    (before : ∀ id letter, state.letters id = some letter → Consented trace id letter) :
    ∀ id letter, next.letters id = some letter → Consented (trace ++ [(event, .ok answer)]) id letter := by
  have kept {id : Nat} {letter : DiplomacyLetter} (found : state.letters id = some letter) :=
    (before id letter found).later (event, .ok answer)
  have putting {place : Nat} {changed : DiplomacyLetter}
      (new : Consented (trace ++ [(event, .ok answer)]) place changed) (other : Nat) (stored : DiplomacyLetter)
      (found : (state.put place changed).letters other = some stored) :
      Consented (trace ++ [(event, .ok answer)]) other stored := by
    rw [put_apply] at found
    split at found
    · rename_i same
      cases found
      exact same ▸ new
    · exact kept found
  have asks {id : Nat} (wanted : event.request = .destroy id) :
      Asked (trace ++ [(event, .ok answer)]) id event.actor.nationId :=
    ⟨event, answer, List.mem_append_right _ List.mem_cons_self, rfl, wanted⟩
  have fresh {letter : DiplomacyLetter} (unsigned : letter.destSignerId = none ∧ letter.stateOpt = none) (id : Nat) :
      Consented (trace ++ [(event, .ok answer)]) id letter :=
    ⟨fun _ => unsigned, by simp [unsigned.2], by simp [unsigned.1]⟩
  cases done with
  | sent open_ abroad unsigned follows =>
    intro id letter found
    rw [show (state.add _).letters id = _ from Function.update_apply ..] at found
    split at found
    · cases found
      exact fresh unsigned id
    · exact kept found
  | followed reason found waiting open_ abroad unsigned back pair =>
    intro id letter seen
    rw [show (add _ _).letters id = _ from Function.update_apply ..] at seen
    split at seen
    · cases seen
      exact fresh unsigned id
    · refine putting (fresh ?_ _) id letter seen
      exact (before _ _ found).unsigned waiting
  | @agreed place letter found open_ =>
    have unsigned := (before place letter found).unsigned open_
    have agreement : Consented (trace ++ [(event, .ok answer)]) place
        { letter with state := .activated, destSignerId := some event.actor.generalId } :=
      ⟨nofun, fun request held => (kept found).asked request held, nofun⟩
    intro id after seen
    rcases (replaceLine_either _ place letter.prevId).2 id with stays | ⟨held, was, now⟩
    · exact putting agreement id after (stays.symm.trans seen)
    · cases now.symm.trans seen
      have old := putting agreement id held was
      exact ⟨nofun, old.asked, nofun⟩
  | ended reason found open_ =>
    refine putting (fresh ?_ _)
    exact (before _ _ found).unsigned open_
  | @asked place letter wanted found active party =>
    refine putting ⟨fun open_ => ?_, ?_, fun _ gone => ?_⟩
    · rw [active] at open_
      cases open_
    · rintro _ ⟨⟩
      show Asked _ _ (sideOf letter _)
      rw [sideOf_myStateOpt party]
      exact asks wanted
    · rw [active] at gone
      cases gone
  | @destroyed place letter other wanted found active party also theirs =>
    refine putting ⟨nofun, fun request held => (kept found).asked request held, fun _ _ => ?_⟩
    have first := (kept found).asked other also
    have second := asks wanted
    rw [← sideOf_myStateOpt party] at second
    -- The two requests are from different sides.
    cases other with
    | tryDestroySrc =>
      cases mine : myStateOpt letter event.actor.nationId with
      | tryDestroySrc => exact (theirs mine.symm).elim
      | tryDestroyDest =>
        rw [mine] at second
        exact ⟨first, second⟩
    | tryDestroyDest =>
      cases mine : myStateOpt letter event.actor.nationId with
      | tryDestroySrc =>
        rw [mine] at second
        exact ⟨second, first⟩
      | tryDestroyDest => exact (theirs mine.symm).elim

end Correspondence

open Correspondence

/--
Whatever nations write, answer, take back and destroy, from no letters on, letters follow earlier ones that are between
the same two nations and can no longer be answered.

Everything before a letter in force is replaced, and an agreement is only cancelled after both nations have asked for it.
-/
theorem letters_in_order {first : Nat} {final : Correspondence}
    {trace : List (LetterEvent × Except String LetterAnswer)}
    (run : correspondence.Run ⟨fun _ => none, first⟩ trace final) :
    (∀ id letter prev, final.letters id = some letter → letter.prevId = some prev →
      prev < id ∧ ∃ earlier, final.letters prev = some earlier ∧ earlier.state ≠ .proposed ∧ SamePair earlier letter) ∧
    (∀ old new earlier letter, TransGen final.Link old new → final.letters old = some earlier →
      final.letters new = some letter → letter.state = .activated → earlier.state = .replaced) ∧
    ∀ id letter, final.letters id = some letter → letter.destSignerId.isSome → letter.state = .cancelled →
      Asked trace id letter.srcNationId ∧ Asked trace id letter.destNationId := by
  let Held : List (LetterEvent × Except String LetterAnswer) → Correspondence → Prop := fun trace state =>
    state.Orderly ∧ ∀ id letter, state.letters id = some letter → Consented trace id letter
  have held : Held trace final := by
    refine run.invariant ⟨⟨nofun, nofun, nofun, fun _ _ _ _ _ found => ?_⟩, nofun⟩ ?_
    · cases found
    rintro past state event output next ⟨orderly, before⟩ - stepped
    cases ran : event.run state with
    | ok result =>
      simp only [correspondence, ran, Option.some.injEq] at stepped
      cases stepped
      have done := done_of_run orderly ran
      exact ⟨orderly.done done, consented_done done before⟩
    | error message =>
      simp only [correspondence, ran, Option.some.injEq] at stepped
      cases stepped
      exact ⟨orderly, fun id letter found => (before id letter found).later _⟩
  exact ⟨held.1.linked, held.1.inForce, fun id letter found => (held.2 id letter found).both⟩

theorem letters_in_order_followed :
    ∃ final : Correspondence, (final.letters 2).map DiplomacyLetter.prevId = some (some 1) ∧
      ∃ earlier, final.letters 1 = some earlier ∧ earlier.state ≠ .proposed := by
  let result := correspondence.replay ⟨fun _ => none, 1⟩
    [⟨⟨1, 1, 12, 4⟩, [1, 2], .send 2 none⟩, ⟨⟨1, 1, 12, 4⟩, [1, 2], .send 2 (some 1)⟩]
  have seen : (result.map fun ran => (ran.1.letters 2).map DiplomacyLetter.prevId) = some (some (some 1)) := by
    decide +kernel
  obtain ⟨⟨final, trace⟩, ran, follows⟩ := Option.map_eq_some_iff.mp seen
  obtain ⟨letter, found, prev⟩ := Option.map_eq_some_iff.mp follows
  obtain ⟨-, earlier, there, answered, -⟩ := (letters_in_order (StateMachine.run_of_replay ran)).1 2 letter 1 found prev
  exact ⟨final, follows, earlier, there, answered⟩

end Sammo.Letters
