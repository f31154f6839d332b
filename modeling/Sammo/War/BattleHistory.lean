import Sammo.War.Duel

/-! What happens in a battle, one event after another, and the course that it takes along a line of defenders. -/

namespace Sammo.War

/-- What happens in the rounds of a battle: a phase says who of the two could go on when it was over. -/
inductive BattleEvent where
  | phase (defender : UnitId) (attackerStands defenderStands : Bool)
  | besieged
  | surrendered
  deriving DecidableEq

/-- The general that was fought. -/
def BattleEvent.general? : BattleEvent → Option UnitId
  | .phase defender _ _ => if defender.isGeneral then some defender else none
  | _ => none

/-- The generals that were fought, phase by phase. -/
def foughtGenerals (events : List BattleEvent) : List UnitId := events.filterMap BattleEvent.general?

/-- A defender was fought, could not go on at the end of a phase, and was not fought any more. -/
def Beaten (events : List BattleEvent) (id : UnitId) : Prop :=
  ∃ early late, events = early ++ .phase id true false :: late ∧
    ∀ attackerStands defenderStands, .phase id attackerStands defenderStands ∉ late

namespace Battle

variable {ρ : Type} (rules : WarRules ρ)

/-- What happens when a defender is fought. -/
def fightEvent (battle : Battle ρ) (defender : UnitId) : BattleEvent :=
  let fought := fightPhase rules (meet rules battle defender) defender
  .phase defender (continueWar fought .attacker).canContinue (continueWar fought defender).canContinue

/-- What happens in a round. -/
def roundEvents (input : WarBattleInput ρ) (fight : Fight ρ) : List BattleEvent :=
  match fight.defender with
  | some defender => [fightEvent rules fight.battle defender]
  | none =>
    if isSupplyCity input.defenderCity ∧ input.defenderRice.getD 10000 ≤ 0 then [.besieged, .surrendered]
    else [.besieged, fightEvent rules fight.battle.setSiege .wall]

/-- What happens after a round, if the battle goes on. -/
def Round.eventsAfter (goesOn : Fight ρ → List BattleEvent) : Round ρ → List BattleEvent
  | .ended _ => []
  | .next fight => goesOn fight

/-- What happens in the rounds of a battle, as far as a bound on them reaches. -/
def fightEvents (input : WarBattleInput ρ) : Nat → Fight ρ → List BattleEvent
  | 0, _ => []
  | rounds + 1, fight =>
    if getMaxPhase rules fight.battle .attacker ≤ (fight.battle.units .attacker).currPhase then []
    else roundEvents rules input fight ++ (fightRound rules input fight).eventsAfter (fightEvents input rounds)

/-- What happens in a whole battle. -/
def battleEvents (input : WarBattleInput ρ) (rounds : Nat) : List BattleEvent :=
  fightEvents rules input rounds (openFight rules input)

end Battle

/-- The course of a siege: the wall is fought until it falls, the attacker is repelled or the phases are used up. -/
inductive Siege : List BattleEvent → Prop
  | exhausted : Siege []
  | fought {events : List BattleEvent} : Siege events → Siege (.phase .wall true true :: events)
  | fallen : Siege [.phase .wall true false]
  | repelled (defenderStands : Bool) : Siege [.phase .wall false defenderStands]

/-- The course of a battle: the line is fought one after another, and only when nobody is left the city comes last. -/
inductive Course : List UnitId → List BattleEvent → Prop
  | exhausted (line : List UnitId) : Course line []
  | fought {id : UnitId} {line : List UnitId} {events : List BattleEvent} :
      Course (id :: line) events → Course (id :: line) (.phase id true true :: events)
  | beaten {id : UnitId} {line : List UnitId} {events : List BattleEvent} :
      Course line events → Course (id :: line) (.phase id true false :: events)
  | repelled (id : UnitId) (line : List UnitId) (defenderStands : Bool) :
      Course (id :: line) [.phase id false defenderStands]
  | surrendered : Course [] [.besieged, .surrendered]
  | besieged {events : List BattleEvent} : Siege events → Course [] (.besieged :: events)

theorem Siege.wall {events : List BattleEvent} (siege : Siege events) {event : BattleEvent} (happened : event ∈ events) :
    ∃ attackerStands defenderStands, event = .phase .wall attackerStands defenderStands := by
  induction siege with
  | exhausted => cases happened
  | fought _ ih =>
    rcases List.mem_cons.mp happened with first | later
    · exact ⟨true, true, first⟩
    · exact ih later
  | fallen => exact ⟨true, false, List.mem_singleton.mp happened⟩
  | repelled defenderStands => exact ⟨false, defenderStands, List.mem_singleton.mp happened⟩

theorem Siege.noGenerals {events : List BattleEvent} (siege : Siege events) : foughtGenerals events = [] := by
  rw [foughtGenerals, List.filterMap_eq_nil_iff]
  intro event happened
  obtain ⟨attackerStands, defenderStands, rfl⟩ := siege.wall happened
  rfl

namespace Course

variable {line : List UnitId} {events : List BattleEvent} {id : UnitId}

theorem phase_mem (course : Course line events) {attackerStands defenderStands : Bool}
    (happened : .phase id attackerStands defenderStands ∈ events) : id ∈ line ∨ id = .wall := by
  induction course with
  | exhausted => cases happened
  | @fought first line events _ ih =>
    rcases List.mem_cons.mp happened with now | later
    · cases now
      exact .inl List.mem_cons_self
    · exact ih later
  | @beaten first line events _ ih =>
    rcases List.mem_cons.mp happened with now | later
    · cases now
      exact .inl List.mem_cons_self
    · exact (ih later).imp_left (List.mem_cons_of_mem _)
  | repelled first line stands =>
    cases List.mem_singleton.mp happened
    exact .inl List.mem_cons_self
  | surrendered => simp at happened
  | besieged siege =>
    -- A siege fights nobody but the wall.
    have later := (List.mem_cons.mp happened).resolve_left fun now => by cases now
    obtain ⟨_, _, same⟩ := siege.wall later
    cases same
    exact .inr rfl

theorem stretches (course : Course line events) : ∃ stretches : List (UnitId × Nat),
    stretches.map Prod.fst <+: line.filter UnitId.isGeneral ∧ (∀ stretch ∈ stretches, 0 < stretch.2) ∧
      foughtGenerals events = stretches.flatMap fun stretch => List.replicate stretch.2 stretch.1 := by
  induction course with
  | exhausted => exact ⟨[], List.nil_prefix, by simp, rfl⟩
  | @fought id line events _ ih =>
    obtain ⟨stretches, ordered, positive, told⟩ := ih
    by_cases general : id.isGeneral
    · have now : foughtGenerals (.phase id true true :: events) = id :: foughtGenerals events := by
        simp [foughtGenerals, BattleEvent.general?, general]
      rw [List.filter_cons_of_pos general] at ordered ⊢
      cases stretches with
      | nil =>
        -- The battle ended after this phase.
        exact ⟨[(id, 1)], by simp, by simp, by rw [now, told]; rfl⟩
      | cons stretch rest =>
        -- The stretch that follows is the same general's, and one phase longer.
        obtain ⟨fought, length⟩ := stretch
        obtain ⟨same, ordered⟩ := List.cons_prefix_cons.mp ordered
        change fought = id at same
        subst same
        refine ⟨(fought, length + 1) :: rest, by simpa using ordered, ?_, ?_⟩
        · intro stretch among
          rcases List.mem_cons.mp among with rfl | later
          · exact Nat.succ_pos length
          · exact positive stretch (List.mem_cons_of_mem _ later)
        · rw [now, told]
          simp [List.replicate_succ]
    · have now : foughtGenerals (.phase id true true :: events) = foughtGenerals events := by
        simp [foughtGenerals, BattleEvent.general?, general]
      exact ⟨stretches, ordered, positive, now.trans told⟩
  | @beaten id line events _ ih =>
    obtain ⟨stretches, ordered, positive, told⟩ := ih
    by_cases general : id.isGeneral
    · -- The last phase of a general begins its stretch, seen from behind.
      refine ⟨(id, 1) :: stretches, ?_, ?_, ?_⟩
      · rw [List.filter_cons_of_pos general]
        simpa using ordered
      · simpa using positive
      · rw [foughtGenerals, List.filterMap_cons_some (b := id) (by simp [BattleEvent.general?, general])]
        simpa [foughtGenerals] using told
    · refine ⟨stretches, ?_, positive, ?_⟩
      · rw [List.filter_cons_of_neg general]
        exact ordered
      · rw [← told]
        simp [foughtGenerals, BattleEvent.general?, general]
  | repelled id line stands =>
    by_cases general : id.isGeneral
    · refine ⟨[(id, 1)], ?_, by simp, ?_⟩
      · rw [List.filter_cons_of_pos general]
        simp
      · simp [foughtGenerals, BattleEvent.general?, general]
    · exact ⟨[], List.nil_prefix, by simp, by simp [foughtGenerals, BattleEvent.general?, general]⟩
  | surrendered => exact ⟨[], List.nil_prefix, by simp, rfl⟩
  | besieged siege => exact ⟨[], List.nil_prefix, by simp, siege.noGenerals⟩

theorem beaten_before (course : Course line events) (once : line.Nodup) (general : id ∈ line ∧ id.isGeneral)
    {before after : List BattleEvent} (split : events = before ++ .besieged :: after) : Beaten before id := by
  induction course generalizing before with
  | exhausted => simp at split
  | @fought first line events _ ih =>
    cases before with
    | nil => simp at split
    | cons event before =>
      obtain ⟨now, later⟩ := List.cons.inj split
      subst now
      obtain ⟨early, late, told, quiet⟩ := ih once general later
      exact ⟨_ :: early, late, by rw [told]; rfl, quiet⟩
  | @beaten first line events course ih =>
    cases before with
    | nil => simp at split
    | cons event before =>
      obtain ⟨now, later⟩ := List.cons.inj split
      subst now
      rcases List.mem_cons.mp general.1 with same | waiting
      · -- This is the general: whoever is fought later is another.
        subst same
        refine ⟨[], before, rfl, fun attackerStands defenderStands again => ?_⟩
        have happened : .phase id attackerStands defenderStands ∈ events := by
          rw [later]
          exact List.mem_append_left _ again
        rcases course.phase_mem happened with waiting | wall
        · exact (List.nodup_cons.mp once).1 waiting
        · rw [wall] at general
          exact absurd general.2 (by decide)
      · obtain ⟨early, late, told, quiet⟩ := ih (List.nodup_cons.mp once).2 ⟨waiting, general.2⟩ later
        exact ⟨_ :: early, late, by rw [told]; rfl, quiet⟩
  | repelled first line stands =>
    cases before with
    | nil => simp at split
    | cons event before => simp at split
  | surrendered => exact absurd general.1 List.not_mem_nil
  | besieged => exact absurd general.1 List.not_mem_nil

theorem besieged_before (course : Course line events) {before after : List BattleEvent}
    (split : events = before ++ .surrendered :: after) : ∃ earlier, before = earlier ++ [.besieged] := by
  induction course generalizing before with
  | exhausted => simp at split
  | fought _ ih =>
    cases before with
    | nil => simp at split
    | cons event before =>
      obtain ⟨earlier, told⟩ := ih (List.cons.inj split).2
      exact ⟨event :: earlier, by rw [told]; rfl⟩
  | beaten _ ih =>
    cases before with
    | nil => simp at split
    | cons event before =>
      obtain ⟨earlier, told⟩ := ih (List.cons.inj split).2
      exact ⟨event :: earlier, by rw [told]; rfl⟩
  | repelled first line stands =>
    cases before with
    | nil => simp at split
    | cons event before => simp at split
  | surrendered =>
    match before, split with
    | [event], split =>
      obtain ⟨now, -⟩ := List.cons.inj split
      exact ⟨[], by rw [← now]; rfl⟩
    | [], split => simp at split
    | _ :: _ :: _, split => simp at split
  | @besieged phases siege =>
    cases before with
    | nil => simp at split
    | cons event before =>
      -- Within a siege nobody surrenders.
      have later : phases = before ++ BattleEvent.surrendered :: after := (List.cons.inj split).2
      have happened : BattleEvent.surrendered ∈ phases := by
        rw [later]
        simp
      obtain ⟨_, _, same⟩ := siege.wall happened
      cases same

theorem beaten_before_surrender (course : Course line events) (once : line.Nodup)
    (general : id ∈ line ∧ id.isGeneral) {before after : List BattleEvent}
    (split : events = before ++ .surrendered :: after) : Beaten before id := by
  obtain ⟨earlier, rfl⟩ := course.besieged_before split
  rw [List.append_assoc] at split
  obtain ⟨early, late, told, quiet⟩ := course.beaten_before once general split
  refine ⟨early, late ++ [.besieged], by rw [told]; simp, fun attackerStands defenderStands again => ?_⟩
  rcases List.mem_append.mp again with earlier | last
  · exact quiet attackerStands defenderStands earlier
  · cases List.mem_singleton.mp last

end Course

end Sammo.War
