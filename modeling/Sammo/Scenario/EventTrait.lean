import Sammo.Scenario.GrowthLedger

/-! The speciality that the event has given, and what a general gets back for it. -/

namespace Sammo.CentennialAllStar

/-- The speciality of a general, with what its ledger says about it. -/
def traitOf (general : Growing) : DomesticTrait where
  held := general.specialDomestic
  natural := general.aux.bind Aux.naturalSpecialDomestic
  event := general.aux.bind Aux.eventSpecialDomestic

/-- A general follows another target. -/
def changesTarget (general : Growing) (target : Target) : Bool :=
  general.aux.any fun aux => aux.targetId ≠ target.uniqueName

variable {rules : Rules} {general : Growing} {target : Target} {environment : Environment}
  {progressMultiplier dexTargetRatio : ℚ} {result : ApplyResult}

theorem apply_trait
    (applied : applyCentennialAllStarTarget general target environment rules progressMultiplier dexTargetRatio =
      .ok result) :
    calculateCentennialProgress environment progressMultiplier defaultGrowthYears = .ok result.progress ∧
    result.targetChanged = changesTarget general target ∧
    traitOf result.general = grantTrait (grantedSpecial result.progress target)
      (returnTrait rules (changesTarget general target) (traitOf general)) := by
  -- Reading the ledger changes neither its target nor its specialities.
  have opened : decide ((openAux general target rules).targetId ≠ target.uniqueName) = changesTarget general target ∧
      (⟨general.specialDomestic, (openAux general target rules).naturalSpecialDomestic,
        (openAux general target rules).eventSpecialDomestic⟩ : DomesticTrait) = traitOf general := by
    unfold openAux changesTarget traitOf
    cases general.aux with
    | none => exact ⟨by simp [readCentennialAllStarAux], rfl⟩
    | some aux => exact ⟨rfl, rfl⟩
  simp only [applyCentennialAllStarTarget, Bind.bind, Except.bind] at applied
  cases known : calculateCentennialProgress environment progressMultiplier defaultGrowthYears with
  | error message => simp [known] at applied
  | ok progress =>
    rw [known] at applied
    dsimp only at applied
    split at applied
    · cases applied
    split at applied
    · cases applied
    obtain rfl := (Except.ok.inj applied).symm
    refine ⟨rfl, opened.1, ?_⟩
    rw [← opened.2, ← opened.1]
    rfl

theorem convertDex_trait {converted : Growing} {source destination : DexKey} {loss gain : ℕ} {coefficient : ℚ}
    (done : convertDex general source destination loss gain coefficient = .ok converted) :
    traitOf converted = traitOf general := by
  unfold convertDex reconcileCentennialDexConversion at done
  dsimp only at done
  split at done
  · cases done
  split at done
  · cases done
  split at done
  · cases done
    rfl
  cases kept : general.aux with
  | none =>
    rw [kept] at done
    cases done
    simp [traitOf, kept]
  | some aux =>
    rw [kept] at done
    cases done
    simp [traitOf, kept]

/-- A general that holds a speciality of the event, and none by nature on record, gets it once more. -/
def mistakesNature (general : Growing) (target : Target) (progress : ℚ) : Bool :=
  (grantedSpecial progress target).isSome && (traitOf general).event.isSome && (traitOf general).natural.isNone &&
    !changesTarget general target

/-- An event takes the speciality that the event has given for one that the general has by nature. -/
def forgetsNature (general : Growing) : GrowthEvent → Bool
  | .apply target environment progressMultiplier _ =>
    (calculateCentennialProgress environment progressMultiplier defaultGrowthYears).toOption.any
      (mistakesNature general target)
  | _ => false

/-- What a general gets back: the speciality it had, or else the default of the scenario. -/
def homeTrait (rules : Rules) (start : Growing) : Option String :=
  start.specialDomestic.or rules.defaultSpecialDomestic

/-- The speciality of a general goes back to what it was. -/
structure Returnable (natural home : Option String) (trait : DomesticTrait) : Prop where
  recorded : trait.natural = none ∨ trait.natural = home
  own : trait.event = none → trait.held = natural ∨ trait.held = home
  event : trait.event ≠ none → trait.held = trait.event ∧ (trait.natural = none → natural = none)

theorem returnTrait_returnable {natural : Option String} {trait : DomesticTrait}
    (held : Returnable natural (natural.or rules.defaultSpecialDomestic) trait) (changed : Bool) :
    Returnable natural (natural.or rules.defaultSpecialDomestic) (returnTrait rules changed trait) := by
  obtain ⟨recorded, own, event⟩ := held
  unfold returnTrait
  split
  · rename_i back
    have present : trait.event ≠ none := by
      intro gone
      simp [returns, gone] at back
    refine ⟨recorded, fun _ => .inr ?_, fun again => absurd rfl again⟩
    show trait.natural.or rules.defaultSpecialDomestic = _
    cases known : trait.natural with
    | none => rw [(event present).2 known]
    | some name =>
      rw [known] at recorded
      exact recorded.resolve_left (Option.some_ne_none name)
  · exact ⟨recorded, own, event⟩

theorem returnTrait_known {natural home : Option String} {trait : DomesticTrait} {changed : Bool}
    (held : Returnable natural home trait) (knows : trait.event ≠ none → trait.natural = none → changed = true)
    (present : (returnTrait rules changed trait).event ≠ none) :
    (returnTrait rules changed trait).natural ≠ none := by
  unfold returnTrait at present ⊢
  split at present
  · exact absurd rfl present
  · rename_i stays
    rw [if_neg stays]
    intro none_
    have same := (held.event present).1
    exact stays (by simp [returns, knows present none_, same, Option.isSome_iff_ne_none, present])

theorem grantTrait_returnable {natural default_ : Option String} {trait : DomesticTrait}
    (held : Returnable natural (natural.or default_) trait) {special : Option String}
    (known : special ≠ none → trait.event ≠ none → trait.natural ≠ none) :
    Returnable natural (natural.or default_) (grantTrait special trait) := by
  obtain ⟨recorded, own, event⟩ := held
  cases special with
  | none => exact ⟨recorded, own, event⟩
  | some name =>
    have given := known (Option.some_ne_none name)
    refine ⟨?_, fun gone => absurd gone (Option.some_ne_none name), fun _ => ⟨rfl, fun none_ => ?_⟩⟩
    · show trait.natural.or trait.held = none ∨ trait.natural.or trait.held = _
      cases kept : trait.natural with
      | some natural_ =>
        rw [kept] at recorded
        exact .inr (recorded.resolve_left (Option.some_ne_none natural_))
      | none =>
        -- Nothing was on record, so what was held did not come from the event.
        have fresh : trait.event = none := by
          by_contra present
          exact given present kept
        rw [Option.none_or]
        rcases own fresh with same | same
        · rw [same]
          cases natural with
          | none => exact .inl rfl
          | some natural_ => exact .inr rfl
        · exact .inr same
    · have kept : trait.natural.or trait.held = none := none_
      rw [Option.or_eq_none_iff] at kept
      have fresh : trait.event = none := by
        by_contra present
        exact given present kept.1
      rcases own fresh with same | same
      · exact same.symm.trans kept.2
      · exact (Option.or_eq_none_iff.mp (same.symm.trans kept.2)).1

theorem step_returnable {natural : Option String} {next : Growing} {event : GrowthEvent} {output : Unit}
    (held : Returnable natural (natural.or rules.defaultSpecialDomestic) (traitOf general))
    (knows : forgetsNature general event = false)
    (stepped : (growth rules).step general event = some (next, output)) :
    Returnable natural (natural.or rules.defaultSpecialDomestic) (traitOf next) := by
  cases event with
  | apply target environment progressMultiplier dexTargetRatio =>
    obtain ⟨result, applied, same⟩ := toOption_map_eq_some stepped
    obtain rfl : result.general = next := congrArg Prod.fst same
    obtain ⟨known, -, trait⟩ := apply_trait applied
    rw [trait]
    refine grantTrait_returnable (returnTrait_returnable held _) fun special => returnTrait_known held ?_
    intro present none_
    have mistakes : mistakesNature general target result.progress = false := by
      simpa [forgetsNature, known, Except.toOption] using knows
    by_contra stays
    simp [mistakesNature, Option.isSome_iff_ne_none, special, present, none_, stays] at mistakes
  | gainStat key amount =>
    obtain rfl := congrArg Prod.fst (Option.some.inj stepped)
    exact held
  | gainDex key amount =>
    obtain rfl := congrArg Prod.fst (Option.some.inj stepped)
    exact held
  | convert source destination loss gain coefficient =>
    unfold growth at stepped
    dsimp only at stepped
    split at stepped
    · obtain ⟨converted, done, same⟩ := toOption_map_eq_some stepped
      obtain rfl : converted = next := congrArg Prod.fst same
      rw [convertDex_trait done]
      exact held
    · cases stepped

/-- A general whose ledger has just been started, with a natural speciality or without one. -/
def Fresh (start : Growing) : Prop :=
  ∃ target rules userInitialStats, start.aux = some (initialCentennialAllStarAux target rules userInitialStats)

theorem fresh_returnable {start : Growing} (fresh : Fresh start) :
    Returnable start.specialDomestic (homeTrait rules start) (traitOf start) := by
  obtain ⟨_, _, _, kept⟩ := fresh
  refine ⟨.inl ?_, fun _ => .inl rfl, fun present => absurd ?_ present⟩ <;>
    simp [traitOf, kept, initialCentennialAllStarAux]

/--
While no event forgets the natural speciality, a general gets it back, or the default of the scenario.

The first event that does forget it puts the speciality of the event in its place.
-/
theorem event_trait_returned {start final : Growing} {trace : List (GrowthEvent × Unit)} (fresh : Fresh start)
    (run : (growth rules).RunWhile (fun reached event => forgetsNature reached event = false) start trace final) :
    ((traitOf final).natural = none ∨ (traitOf final).natural = homeTrait rules start) ∧
    (∀ target environment progressMultiplier dexTargetRatio result,
      applyCentennialAllStarTarget final target environment rules progressMultiplier dexTargetRatio = .ok result →
      result.targetChanged = true → (traitOf final).event ≠ none → final.specialDomestic = (traitOf final).event →
      grantedSpecial result.progress target = none → result.general.specialDomestic = homeTrait rules start) ∧
    ∀ event next, forgetsNature final event = true → (growth rules).step final event = some (next, ()) →
      (traitOf next).natural = (traitOf final).event ∧ (traitOf final).event ≠ none := by
  have held : Returnable start.specialDomestic (homeTrait rules start) (traitOf final) :=
    run.stateInvariant (fresh_returnable fresh) fun _ _ _ _ held knows stepped => step_returnable held knows stepped
  refine ⟨held.recorded, fun target environment progressMultiplier dexTargetRatio result applied changed present
    holds none_ => ?_, fun event next forgets stepped => ?_⟩
  · obtain ⟨-, same, trait⟩ := apply_trait applied
    rw [changed] at same
    rw [none_, ← same] at trait
    have back : returns true (traitOf final) = true := by
      simp [returns, Option.isSome_iff_ne_none, present, show (traitOf final).held = _ from holds]
    have returned := returnTrait_returnable held true
    rw [returnTrait, if_pos back] at returned trait
    -- What the event has given is gone, so what is held is what the general gets back.
    have after : result.general.specialDomestic = (traitOf final).natural.or rules.defaultSpecialDomestic :=
      congrArg DomesticTrait.held trait
    rw [after]
    cases known : (traitOf final).natural with
    | none => rw [homeTrait, (held.event present).2 known]
    | some name =>
      have recorded := held.recorded
      rw [known] at recorded
      exact recorded.resolve_left (Option.some_ne_none name)
  · cases event with
    | apply target environment progressMultiplier dexTargetRatio =>
      obtain ⟨result, applied, same⟩ := toOption_map_eq_some stepped
      obtain rfl : result.general = next := congrArg Prod.fst same
      obtain ⟨known, -, trait⟩ := apply_trait applied
      have mistakes : mistakesNature final target result.progress = true := by
        simpa [forgetsNature, known, Except.toOption] using forgets
      simp only [mistakesNature, Bool.and_eq_true, Bool.not_eq_true', Option.isNone_iff_eq_none,
        Option.isSome_iff_ne_none] at mistakes
      obtain ⟨⟨⟨special, present⟩, none_⟩, stays⟩ := mistakes
      obtain ⟨name, given⟩ := Option.ne_none_iff_exists'.mp special
      have kept : returns false (traitOf final) = false := rfl
      rw [given, stays, returnTrait, kept, if_neg Bool.false_ne_true] at trait
      refine ⟨?_, present⟩
      rw [trait, ← (held.event present).1]
      show (traitOf final).natural.or (traitOf final).held = _
      rw [none_, Option.none_or]
    | _ => cases forgets

/-- After one month with a speciality of the event, the record of a general that had none is still right. -/
theorem event_trait_returned_once : ∃ final trace,
    (growth { scenarioRules with defaultSpecialDomestic := some "None" }).RunWhile
      (fun reached event => forgetsNature reached event = false) (recruit none) trace final ∧
    ((traitOf final).natural = none ∨ (traitOf final).natural = some "None") := by
  have replays : ((growth { scenarioRules with defaultSpecialDomestic := some "None" }).replay (recruit none)
      [.apply (figure "A1" (some "che_event")) (newYear 188) 1 1]).isSome := by
    decide +kernel
  obtain ⟨⟨final, trace⟩, replayed⟩ := Option.isSome_iff_exists.mp replays
  have run : (growth { scenarioRules with defaultSpecialDomestic := some "None" }).RunWhile
      (fun reached event => forgetsNature reached event = false) (recruit none) trace final :=
    StateMachine.runWhile_of_guarded (by decide +kernel) replayed
  exact ⟨final, trace, run, (event_trait_returned ⟨_, _, _, rfl⟩ run).1⟩

/-- After two months the speciality counts as its own, and a new target does not take it back. -/
theorem event_trait_kept :
    ((growth { scenarioRules with defaultSpecialDomestic := some "None" }).replay (recruit none)
      [.apply (figure "A1" (some "che_event")) (newYear 188) 1 1,
        .apply (figure "A1" (some "che_event")) (newYear 189) 1 1]).map (fun reached => traitOf reached.1) =
      some ⟨some "che_event", some "che_event", some "che_event"⟩ ∧
    ((growth { scenarioRules with defaultSpecialDomestic := some "None" }).replay (recruit none)
      [.apply (figure "A1" (some "che_event")) (newYear 188) 1 1,
        .apply (figure "A1" (some "che_event")) (newYear 189) 1 1,
        .apply (figure "A2" none) (newYear 190) 1 1]).map (fun reached => traitOf reached.1) =
      some ⟨some "che_event", some "che_event", none⟩ := by
  decide +kernel

end Sammo.CentennialAllStar
