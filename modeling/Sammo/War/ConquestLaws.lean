import Mathlib.Tactic.Linarith
import Sammo.Lib.Totals
import Sammo.War.Conquest

/-! A nation that comes to its end pays for its reward, and a capital flees to the nearest city. -/

namespace Sammo.War.Conquest

open CityDistance (getCityDistance searchDistanceEntries connections)

variable {σ : Type}

/-- A balance is a natural number. -/
def Whole (balance : ℚ) : Prop := ∃ amount : ℕ, balance = amount

/-- What the generals of some nations hold of a resource. -/
def held (resource : General → ℚ) (nationIds : List Int) (generals : OrderedMap Int General) : ℚ :=
  generals.total fun general => if general.nationId ∈ nationIds then resource general else 0

/-! ### Losses on the flight -/

theorem nextRange_loss (source : RandomSource σ) (rng : σ) :
    0 ≤ (nextRange source (2 / 10) (5 / 10) rng).1 ∧ (nextRange source (2 / 10) (5 / 10) rng).1 ≤ 1 := by
  obtain ⟨nonneg, small⟩ := source.unit rng
  simp only [nextRange]
  constructor <;> linarith

theorem trunc_share {balance share : ℚ} (whole : Whole balance) (nonneg : 0 ≤ share) (small : share ≤ 1) :
    (0 : ℚ) ≤ trunc (balance * share) ∧ (trunc (balance * share) : ℚ) ≤ balance := by
  obtain ⟨amount, rfl⟩ := whole
  have product : (0 : ℚ) ≤ amount * share := mul_nonneg (Nat.cast_nonneg amount) nonneg
  unfold trunc
  rw [if_pos product]
  constructor
  · exact_mod_cast Int.floor_nonneg.mpr product
  · have below : (amount : ℚ) * share ≤ amount := mul_le_of_le_one_right (Nat.cast_nonneg amount) small
    exact (Int.floor_le _).trans below

/-- A general after losses that it could bear. -/
structure Spared (before after : General) (loseGold loseRice : Int) : Prop where
  nation : after.nationId = before.nationId
  gold : after.gold = before.gold - loseGold
  rice : after.rice = before.rice - loseRice
  goldLost : (0 : ℚ) ≤ loseGold ∧ (loseGold : ℚ) ≤ before.gold
  riceLost : (0 : ℚ) ≤ loseRice ∧ (loseRice : ℚ) ≤ before.rice

variable {general : General} {entries : List (Int × ℕ)} {input : WarAftermathInput} {nationId : ℕ} {id : Int}
  {defender : WarNation} {cityId : Int}

theorem ruined_spared {loseGold loseRice : Int} (goldLost : (0 : ℚ) ≤ loseGold ∧ (loseGold : ℚ) ≤ general.gold)
    (riceLost : (0 : ℚ) ≤ loseRice ∧ (loseRice : ℚ) ≤ general.rice) :
    Spared general (ruined general loseGold loseRice) loseGold loseRice where
  nation := rfl
  gold := if_neg (not_lt.mpr (sub_nonneg.mpr goldLost.2))
  rice := if_neg (not_lt.mpr (sub_nonneg.mpr riceLost.2))
  goldLost := goldLost
  riceLost := riceLost

theorem offerService_frame (source : RandomSource σ) (input : WarAftermathInput) (generalId : Int) (npcState : ℚ)
    (collapse : Collapse σ) :
    (offerService source input generalId npcState collapse).generals = collapse.generals ∧
    (offerService source input generalId npcState collapse).totalGoldLoss = collapse.totalGoldLoss ∧
    (offerService source input generalId npcState collapse).totalRiceLoss = collapse.totalRiceLoss := by
  unfold offerService
  dsimp only
  split
  · split <;> exact ⟨rfl, rfl, rfl⟩
  · exact ⟨rfl, rfl, rfl⟩

theorem ruinGeneral_spec (source : RandomSource σ) (input : WarAftermathInput) {collapse : Collapse σ}
    {generalId : Int} (present : collapse.generals.get? generalId = some general) (gold : Whole general.gold)
    (rice : Whole general.rice) :
    ∃ after loseGold loseRice, Spared general after loseGold loseRice ∧
      (ruinGeneral source input collapse generalId).generals = collapse.generals.set generalId after ∧
      (ruinGeneral source input collapse generalId).totalGoldLoss = collapse.totalGoldLoss + loseGold ∧
      (ruinGeneral source input collapse generalId).totalRiceLoss = collapse.totalRiceLoss + loseRice := by
  obtain ⟨goldNonneg, goldSmall⟩ := nextRange_loss source collapse.rng
  obtain ⟨riceNonneg, riceSmall⟩ := nextRange_loss source (nextRange source (2 / 10) (5 / 10) collapse.rng).2
  refine ⟨_, _, _, ruined_spared (trunc_share gold goldNonneg goldSmall) (trunc_share rice riceNonneg riceSmall), ?_⟩
  unfold ruinGeneral
  rw [present]
  dsimp only
  split
  · exact ⟨rfl, rfl, rfl⟩
  · exact offerService_frame ..

theorem ruinGenerals_spec (source : RandomSource σ) (input : WarAftermathInput) (nationId : Int) {ids : List Int}
    (distinct : ids.Nodup) (collapse : Collapse σ)
    (members : ∀ id ∈ ids, ∃ general, collapse.generals.get? id = some general ∧ general.nationId = nationId ∧
      Whole general.gold ∧ Whole general.rice) :
    (∀ id ∉ ids, (ids.foldl (ruinGeneral source input) collapse).generals.get? id = collapse.generals.get? id) ∧
    (∀ id ∈ ids, ∀ general, collapse.generals.get? id = some general → ∃ after loseGold loseRice,
      (ids.foldl (ruinGeneral source input) collapse).generals.get? id = some after ∧
        Spared general after loseGold loseRice) ∧
    (collapse.totalGoldLoss ≤ (ids.foldl (ruinGeneral source input) collapse).totalGoldLoss ∧
      collapse.totalRiceLoss ≤ (ids.foldl (ruinGeneral source input) collapse).totalRiceLoss) ∧
    ∀ nationIds, nationId ∈ nationIds →
      held General.gold nationIds (ids.foldl (ruinGeneral source input) collapse).generals +
          (ids.foldl (ruinGeneral source input) collapse).totalGoldLoss =
        held General.gold nationIds collapse.generals + collapse.totalGoldLoss ∧
      held General.rice nationIds (ids.foldl (ruinGeneral source input) collapse).generals +
          (ids.foldl (ruinGeneral source input) collapse).totalRiceLoss =
        held General.rice nationIds collapse.generals + collapse.totalRiceLoss := by
  induction ids generalizing collapse with
  | nil =>
    exact ⟨fun _ _ => rfl, fun _ member => (List.not_mem_nil member).elim, ⟨le_refl _, le_refl _⟩,
      fun _ _ => ⟨rfl, rfl⟩⟩
  | cons id rest ih =>
    obtain ⟨fresh, distinctRest⟩ := List.nodup_cons.mp distinct
    obtain ⟨general, present, nation, gold, rice⟩ := members id List.mem_cons_self
    obtain ⟨after, loseGold, loseRice, spared, generals, goldLoss, riceLoss⟩ :=
      ruinGeneral_spec source input present gold rice
    have elsewhere {other : Int} (apart : other ≠ id) :
        (ruinGeneral source input collapse id).generals.get? other = collapse.generals.get? other := by
      rw [generals, OrderedMap.get?_set, if_neg apart]
    -- The generals behind this one are still as they were.
    obtain ⟨untouched, fled, ⟨goldMore, riceMore⟩, sums⟩ := ih distinctRest (ruinGeneral source input collapse id) (by
      intro other later
      rw [elsewhere fun same => fresh (same ▸ later)]
      exact members other (List.mem_cons_of_mem id later))
    rw [List.foldl_cons]
    refine ⟨fun other absent => ?_, fun other member before got => ?_, ?_, fun nationIds listed => ?_⟩
    · rw [List.mem_cons, not_or] at absent
      rw [untouched other absent.2, elsewhere absent.1]
    · rcases List.mem_cons.mp member with rfl | later
      · obtain rfl := Option.some.inj (present.symm.trans got)
        refine ⟨after, loseGold, loseRice, ?_, spared⟩
        rw [untouched other fresh, generals, OrderedMap.get?_set, if_pos rfl]
      · exact fled other later before (by rw [elsewhere fun same => fresh (same ▸ later), got])
    · have goldNonneg : 0 ≤ loseGold := by exact_mod_cast spared.goldLost.1
      have riceNonneg : 0 ≤ loseRice := by exact_mod_cast spared.riceLost.1
      exact ⟨by omega, by omega⟩
    · -- The loss leaves the general's nation, which is one of those that are counted.
      obtain ⟨goldSum, riceSum⟩ := sums nationIds listed
      have counted : general.nationId ∈ nationIds := nation ▸ listed
      have countedAfter : after.nationId ∈ nationIds := spared.nation ▸ counted
      have goldStep := OrderedMap.total_set
        (fun general => if general.nationId ∈ nationIds then general.gold else 0) present after
      have riceStep := OrderedMap.total_set
        (fun general => if general.nationId ∈ nationIds then general.rice else 0) present after
      simp only [if_pos counted, if_pos countedAfter, spared.gold, spared.rice] at goldStep riceStep
      rw [goldSum, riceSum, generals, goldLoss, riceLoss]
      unfold held
      push_cast
      constructor <;> linarith

/-! ### The reward -/

theorem roundHalfUp_intCast (value : Int) : roundHalfUp (value : ℚ) = value := by
  unfold roundHalfUp
  rw [Int.floor_eq_iff]
  constructor <;> linarith

theorem roundHalfUp_add {balance : ℚ} (whole : Whole balance) (added : Int) :
    (roundHalfUp (balance + added) : ℚ) = balance + added := by
  obtain ⟨amount, rfl⟩ := whole
  have cast : ((amount : ℚ) + added) = ((amount + added : Int) : ℚ) := by push_cast; rfl
  rw [cast, roundHalfUp_intCast]

theorem collapseReward_le {treasury base : ℚ} {totalLoss : Int} (reserve : 0 ≤ base) (nonneg : 0 ≤ treasury)
    (lost : 0 ≤ totalLoss) : (collapseReward treasury base totalLoss : ℚ) ≤ treasury + totalLoss := by
  have half := Int.floor_le ((max 0 (treasury - base) + totalLoss) / 2)
  have spare : max 0 (treasury - base) ≤ treasury := max_le nonneg (by linarith)
  have loss : (0 : ℚ) ≤ totalLoss := by exact_mod_cast lost
  unfold collapseReward
  linarith

/-! ### The nearest city -/

theorem scanCapital_found (candidates : Int → Option WarCity) {nearest : ℕ} (positive : nearest ≠ 0)
    (ordered : entries.Pairwise fun earlier later => earlier.2 ≤ later.2)
    (beyond : ∀ entry ∈ entries, nearest ≤ entry.2) (best : Int × WarCity) :
    ∃ next, scanCapital candidates entries (some nearest) (some best) = some next ∧
      best.2.population ≤ next.2.population ∧
      (next = best ∨ ((next.1, nearest) ∈ entries ∧ candidates next.1 = some next.2)) ∧
      ∀ id city, (id, nearest) ∈ entries → candidates id = some city → city.population ≤ next.2.population := by
  induction entries generalizing best with
  | nil => exact ⟨best, rfl, le_refl _, .inl rfl, fun _ _ member => (List.not_mem_nil member).elim⟩
  | cons entry rest ih =>
    obtain ⟨id, distance⟩ := entry
    obtain ⟨later, orderedRest⟩ := List.pairwise_cons.mp ordered
    have near : nearest ≤ distance := beyond _ List.mem_cons_self
    have continued := ih orderedRest fun entry member => beyond entry (List.mem_cons_of_mem _ member)
    rw [scanCapital, if_neg (by omega)]
    by_cases farther : nearest < distance
    · -- From here on every city is farther away.
      rw [if_pos (by simpa using farther)]
      refine ⟨best, rfl, le_refl _, .inl rfl, fun other city member _ => ?_⟩
      rcases List.mem_cons.mp member with same | member
      · have equal : nearest = distance := congrArg Prod.snd same
        omega
      · have behind : distance ≤ nearest := later _ member
        omega
    · obtain rfl : nearest = distance := by omega
      rw [if_neg (by simp)]
      cases found : candidates id with
      | none =>
        obtain ⟨next, scanned, more, chosen, most⟩ := continued best
        refine ⟨next, scanned, more, ?_, fun other city member candidate => ?_⟩
        · exact chosen.imp_right fun listed => ⟨List.mem_cons_of_mem _ listed.1, listed.2⟩
        · rcases List.mem_cons.mp member with same | member
          · obtain rfl : other = id := congrArg Prod.fst same
            rw [found] at candidate
            cases candidate
          · exact most other city member candidate
      | some candidate =>
        dsimp only [Option.or_some, Option.all_some]
        by_cases better : best.2.population ≤ candidate.population
        · rw [if_pos (by simpa using better)]
          obtain ⟨next, scanned, more, chosen, most⟩ := continued (id, candidate)
          refine ⟨next, scanned, better.trans more, .inr ?_, fun other city member known => ?_⟩
          · rcases chosen with rfl | listed
            · exact ⟨List.mem_cons_self, found⟩
            · exact ⟨List.mem_cons_of_mem _ listed.1, listed.2⟩
          · rcases List.mem_cons.mp member with same | member
            · obtain rfl : other = id := congrArg Prod.fst same
              obtain rfl := Option.some.inj (found.symm.trans known)
              exact more
            · exact most other city member known
        · rw [if_neg (by simpa using better)]
          obtain ⟨next, scanned, more, chosen, most⟩ := continued best
          refine ⟨next, scanned, more, ?_, fun other city member known => ?_⟩
          · exact chosen.imp_right fun listed => ⟨List.mem_cons_of_mem _ listed.1, listed.2⟩
          · rcases List.mem_cons.mp member with same | member
            · obtain rfl : other = id := congrArg Prod.fst same
              obtain rfl := Option.some.inj (found.symm.trans known)
              exact (le_of_lt (not_le.mp better)).trans more
            · exact most other city member known

theorem scanCapital_spec (candidates : Int → Option WarCity)
    (ordered : entries.Pairwise fun earlier later => earlier.2 ≤ later.2) :
    (scanCapital candidates entries none none = none ∧ ∀ entry ∈ entries, entry.2 ≠ 0 → candidates entry.1 = none) ∨
    ∃ next distance, scanCapital candidates entries none none = some next ∧ distance ≠ 0 ∧
      (next.1, distance) ∈ entries ∧ candidates next.1 = some next.2 ∧
      ∀ id other city, (id, other) ∈ entries → other ≠ 0 → candidates id = some city →
        distance ≤ other ∧ (distance = other → city.population ≤ next.2.population) := by
  induction entries with
  | nil => exact .inl ⟨rfl, fun _ member => (List.not_mem_nil member).elim⟩
  | cons entry rest ih =>
    obtain ⟨id, distance⟩ := entry
    obtain ⟨later, orderedRest⟩ := List.pairwise_cons.mp ordered
    by_cases skipped : distance = 0 ∨ candidates id = none
    · -- Neither the captured city nor one of somebody else counts.
      have same : scanCapital candidates ((id, distance) :: rest) none none =
          scanCapital candidates rest none none := by
        rw [scanCapital]
        rcases skipped with zero | foreign
        · rw [if_pos zero]
        · rw [foreign]
          simp
      have irrelevant {city : WarCity} (positive : distance ≠ 0) (candidate : candidates id = some city) : False := by
        rcases skipped with zero | foreign
        · exact positive zero
        · rw [foreign] at candidate
          cases candidate
      rw [same]
      rcases ih orderedRest with ⟨none_, all⟩ | ⟨next, found, scanned, positive, listed, candidate, nearest⟩
      · refine .inl ⟨none_, fun entry member far => ?_⟩
        rcases List.mem_cons.mp member with rfl | member
        · exact Option.eq_none_iff_forall_ne_some.mpr fun city known => irrelevant far known
        · exact all entry member far
      · refine .inr ⟨next, found, scanned, positive, List.mem_cons_of_mem _ listed, candidate, ?_⟩
        intro other far city member away known
        rcases List.mem_cons.mp member with same | member
        · obtain ⟨rfl, rfl⟩ := Prod.mk.inj same
          exact (irrelevant away known).elim
        · exact nearest other far city member away known
    · rw [not_or] at skipped
      obtain ⟨candidate, found⟩ := Option.ne_none_iff_exists'.mp skipped.2
      obtain ⟨next, scanned, more, chosen, most⟩ :=
        scanCapital_found candidates skipped.1 orderedRest later (id, candidate)
      refine .inr ⟨next, distance, ?_, skipped.1, ?_, ?_, fun other far city member away known => ?_⟩
      · rw [scanCapital, if_neg skipped.1, found]
        simpa using scanned
      · rcases chosen with rfl | listed
        · exact List.mem_cons_self
        · exact List.mem_cons_of_mem _ listed.1
      · rcases chosen with rfl | listed
        · exact found
        · exact listed.2
      · rcases List.mem_cons.mp member with same | member
        · obtain ⟨rfl, rfl⟩ := Prod.mk.inj same
          obtain rfl := Option.some.inj (found.symm.trans known)
          exact ⟨Nat.le_refl _, fun _ => more⟩
        · exact ⟨later _ member, fun equal => most other city (equal ▸ member) known⟩

theorem keptCity_eq_some {city : WarCity} :
    keptCity input nationId id = some city ↔
      input.cities.get? id = some city ∧ city.nationId = nationId ∧ id ≠ input.defenderCityId := by
  rw [keptCity, Option.filter_eq_some_iff, decide_eq_true_eq]

/-- How far a city is from the captured one. -/
def distanceFromLost (input : WarAftermathInput) (id : Int) : ℕ∞ := getCityDistance input.map input.defenderCityId id

theorem kept_entry {city : WarCity} (kept : keptCity input nationId id = some city) (dist : ℕ) :
    (id, dist) ∈ searchDistanceEntries input.map input.defenderCityId 99 ↔
      distanceFromLost input id = dist ∧ dist ≤ 99 ∧ dist ≠ 0 := by
  have entry := CityDistance.mem_searchDistanceEntries input.map input.defenderCityId 99 id dist
  unfold distanceFromLost
  rw [CityDistance.getCityDistance_eq]
  refine entry.trans (and_congr_right fun known => ⟨fun near => ⟨near, ?_⟩, And.left⟩)
  rintro rfl
  exact (keptCity_eq_some.mp kept).2.2 (Breadth.eq_of_distance_eq_zero known)

theorem findNextCapital_spec (input : WarAftermathInput) (nationId : ℕ) :
    (findNextCapital input nationId = .error "도시가 남지 않았는데 긴천을 시도하고 있습니다" ∧
      ∀ id city, keptCity input nationId id = some city → 99 < distanceFromLost input id) ∨
    ∃ next, findNextCapital input nationId = .ok next ∧ keptCity input nationId next.1 = some next.2 ∧
      distanceFromLost input next.1 ≤ 99 ∧
      ∀ id city, keptCity input nationId id = some city → distanceFromLost input next.1 ≤ distanceFromLost input id ∧
        (distanceFromLost input next.1 = distanceFromLost input id → city.population ≤ next.2.population) := by
  obtain ⟨-, ordered, -⟩ := CityDistance.searchDistanceEntries_spec input.map input.defenderCityId 99
  -- A kept city without an entry is too far away.
  have entry_of_near {id : Int} {city : WarCity} (kept : keptCity input nationId id = some city)
      (near : distanceFromLost input id ≤ 99) : ∃ dist : ℕ, distanceFromLost input id = dist ∧ dist ≠ 0 ∧
        (id, dist) ∈ searchDistanceEntries input.map input.defenderCityId 99 := by
    obtain ⟨dist, known, within⟩ := ENat.le_natCast_iff.mp (show distanceFromLost input id ≤ (99 : ℕ) from near)
    have positive : dist ≠ 0 := by
      rintro rfl
      unfold distanceFromLost at known
      rw [CityDistance.getCityDistance_eq] at known
      exact (keptCity_eq_some.mp kept).2.2 (Breadth.eq_of_distance_eq_zero known)
    exact ⟨dist, known, positive, (kept_entry kept dist).mpr ⟨known, within, positive⟩⟩
  unfold findNextCapital
  rcases scanCapital_spec (keptCity input nationId) ordered with
    ⟨none_, all⟩ | ⟨next, distance, scanned, positive, listed, kept, nearest⟩
  · rw [none_]
    refine .inl ⟨rfl, fun id city kept => lt_of_not_ge fun near => ?_⟩
    obtain ⟨dist, -, away, listed⟩ := entry_of_near kept near
    rw [all _ listed away] at kept
    cases kept
  · rw [scanned]
    obtain ⟨known, within, -⟩ := (kept_entry kept distance).mp listed
    have near : distanceFromLost input next.1 ≤ (99 : ℕ) := known ▸ Nat.cast_le.mpr within
    refine .inr ⟨next, rfl, kept, near, fun id city other => ?_⟩
    rcases le_or_gt (distanceFromLost input id) 99 with close | far
    · obtain ⟨dist, measured, away, entry⟩ := entry_of_near other close
      obtain ⟨least, most⟩ := nearest id dist city entry away other
      rw [known, measured]
      exact ⟨Nat.cast_le.mpr least, fun same => most (Nat.cast_inj.mp same)⟩
    · have apart : distanceFromLost input next.1 < distanceFromLost input id := lt_of_le_of_lt near far
      exact ⟨apart.le, fun same => absurd same apart.ne⟩

/-! ### The conquest of a city -/

/-- The captured city is the only one that its nation has. -/
def LastCity (input : WarAftermathInput) (defender : WarNation) : Prop :=
  defender.id ≠ 0 ∧ ∀ id city, input.cities.get? id = some city → city.nationId = defender.id →
    id = input.defenderCityId

theorem nationCollapsed_iff (defends : input.defenderNation = some defender) :
    nationCollapsed input = true ↔ LastCity input defender := by
  have named : defenderNationId input = defender.id := by rw [defenderNationId, defends]; rfl
  have owned (id : Int) (city : WarCity) : (id, city) ∈ ownedCities input defender.id ↔
      input.cities.get? id = some city ∧ city.nationId = defender.id := by
    rw [ownedCities, List.mem_filter, OrderedMap.mem_entries, decide_eq_true_eq]
  have captured := (owned _ _).mpr ⟨input.listed, (input.foreign defender defends).1.symm⟩
  rw [nationCollapsed, decide_eq_true_eq, named, LastCity]
  refine and_congr_right fun _ => ⟨fun single id city present own => ?_, fun only => ?_⟩
  · obtain ⟨entry, list⟩ := List.length_eq_one_iff.mp single
    have member := (owned id city).mpr ⟨present, own⟩
    rw [list, List.mem_singleton] at member captured
    exact congrArg Prod.fst (member.trans captured.symm)
  · -- Two cities of the nation would be listed under one number.
    have distinct : ((ownedCities input defender.id).map Prod.fst).Nodup :=
      input.cities.nodup.sublist (List.filter_sublist.map Prod.fst)
    have same (entry : Int × WarCity) (member : entry ∈ ownedCities input defender.id) :
        entry.1 = input.defenderCityId := by
      obtain ⟨present, own⟩ := (owned entry.1 entry.2).mp member
      exact only _ _ present own
    cases list : ownedCities input defender.id with
    | nil =>
      rw [list] at captured
      cases captured
    | cons first rest =>
      cases rest with
      | nil => rfl
      | cons second more =>
        rw [list] at same distinct
        have equal : first.1 = second.1 :=
          (same first (by simp)).trans (same second (by simp)).symm
        simp [equal] at distinct

/-- A nation has a lord: a general of the highest office, or the one that it has on record. -/
def HasLord (input : WarAftermathInput) (defender : WarNation) : Prop :=
  ∃ id general, input.generals.get? id = some general ∧ general.nationId = defender.id ∧
    (general.officerLevel = 12 ∨ defender.chiefGeneralId = some id)

theorem mem_nationGenerals :
    (id, general) ∈ nationGenerals input nationId ↔
      input.generals.get? id = some general ∧ general.nationId = nationId := by
  rw [nationGenerals, List.mem_filter, OrderedMap.mem_entries, decide_eq_true_eq]

theorem collapseLord_isSome (input : WarAftermathInput) (defender : WarNation) :
    (collapseLord input defender).isSome ↔ HasLord input defender := by
  rw [collapseLord, Option.isSome_map, Option.isSome_or, Bool.or_eq_true, List.find?_isSome, HasLord]
  constructor
  · rintro (⟨⟨id, general⟩, member, highest⟩ | recorded)
    · obtain ⟨present, own⟩ := mem_nationGenerals.mp member
      exact ⟨id, general, present, own, .inl (of_decide_eq_true highest)⟩
    · cases chief : defender.chiefGeneralId with
      | none => simp [chief] at recorded
      | some chiefId =>
        rw [chief, Option.bind_some, List.find?_isSome] at recorded
        obtain ⟨⟨id, general⟩, member, same⟩ := recorded
        obtain ⟨present, own⟩ := mem_nationGenerals.mp member
        exact ⟨id, general, present, own, .inr (congrArg some (of_decide_eq_true same).symm)⟩
  · rintro ⟨id, general, present, own, highest | recorded⟩
    · exact .inl ⟨(id, general), mem_nationGenerals.mpr ⟨present, own⟩, decide_eq_true highest⟩
    · right
      rw [recorded, Option.bind_some, List.find?_isSome]
      exact ⟨(id, general), mem_nationGenerals.mpr ⟨present, own⟩, decide_eq_true rfl⟩

theorem defenderGenerals_spec (input : WarAftermathInput) (defender : WarNation) (lordId : Int) :
    (defenderGenerals input defender lordId).Nodup ∧ ∀ id, id ∈ defenderGenerals input defender lordId ↔
      ∃ general, input.generals.get? id = some general ∧ general.nationId = defender.id := by
  have same := List.perm_insertionSort (LeavesBefore lordId) ((nationGenerals input defender.id).map Prod.fst)
  constructor
  · exact same.nodup_iff.mpr (input.generals.nodup.sublist (List.filter_sublist.map Prod.fst))
  · intro id
    rw [defenderGenerals, same.mem_iff, List.mem_map]
    constructor
    · rintro ⟨⟨id, general⟩, member, rfl⟩
      exact ⟨general, mem_nationGenerals.mp member⟩
    · rintro ⟨general, own⟩
      exact ⟨(id, general), mem_nationGenerals.mpr own, rfl⟩

/-- The balances that a collapse moves are natural numbers. -/
structure WholeBalances (input : WarAftermathInput) (defender : WarNation) : Prop where
  attackerGold : Whole input.attackerNation.gold
  attackerRice : Whole input.attackerNation.rice
  treasuryGold : Whole defender.gold
  treasuryRice : Whole defender.rice
  generals : ∀ id general, input.generals.get? id = some general → general.nationId = defender.id →
    Whole general.gold ∧ Whole general.rice

/-- What the end of a nation leaves behind. -/
structure CollapseSettled (input : WarAftermathInput) (defender : WarNation) (outcome : ConquerCityOutcome) :
    Prop where
  /-- The generals of the nation hold no more than before, and nobody else's balances change. -/
  generals : ∀ id before, input.generals.get? id = some before → ∃ after, outcome.generals.get? id = some after ∧
    after.nationId = before.nationId ∧ (before.nationId ≠ defender.id → after = before) ∧
    (before.nationId = defender.id → (0 ≤ after.gold ∧ after.gold ≤ before.gold) ∧
      0 ≤ after.rice ∧ after.rice ≤ before.rice)
  /-- The attacker's nation gets half of the gold above the reserve and of the gold lost. -/
  gold : outcome.attackerNation.gold = input.attackerNation.gold +
    ⌊(max 0 (defender.gold - input.config.baseGold) + (held General.gold [(defender.id : Int)] input.generals -
      held General.gold [(defender.id : Int)] outcome.generals)) / 2⌋
  /-- So it does of the rice. -/
  rice : outcome.attackerNation.rice = input.attackerNation.rice +
    ⌊(max 0 (defender.rice - input.config.baseRice) + (held General.rice [(defender.id : Int)] input.generals -
      held General.rice [(defender.id : Int)] outcome.generals)) / 2⌋
  /-- The attacker's nation and all the generals hold no more gold than before together with the treasury. -/
  goldTotal : 0 ≤ input.config.baseGold → outcome.attackerNation.gold +
      held General.gold [(input.attackerNation.id : Int), defender.id] outcome.generals ≤
    input.attackerNation.gold + defender.gold +
      held General.gold [(input.attackerNation.id : Int), defender.id] input.generals
  /-- Neither do they hold more rice. -/
  riceTotal : 0 ≤ input.config.baseRice → outcome.attackerNation.rice +
      held General.rice [(input.attackerNation.id : Int), defender.id] outcome.generals ≤
    input.attackerNation.rice + defender.rice +
      held General.rice [(input.attackerNation.id : Int), defender.id] input.generals
  /-- The treasury is left on the row of the nation, which is marked as fallen. -/
  fallen : outcome.defenderNation = some { defender with metadata := defender.metadata.set "collapsed" (.bool true) }

theorem collapseNation_settled (source : RandomSource σ) (rng : σ) (lord : HasLord input defender)
    (whole : WholeBalances input defender) :
    ∃ outcome, collapseNation source input defender rng = .ok outcome ∧ CollapseSettled input defender outcome := by
  obtain ⟨lordId, known⟩ := Option.isSome_iff_exists.mp ((collapseLord_isSome input defender).mpr lord)
  obtain ⟨distinct, among⟩ := defenderGenerals_spec input defender lordId
  obtain ⟨untouched, fled, ⟨goldMore, riceMore⟩, sums⟩ := ruinGenerals_spec source input defender.id
    distinct ⟨rng, input.generals, 0, 0, [], []⟩ (by
      intro id member
      obtain ⟨general, present, own⟩ := (among id).mp member
      exact ⟨general, present, own, whole.generals id general present own⟩)
  obtain ⟨goldOwn, riceOwn⟩ := sums [(defender.id : Int)] (by simp)
  obtain ⟨goldBoth, riceBoth⟩ := sums [(input.attackerNation.id : Int), defender.id] (by simp)
  unfold collapseNation
  rw [known]
  refine ⟨_, rfl, ⟨fun id before present => ?_, ?_, ?_, fun reserve => ?_, fun reserve => ?_, rfl⟩⟩
  · by_cases own : before.nationId = defender.id
    · obtain ⟨after, loseGold, loseRice, got, spared⟩ :=
        fled id ((among id).mpr ⟨before, present, own⟩) before present
      refine ⟨after, got, spared.nation, absurd own, fun _ => ?_⟩
      rw [spared.gold, spared.rice]
      exact ⟨⟨sub_nonneg.mpr spared.goldLost.2, sub_le_self _ spared.goldLost.1⟩,
        sub_nonneg.mpr spared.riceLost.2, sub_le_self _ spared.riceLost.1⟩
    · refine ⟨before, ?_, rfl, fun _ => rfl, fun same => absurd same own⟩
      refine (untouched id fun member => own ?_).trans present
      obtain ⟨general, got, of_nation⟩ := (among id).mp member
      obtain rfl := Option.some.inj (present.symm.trans got)
      exact of_nation
  · have lost := eq_sub_of_add_eq' (goldOwn.trans (by rw [Int.cast_zero, add_zero]))
    exact (roundHalfUp_add whole.attackerGold _).trans (by rw [collapseReward, lost])
  · have lost := eq_sub_of_add_eq' (riceOwn.trans (by rw [Int.cast_zero, add_zero]))
    exact (roundHalfUp_add whole.attackerRice _).trans (by rw [collapseReward, lost])
  · obtain ⟨treasury, treasuryWhole⟩ := whole.treasuryGold
    have reward := collapseReward_le reserve (treasuryWhole ▸ Nat.cast_nonneg treasury) goldMore
    rw [Int.cast_zero, add_zero] at goldBoth
    dsimp only
    rw [roundHalfUp_add whole.attackerGold]
    linarith
  · obtain ⟨treasury, treasuryWhole⟩ := whole.treasuryRice
    have reward := collapseReward_le reserve (treasuryWhole ▸ Nat.cast_nonneg treasury) riceMore
    rw [Int.cast_zero, add_zero] at riceBoth
    dsimp only
    rw [roundHalfUp_add whole.attackerRice]
    linarith

/-- What the flight of a capital to a city leaves behind. -/
structure CapitalMoved (input : WarAftermathInput) (defender : WarNation) (next : Int × WarCity)
    (outcome : ConquerCityOutcome) : Prop where
  /-- It is another city of the nation. -/
  kept : keptCity input defender.id next.1 = some next.2
  near : distanceFromLost input next.1 ≤ 99
  /-- No city of the nation is nearer, and none as near has more people. -/
  nearest : ∀ id city, keptCity input defender.id id = some city →
    distanceFromLost input next.1 ≤ distanceFromLost input id ∧
      (distanceFromLost input next.1 = distanceFromLost input id → city.population ≤ next.2.population)
  capital : outcome.defenderNation.bind WarNation.capitalCityId = some next.1
  /-- The chiefs are moved there. -/
  chiefs : ∀ id before, input.generals.get? id = some before → before.nationId = defender.id →
    5 ≤ before.officerLevel → isAssignedToOfficerCity before input.defenderCityId = false →
    ∃ after, outcome.generals.get? id = some after ∧ after.cityId = next.1
  /-- Whoever holds an office of the captured city loses it, and stays where it is. -/
  dismissed : ∀ id before, input.generals.get? id = some before →
    isAssignedToOfficerCity before input.defenderCityId = true →
    ∃ after, outcome.generals.get? id = some after ∧ after.officerLevel = 1 ∧ after.cityId = before.cityId

theorem gather_chief {nextCapitalId : Int} (own : general.nationId = nationId)
    (chief : 5 ≤ general.officerLevel) (free : isAssignedToOfficerCity general cityId = false) :
    (gather nationId nextCapitalId (dismissOfficer cityId general)).cityId = nextCapitalId := by
  unfold dismissOfficer
  rw [if_neg (by simp [free]), gather, if_pos own]
  exact if_pos chief

theorem gather_dismissed (nationId : ℕ) (nextCapitalId : Int)
    (assigned : isAssignedToOfficerCity general cityId = true) :
    (gather nationId nextCapitalId (dismissOfficer cityId general)).officerLevel = 1 ∧
      (gather nationId nextCapitalId (dismissOfficer cityId general)).cityId = general.cityId := by
  have low : ¬ (5 : ℚ) ≤ 1 := by norm_num
  unfold dismissOfficer
  rw [if_pos assigned, gather]
  split
  · exact ⟨rfl, if_neg (t := nextCapitalId) low⟩
  · exact ⟨rfl, rfl⟩

theorem settleLoss_moved (defends : input.defenderNation = some defender)
    (lost : defender.capitalCityId = some input.defenderCityId) {next : Int × WarCity}
    (found : findNextCapital input defender.id = .ok next)
    (kept : keptCity input defender.id next.1 = some next.2) (near : distanceFromLost input next.1 ≤ 99)
    (nearest : ∀ id city, keptCity input defender.id id = some city →
      distanceFromLost input next.1 ≤ distanceFromLost input id ∧
        (distanceFromLost input next.1 = distanceFromLost input id → city.population ≤ next.2.population)) :
    ∃ outcome, settleLoss input = .ok outcome ∧ CapitalMoved input defender next outcome := by
  unfold settleLoss
  rw [defends]
  dsimp only
  rw [moveCapital, if_pos lost, found]
  refine ⟨_, rfl, ⟨kept, near, nearest, rfl, fun id before present own chief free => ?_, ?_⟩⟩
  · refine ⟨_, ?_, gather_chief own chief free⟩
    rw [OrderedMap.get?_mapValues, OrderedMap.get?_mapValues, present]
    rfl
  · intro id before present assigned
    refine ⟨_, ?_, gather_dismissed defender.id next.1 assigned⟩
    rw [OrderedMap.get?_mapValues, OrderedMap.get?_mapValues, present]
    rfl

/--
A conquest settles what becomes of the nation that loses the city.

With its only city a nation comes to its end, if it has a lord.
With its capital it moves to a nearest city with most people, if one of its cities is within 99 connections.
-/
theorem conquest_settled (source : RandomSource σ) (input : WarAftermathInput) (rng : σ) (defender : WarNation)
    (defends : input.defenderNation = some defender) :
    (LastCity input defender →
      (¬ HasLord input defender → ∃ message, resolveConquerCity source input rng = .error message) ∧
      (HasLord input defender → WholeBalances input defender → ∃ outcome,
        resolveConquerCity source input rng = .ok outcome ∧ CollapseSettled input defender outcome)) ∧
    (¬ LastCity input defender → defender.capitalCityId = some input.defenderCityId →
      ((∀ id city, keptCity input defender.id id = some city → 99 < distanceFromLost input id) →
        ∃ message, resolveConquerCity source input rng = .error message) ∧
      ((∃ id city, keptCity input defender.id id = some city ∧ distanceFromLost input id ≤ 99) → ∃ outcome next,
        resolveConquerCity source input rng = .ok outcome ∧ CapitalMoved input defender next outcome)) := by
  constructor
  · intro last
    have collapses : resolveConquerCity source input rng =
        (collapseNation source input defender rng).map (takeCity input) := by
      rw [resolveConquerCity, defends, Option.filter_some, (nationCollapsed_iff defends).mpr last]
      rfl
    rw [collapses]
    refine ⟨fun no_lord => ?_, fun lord whole => ?_⟩
    · rw [← collapseLord_isSome, Option.isSome_iff_ne_none, not_not] at no_lord
      rw [collapseNation, no_lord]
      exact ⟨_, rfl⟩
    · obtain ⟨outcome, settled, ends⟩ := collapseNation_settled source rng lord whole
      rw [settled]
      -- Handing the city over concerns neither the nations nor the generals.
      exact ⟨takeCity input outcome, rfl,
        ⟨ends.generals, ends.gold, ends.rice, ends.goldTotal, ends.riceTotal, ends.fallen⟩⟩
  · intro more lost
    have continues : resolveConquerCity source input rng = (settleLoss input).map (takeCity input) := by
      have stands : nationCollapsed input = false := Bool.eq_false_iff.mpr (mt (nationCollapsed_iff defends).mp more)
      rw [resolveConquerCity, defends, Option.filter_some, stands]
      rfl
    rw [continues]
    rcases findNextCapital_spec input defender.id with ⟨failed, far⟩ | ⟨next, found, kept, near, nearest⟩
    · refine ⟨fun _ => ?_, fun ⟨id, city, kept, near⟩ => absurd near (not_le.mpr (far id city kept))⟩
      rw [settleLoss, defends]
      dsimp only
      rw [moveCapital, if_pos lost, failed]
      exact ⟨_, rfl⟩
    · refine ⟨fun far => absurd near (not_le.mpr (far next.1 next.2 kept)), fun _ => ?_⟩
      obtain ⟨outcome, settled, moved⟩ := settleLoss_moved defends lost found kept near nearest
      rw [settled]
      exact ⟨takeCity input outcome, next, rfl,
        ⟨moved.kept, moved.near, moved.nearest, moved.capital, moved.chiefs, moved.dismissed⟩⟩

/-! ### Three conquests -/

/-- Draws that never come to much. -/
def evenDraws : RandomSource Unit where
  nextFloat1 _ := (1 / 2, ())
  nextBit _ := (false, ())
  nextInt _ _ := (0, ())
  unit _ := by norm_num
  inclusive _ bound := Nat.zero_le bound

/-- A city of a nation. -/
def town (nationId : ℕ) (population : ℚ) : WarCity where
  nationId := nationId
  level := 5
  population := population
  agriculture := 100
  commerce := 100
  security := 100
  supplyState := 1
  frontState := 0
  defence := 0
  defenceMax := 1000
  wall := 0
  wallMax := 1000
  contested := ⟨none, none⟩
  metadata := []

/-- A general of a nation with a hundred of gold. -/
def officer (nationId : Int) (officerLevel : ℚ) (metadata : Record) : General where
  name := "장수"
  nationId := nationId
  cityId := 1
  troopId := 0
  leadership := 50
  strength := 50
  intelligence := 50
  experience := 1000
  dedication := 1000
  officerLevel := officerLevel
  injury := 0
  gold := 100
  rice := 0
  crew := 0
  crewTypeId := 0
  train := 0
  atmos := 100
  age := 30
  npcState := 0
  role := []
  triggerState := []
  metadata := metadata
  turnTime := 0
  turnTick := none
  recentWarTime := none
  recentWarTick := none
  columns := []

/-- A nation with a treasury and a capital. -/
def realm (id : ℕ) (gold : ℚ) : WarNation := ⟨id, some 1, none, gold, 0, []⟩

/-- A conquest of the first city of the second nation. -/
def conquestOf (treasury : ℚ) (cities : List (Int × WarCity)) (generals : List (Int × General)) :
    WarAftermathInput where
  attackerId := 9
  attacker := officer 1 1 []
  attackerNation := realm 1 0
  defenderNation := some (realm 2 treasury)
  defenderCityId := 1
  defenderCity := town 2 10
  nations := [1, 2]
  cities := (OrderedMap.ofEntries cities).set 1 (town 2 10)
  generals := OrderedMap.ofEntries generals
  map := [⟨1, [2, 3, 4]⟩, ⟨2, [1]⟩, ⟨3, [1]⟩, ⟨4, [1]⟩]
  config := ⟨1000, 0, 0, some .full, none⟩
  listed := by rw [OrderedMap.get?_set, if_pos rfl]
  foreign defender same := by
    obtain rfl := Option.some.inj same
    exact ⟨rfl, (by decide : (2 : ℕ) ≠ 1)⟩

/-- The lord of the second nation loses its only city. -/
def lastStand : WarAftermathInput := conquestOf 10000 [] [(7, officer 2 12 [])]

/-- A chief loses its capital, and keeps two cities; another chief has an office of the captured city. -/
def flight : WarAftermathInput :=
  conquestOf 10000 [(2, town 2 20), (3, town 2 30), (4, town 1 40)]
    [(7, officer 2 12 []), (8, officer 2 5 [("officerCity", .num 1)])]

/-- A nation falls in one conquest, and a capital moves in another. -/
theorem conquest_settled_samples :
    (∃ outcome, resolveConquerCity evenDraws lastStand () = .ok outcome ∧
      CollapseSettled lastStand (realm 2 10000) outcome) ∧
    ∃ outcome next, resolveConquerCity evenDraws flight () = .ok outcome ∧
      CapitalMoved flight (realm 2 10000) next outcome := by
  have whole (amount : ℕ) : Whole (amount : ℚ) := ⟨amount, rfl⟩
  constructor
  · refine ((conquest_settled evenDraws lastStand () (realm 2 10000) rfl).1 ⟨by decide, ?_⟩).2 ?_ ?_
    · intro id city present _
      have only : (id, city) ∈ [((1 : Int), town 2 10)] := OrderedMap.mem_entries.mpr present
      rw [List.mem_singleton] at only
      exact congrArg Prod.fst only
    · exact ⟨7, officer 2 12 [], rfl, rfl, .inl rfl⟩
    · refine ⟨whole 0, whole 0, whole 10000, whole 0, fun id general present _ => ?_⟩
      have only : (id, general) ∈ [((7 : Int), officer 2 12 [])] := OrderedMap.mem_entries.mpr present
      rw [List.mem_singleton] at only
      obtain ⟨-, rfl⟩ := Prod.mk.inj only
      exact ⟨whole 100, whole 0⟩
  · refine ((conquest_settled evenDraws flight () (realm 2 10000) rfl).2 ?_ rfl).2 ⟨3, town 2 30, rfl, ?_⟩
    · exact fun last => absurd (last.2 3 (town 2 30) rfl rfl) (by decide)
    · decide +kernel

/--
What the nations and their generals hold together grows, for the treasury of the fallen nation stays on its row.

A chief with an office of the captured city is not moved, and a nation without a lord does not fall at all.
-/
theorem conquest_unsettled :
    (((resolveConquerCity evenDraws lastStand ()).toOption.map fun outcome =>
        (outcome.attackerNation.gold, outcome.defenderNation.map WarNation.gold,
          held General.gold [1, 2] outcome.generals)) = some (5017, some 10000, 65) ∧
      (lastStand.attackerNation.gold, lastStand.defenderNation.map WarNation.gold,
          held General.gold [1, 2] lastStand.generals) = (0, some 10000, 100)) ∧
    ((resolveConquerCity evenDraws flight ()).toOption.map fun outcome =>
      (outcome.defenderNation.bind WarNation.capitalCityId, (outcome.generals.get? 8).map General.cityId)) =
        some (some 3, some 1) ∧
    (resolveConquerCity evenDraws (conquestOf 0 [] [(7, officer 2 5 [])]) ()).toOption.isNone := by
  decide +kernel

end Sammo.War.Conquest
