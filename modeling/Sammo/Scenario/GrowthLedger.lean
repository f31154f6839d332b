import Mathlib.Tactic.Linarith
import Sammo.Scenario.CentennialAllStar

/-! The ledger tells at every time which part of a general's values the event has given. -/

namespace Sammo.CentennialAllStar

/-! ### Proportions -/

section Proportions

variable {part whole : Int}

theorem proportion_eq {amount : Int} (some_ : 0 < whole) (nonneg : 0 ≤ part) (amountNonneg : 0 ≤ amount) :
    proportion amount part whole = amount * part / whole := by
  rw [proportion, if_pos some_, Int.tdiv_eq_ediv_of_nonneg (mul_nonneg amountNonneg nonneg)]

theorem proportion_grows {less more : Int} (nonneg : 0 ≤ part) (within : part ≤ whole) (lessNonneg : 0 ≤ less)
    (le : less ≤ more) : proportion less part whole ≤ proportion more part whole ∧
      proportion more part whole - proportion less part whole ≤ more - less := by
  by_cases some_ : 0 < whole
  · rw [proportion_eq some_ nonneg lessNonneg, proportion_eq some_ nonneg (lessNonneg.trans le)]
    constructor
    · exact Int.ediv_le_ediv some_ (mul_le_mul_of_nonneg_right le nonneg)
    · -- The part of the difference is at most the difference.
      have bound : more * part ≤ less * part + (more - less) * whole := by nlinarith
      have quotients := Int.ediv_le_ediv some_ bound
      rw [Int.add_mul_ediv_right _ _ some_.ne'] at quotients
      linarith
  · simp only [proportion, if_neg some_]
    omega

theorem proportion_zero : proportion 0 part whole = 0 := by
  simp [proportion]

theorem proportion_whole (nonneg : 0 ≤ part) (within : part ≤ whole) : proportion whole part whole = part := by
  by_cases some_ : 0 < whole
  · rw [proportion_eq some_ nonneg some_.le, Int.mul_ediv_cancel_left _ some_.ne']
  · rw [proportion, if_neg some_]
    omega

theorem proportion_spec {amount : Int} (nonneg : 0 ≤ part) (within : part ≤ whole) (amountNonneg : 0 ≤ amount)
    (le : amount ≤ whole) : 0 ≤ proportion amount part whole ∧ proportion amount part whole ≤ amount ∧
      proportion amount part whole ≤ part ∧ amount - proportion amount part whole ≤ whole - part := by
  have below := proportion_grows nonneg within (le_refl 0) amountNonneg
  have above := proportion_grows nonneg within amountNonneg le
  rw [proportion_zero] at below
  rw [proportion_whole nonneg within] at above
  omega

end Proportions

/-! ### What the ledger says -/

/-- What the event has given of an ability. -/
def grantedStat (general : Growing) (key : StatKey) : Int := (general.aux.map fun aux => aux.grantedStat key).getD 0

/-- What the event has given of a mastery. -/
def grantedDex (general : Growing) (key : DexKey) : Int := (general.aux.map fun aux => aux.grantedDex key).getD 0

/-- What of a mastery given by the event has been converted. -/
def consumedDex (general : Growing) (key : DexKey) : Int := (general.aux.map fun aux => aux.dexConsumed key).getD 0

/-- The floor of a mastery in the last month of growth. -/
def floorDex (general : Growing) (key : DexKey) : Int := (general.aux.map fun aux => aux.dexFloor key).getD 0

/-- What a general has of an ability by itself. -/
def organicStat (general : Growing) (key : StatKey) : Int := general.stats key - grantedStat general key

/-- What a general has of a mastery by itself. -/
def organicDex (general : Growing) (key : DexKey) : Int := general.dex key - grantedDex general key

/-- All the mastery that a general has by itself. -/
def totalOrganicDex (general : Growing) : Int := (dexKeys.map (organicDex general)).sum

/-- A general is a player's. -/
def isUser (general : Growing) : Bool := (general.aux.bind Aux.userInitialStats).isSome

/-- What the event has given is a part of what there is. -/
structure Sound (general : Growing) : Prop where
  stat : ∀ key, 0 ≤ grantedStat general key ∧ grantedStat general key ≤ general.stats key
  dex : ∀ key, 0 ≤ grantedDex general key ∧ grantedDex general key ≤ general.dex key
  consumed : ∀ key, 0 ≤ consumedDex general key
  floor : ∀ key, 0 ≤ floorDex general key

theorem readCentennialAllStarAux_sound {general : Growing} (sound : Sound general) (fallback : Option Target) :
    ∀ aux, general.aux = some aux → readCentennialAllStarAux general.aux fallback = some aux := by
  intro aux kept
  have stat (key : StatKey) : max 0 (aux.grantedStat key) = aux.grantedStat key := by
    have := (sound.stat key).1
    simp only [grantedStat, kept, Option.map_some, Option.getD_some] at this
    omega
  have dex (key : DexKey) : max 0 (aux.grantedDex key) = aux.grantedDex key := by
    have := (sound.dex key).1
    simp only [grantedDex, kept, Option.map_some, Option.getD_some] at this
    omega
  have consumed (key : DexKey) : max 0 (aux.dexConsumed key) = aux.dexConsumed key := by
    have := sound.consumed key
    simp only [consumedDex, kept, Option.map_some, Option.getD_some] at this
    omega
  have floor (key : DexKey) : max 0 (aux.dexFloor key) = aux.dexFloor key := by
    have := sound.floor key
    simp only [floorDex, kept, Option.map_some, Option.getD_some] at this
    omega
  simp only [kept, readCentennialAllStarAux, stat, dex, consumed, floor]

theorem openAux_spec {general : Growing} (sound : Sound general) (target : Target) (rules : Rules) :
    (openAux general target rules).grantedStat = grantedStat general ∧
    (openAux general target rules).grantedDex = grantedDex general ∧
    (openAux general target rules).dexConsumed = consumedDex general ∧
    (openAux general target rules).userInitialStats.isSome = isUser general := by
  unfold openAux
  cases kept : general.aux with
  | none =>
    refine ⟨funext fun key => ?_, funext fun key => ?_, funext fun key => ?_, ?_⟩ <;>
      simp [readCentennialAllStarAux, grantedStat, grantedDex, consumedDex, isUser, kept]
  | some aux =>
    have read := readCentennialAllStarAux_sound sound (some target) aux kept
    rw [kept] at read
    rw [read]
    refine ⟨funext fun key => ?_, funext fun key => ?_, funext fun key => ?_, ?_⟩ <;>
      simp [grantedStat, grantedDex, consumedDex, isUser, kept]

/-! ### A month of growth -/

/-- What a target comes to at a time, in abilities and in mastery. -/
structure Floors where
  progress : ℚ
  user : Option (StatKey → Int)
  dex : DexKey → Int

/-- The floors of a target, whatever a general has had before. -/
def targetFloors (target : Target) (environment : Environment) (rules : Rules)
    (progressMultiplier dexTargetRatio : ℚ) (user : Bool) : Except String Floors := do
  let progress ← calculateCentennialProgress environment progressMultiplier defaultGrowthYears
  let stats ← userCurrentTargetStats user target environment rules
  let dexTargetFloor ← dexTargetFloors target environment rules dexTargetRatio
  return ⟨progress, stats, dexTargetFloor⟩

theorem apply_eq {general : Growing} (sound : Sound general) (target : Target) (environment : Environment)
    (rules : Rules) (progressMultiplier dexTargetRatio : ℚ) :
    applyCentennialAllStarTarget general target environment rules progressMultiplier dexTargetRatio =
      (targetFloors target environment rules progressMultiplier dexTargetRatio (isUser general)).map fun floors =>
        applyFloors general (openAux general target rules) target environment rules progressMultiplier dexTargetRatio
          floors.progress floors.user floors.dex := by
  have user := (openAux_spec sound target rules).2.2.2
  simp only [applyCentennialAllStarTarget, targetFloors, user, Bind.bind, Except.bind]
  cases calculateCentennialProgress environment progressMultiplier defaultGrowthYears with
  | error message => rfl
  | ok progress =>
    dsimp only
    cases userCurrentTargetStats (isUser general) target environment rules with
    | error message => rfl
    | ok stats =>
      dsimp only
      cases dexTargetFloors target environment rules dexTargetRatio with
      | error message => rfl
      | ok dex => rfl

variable {current : Int}

theorem settle_spec (replaces : Bool) {granted : Int} (floor : Int) (nonneg : 0 ≤ granted)
    (within : granted ≤ current) :
    (0 ≤ (settle replaces current granted floor).2 ∧
      (settle replaces current granted floor).2 ≤ (settle replaces current granted floor).1) ∧
    (settle replaces current granted floor).1 - (settle replaces current granted floor).2 = current - granted ∧
    floor ≤ (settle replaces current granted floor).1 ∧
    (replaces = true → (settle replaces current granted floor).1 = max (current - granted) floor) := by
  cases replaces with
  | true =>
    rw [settle, if_pos rfl, replaceTarget]
    dsimp only
    omega
  | false =>
    rw [settle, if_neg Bool.false_ne_true, advance]
    dsimp only
    refine ⟨?_, ?_, ?_, fun replaced => absurd replaced Bool.false_ne_true⟩ <;> omega

theorem settle_kept (granted : Int) {floor : Int} (reached : floor ≤ current) :
    (settle false current granted floor).1 = current := by
  rw [settle, if_neg Bool.false_ne_true, advance]
  dsimp only
  omega

variable {general : Growing} {target : Target} {environment : Environment} {rules : Rules}
  {progressMultiplier dexTargetRatio : ℚ} {result : ApplyResult}

theorem apply_spec (sound : Sound general)
    (applied : applyCentennialAllStarTarget general target environment rules progressMultiplier dexTargetRatio =
      .ok result) :
    ∃ floors, targetFloors target environment rules progressMultiplier dexTargetRatio (isUser general) = .ok floors ∧
      result = applyFloors general (openAux general target rules) target environment rules progressMultiplier
        dexTargetRatio floors.progress floors.user floors.dex := by
  rw [apply_eq sound] at applied
  cases known : targetFloors target environment rules progressMultiplier dexTargetRatio (isUser general) with
  | error message =>
    rw [known] at applied
    cases applied
  | ok floors =>
    rw [known] at applied
    exact ⟨floors, rfl, (Except.ok.inj applied).symm⟩

theorem apply_sound (sound : Sound general)
    (applied : applyCentennialAllStarTarget general target environment rules progressMultiplier dexTargetRatio =
      .ok result) :
    Sound result.general ∧ (∀ key, organicStat result.general key = organicStat general key) ∧
      ∀ key, organicDex result.general key = organicDex general key := by
  obtain ⟨floors, -, rfl⟩ := apply_spec sound applied
  obtain ⟨stat, dex, consumed, -⟩ := openAux_spec sound target rules
  unfold applyFloors
  rw [stat, dex, consumed]
  refine ⟨⟨fun key => ?_, fun key => ?_, fun key => ?_, fun key => ?_⟩, fun key => ?_, fun key => ?_⟩
  · exact (settle_spec _ _ (sound.stat key).1 (sound.stat key).2).1
  · exact (settle_spec _ _ (sound.dex key).1 (sound.dex key).2).1
  · have kept := sound.consumed key
    simp only [consumedDex, Option.map_some, Option.getD_some] at kept ⊢
    split
    · exact le_refl 0
    · exact kept
  · exact le_max_left 0 _
  · exact (settle_spec _ _ (sound.stat key).1 (sound.stat key).2).2.1
  · exact (settle_spec _ _ (sound.dex key).1 (sound.dex key).2).2.1

theorem apply_replaces (sound : Sound general)
    (applied : applyCentennialAllStarTarget general target environment rules progressMultiplier dexTargetRatio =
      .ok result) (changed : result.targetChanged = true) :
    ∃ floors, targetFloors target environment rules progressMultiplier dexTargetRatio (isUser general) = .ok floors ∧
      (∀ key, result.general.stats key =
        max (organicStat general key) (statFloor rules target floors.progress floors.user key)) ∧
      ∀ key, result.general.dex key = max (organicDex general key) (max 0 (floors.dex key)) := by
  obtain ⟨floors, known, rfl⟩ := apply_spec sound applied
  obtain ⟨stat, dex, -, -⟩ := openAux_spec sound target rules
  have replaces : decide ((openAux general target rules).targetId ≠ target.uniqueName) = true := changed
  refine ⟨floors, known, fun key => ?_, fun key => ?_⟩
  · unfold applyFloors
    rw [stat]
    exact (settle_spec _ _ (sound.stat key).1 (sound.stat key).2).2.2.2 replaces
  · unfold applyFloors
    rw [dex, replaces]
    -- Nothing has been converted of what the new target gives.
    have settled := (settle_spec true (max 0 (floors.dex key - 0)) (sound.dex key).1 (sound.dex key).2).2.2.2 rfl
    exact settled.trans (by rw [sub_zero, organicDex])

/-! ### Conversions -/

/-- What of a ledger says which target it is about. -/
def heading (general : Growing) : Option (String × ℚ × Bool) :=
  general.aux.map fun aux => (aux.targetId, aux.dexTargetRatio, aux.userInitialStats.isSome)

/-- What a conversion does, with the parts given by the event that it removes and transfers. -/
structure Converted (before after : Growing) (source destination : DexKey) (loss gain removed transferred : Int) :
    Prop where
  apart : source ≠ destination
  stats : after.stats = before.stats
  granted : ∀ key, grantedStat after key = grantedStat before key
  dex : ∀ key, after.dex key = before.dex key +
    if key = source then -loss else if key = destination then gain else 0
  grantedDex : ∀ key, grantedDex after key = grantedDex before key +
    if key = source then -removed else if key = destination then transferred else 0
  consumed : ∀ key, consumedDex after key = consumedDex before key +
    if key = source then
      max 0 (max 0 (floorDex before source - (before.dex source - loss)) -
        max 0 (floorDex before source - before.dex source))
    else 0
  floor : ∀ key, floorDex after key = floorDex before key
  heading : heading after = heading before
  removed_le : 0 ≤ removed ∧ removed ≤ CentennialAllStar.grantedDex before source
  organicLoss : 0 ≤ loss - removed ∧ loss - removed ≤ organicDex before source
  transferred_le : 0 ≤ transferred ∧ transferred ≤ gain
  organicGain : gain - transferred ≤ loss - removed

variable {source destination : DexKey} {loss gain : Int} {before after : Growing} {removed transferred : Int}
  {next : Growing} {event : GrowthEvent} {base reached : Growing} {start : Growing} {final : Growing}
  {trace : List (GrowthEvent × Unit)}

theorem update_transfer (values : DexKey → Int) (apart : source ≠ destination) {lower higher : Int}
    (lowered : lower = values source - loss) (raised : higher = values destination + gain) (key : DexKey) :
    Function.update (Function.update values source lower) destination higher key =
      values key + if key = source then -loss else if key = destination then gain else 0 := by
  rw [Function.update_apply, Function.update_apply]
  by_cases first : key = source
  · rw [if_neg (fun second => apart (first.symm.trans second)), if_pos first, if_pos first, lowered, first]
    omega
  · by_cases second : key = destination
    · rw [if_pos second, if_neg first, if_pos second, raised, second]
    · rw [if_neg second, if_neg first, if_neg first, if_neg second, add_zero]

theorem convertDex_spec {general converted : Growing} (sound : Sound general) {loss gain : ℕ} {coefficient : ℚ}
    (gained : gain ≤ loss) (lost : (loss : Int) ≤ general.dex source)
    (done : convertDex general source destination loss gain coefficient = .ok converted) :
    ∃ removed transferred, Converted general converted source destination loss gain removed transferred := by
  obtain ⟨givenNonneg, givenLe⟩ := sound.dex source
  have consumedNonneg := sound.consumed source
  have floorNonneg := sound.floor source
  unfold convertDex reconcileCentennialDexConversion at done
  dsimp only at done
  split at done
  · cases done
  rename_i apart
  split at done
  · cases done
  split at done
  · -- Nothing is converted, so the ledger stays as it is.
    rename_i nothing
    obtain rfl : loss = 0 := by omega
    obtain rfl : gain = 0 := by omega
    cases done
    refine ⟨0, 0, ⟨apart, rfl, fun _ => rfl, update_transfer _ apart rfl rfl, fun key => ?_, fun key => ?_,
      fun _ => rfl, rfl, ⟨le_refl 0, givenNonneg⟩, ?_, ⟨le_refl 0, by omega⟩, by omega⟩⟩
    · simp only [grantedDex]
      split_ifs <;> omega
    · simp only [consumedDex]
      split_ifs <;> omega
    · unfold organicDex
      omega
  cases kept : general.aux with
  | none =>
    -- A general without a ledger has been given nothing.
    have given : grantedDex general source = 0 := by simp [grantedDex, kept]
    have floor : floorDex general source = 0 := by simp [floorDex, kept]
    rw [kept] at done
    cases done
    refine ⟨0, 0, ⟨apart, rfl, fun _ => ?_, update_transfer _ apart rfl rfl, fun key => ?_, fun key => ?_,
      fun _ => ?_, ?_, ⟨le_refl 0, givenNonneg⟩, ?_, ⟨le_refl 0, by omega⟩, by omega⟩⟩
    · simp [grantedStat, kept]
    · simp [grantedDex, kept]
    · rw [floor]
      simp only [consumedDex, kept, Option.map_none, Option.getD_none]
      split_ifs <;> omega
    · simp [floorDex, kept]
    · simp [heading, kept]
    · unfold organicDex
      omega
  | some aux =>
    have read := readCentennialAllStarAux_sound sound none aux kept
    have given : aux.grantedDex = grantedDex general := by funext key; simp [grantedDex, kept]
    have spent : aux.dexConsumed = consumedDex general := by funext key; simp [consumedDex, kept]
    have floors : aux.dexFloor = floorDex general := by funext key; simp [floorDex, kept]
    obtain ⟨givenNonnegD, givenLeD⟩ := sound.dex destination
    rw [read] at done
    dsimp only at done
    -- All that the source has is there, so the bounds of the code cut nothing off.
    have sourceGranted : min (max 0 (general.dex source)) (max 0 (aux.grantedDex source)) =
        grantedDex general source := by
      rw [given]
      omega
    have destinationGranted : min (max 0 (general.dex destination)) (max 0 (aux.grantedDex destination)) =
        grantedDex general destination := by
      rw [given]
      omega
    have decrease : max 0 (general.dex source - (general.dex source - (loss : Int))) = loss := by omega
    have increase : max 0 (general.dex destination + (gain : Int) - general.dex destination) = gain := by omega
    rw [sourceGranted, destinationGranted, decrease, increase, spent, floors] at done
    obtain ⟨removedNonneg, removedLe, removedGiven, organicLost⟩ :=
      proportion_spec givenNonneg givenLe (Int.natCast_nonneg loss) lost
    obtain ⟨partNonneg, partLe, -, -⟩ := proportion_spec givenNonneg givenLe (Int.natCast_nonneg gain)
      (le_trans (by exact_mod_cast gained) lost)
    obtain ⟨grows, organicGrows⟩ := proportion_grows givenNonneg givenLe (Int.natCast_nonneg gain)
      (show (gain : Int) ≤ loss by exact_mod_cast gained)
    generalize proportion loss (grantedDex general source) (general.dex source) = removed at *
    generalize proportion gain (grantedDex general source) (general.dex source) = transferred at *
    have transfer : min (min (gain : Int) removed) transferred = transferred := by omega
    rw [transfer] at done
    obtain rfl := (Except.ok.inj done).symm
    refine ⟨removed, transferred, ⟨apart, rfl, fun _ => ?_, update_transfer _ apart rfl rfl, fun key => ?_,
      fun key => ?_, fun _ => ?_, ?_, ⟨removedNonneg, removedGiven⟩, ?_, ⟨partNonneg, partLe⟩, by omega⟩⟩
    · simp [grantedStat, kept]
    · have left_ : max 0 (grantedDex general source - removed) = aux.grantedDex source - removed := by
        rw [given]
        omega
      have moved : min (max 0 (general.dex destination + (gain : Int)))
          (grantedDex general destination + transferred) = aux.grantedDex destination + transferred := by
        rw [given]
        omega
      exact (update_transfer aux.grantedDex apart left_ moved key).trans (by rw [given])
    · simp only [consumedDex, Option.map_some, Option.getD_some, kept]
      rw [Function.update_apply]
      split
      · rename_i same
        subst same
        simp only [consumedDex, kept, Option.map_some, Option.getD_some] at consumedNonneg ⊢
        omega
      · rw [add_zero, spent]
    · simp [floorDex, kept]
    · simp [heading, kept]
    · unfold organicDex
      omega

theorem Converted.organic (done : Converted before after source destination loss gain removed transferred)
    (key : DexKey) :
    organicDex after key = organicDex before key +
      if key = source then removed - loss else if key = destination then gain - transferred else 0 := by
  have dex := done.dex key
  have given := done.grantedDex key
  unfold organicDex
  split_ifs at dex given ⊢ <;> omega

theorem Converted.sound (done : Converted before after source destination loss gain removed transferred)
    (sound : Sound before) : Sound after := by
  refine ⟨fun key => ?_, fun key => ?_, fun key => ?_, fun key => ?_⟩
  · rw [done.granted, done.stats]
    exact sound.stat key
  · have kept := sound.dex key
    have dex := done.dex key
    have given := done.grantedDex key
    have lost := done.organicLoss
    have removed := done.removed_le
    have transferred := done.transferred_le
    unfold organicDex at lost
    split_ifs at dex given with first second
    · subst first
      omega
    · subst second
      omega
    · omega
  · have kept := sound.consumed key
    have spent := done.consumed key
    split_ifs at spent <;> omega
  · rw [done.floor]
    exact sound.floor key

theorem Converted.total_le (done : Converted before after source destination loss gain removed transferred) :
    totalOrganicDex after ≤ totalOrganicDex before := by
  have less := done.organicGain
  have apart := done.apart
  -- One mastery loses what another gets at most a part of.
  simp only [totalOrganicDex, dexKeys, List.map_cons, List.map_nil, List.sum_cons, List.sum_nil, done.organic]
  cases source <;> cases destination <;> first | exact absurd rfl apart | (simp; omega)

/-! ### The life of a general -/

theorem toOption_map_eq_some {α β : Type} {call : Except String α} {change : α → β} {after : β}
    (done : call.toOption.map change = some after) : ∃ result, call = .ok result ∧ change result = after := by
  cases call with
  | error message => cases done
  | ok result => exact ⟨result, rfl, Option.some.inj done⟩

theorem step_sound {rules : Rules} {general : Growing} {output : Unit} (sound : Sound general)
    (stepped : (growth rules).step general event = some (next, output)) : Sound next := by
  cases event with
  | apply target environment progressMultiplier dexTargetRatio =>
    obtain ⟨result, applied, same⟩ := toOption_map_eq_some stepped
    obtain rfl := congrArg Prod.fst same
    exact (apply_sound sound applied).1
  | gainStat key amount =>
    obtain rfl := congrArg Prod.fst (Option.some.inj stepped)
    refine ⟨fun other => ?_, sound.dex, sound.consumed, sound.floor⟩
    obtain ⟨nonneg, within⟩ := sound.stat other
    refine ⟨nonneg, within.trans ?_⟩
    dsimp only
    rw [Function.update_apply]
    split
    · rename_i same
      rw [same]
      omega
    · exact le_refl _
  | gainDex key amount =>
    obtain rfl := congrArg Prod.fst (Option.some.inj stepped)
    refine ⟨sound.stat, fun other => ?_, sound.consumed, sound.floor⟩
    obtain ⟨nonneg, within⟩ := sound.dex other
    refine ⟨nonneg, within.trans ?_⟩
    dsimp only
    rw [Function.update_apply]
    split
    · rename_i same
      rw [same]
      omega
    · exact le_refl _
  | convert source destination loss gain coefficient =>
    unfold growth at stepped
    dsimp only at stepped
    split at stepped
    · rename_i enabled
      obtain ⟨converted, done, same⟩ := toOption_map_eq_some stepped
      obtain rfl : converted = next := congrArg Prod.fst same
      obtain ⟨removed, transferred, spec⟩ := convertDex_spec sound enabled.1 enabled.2 done
      exact spec.sound sound
    · cases stepped

/-! ### The same target again -/

/-- A general has only grown by itself or converted mastery since a month of growth. -/
structure Since (base reached : Growing) : Prop where
  heading : heading reached = heading base
  floor : ∀ key, floorDex reached key = floorDex base key
  stat : ∀ key, base.stats key ≤ reached.stats key
  /-- What a mastery lacks to its floor has been converted since. -/
  spent : ∀ key, max 0 (floorDex base key - reached.dex key) ≤ consumedDex reached key - consumedDex base key

theorem apply_floored (sound : Sound general)
    (applied : applyCentennialAllStarTarget general target environment rules progressMultiplier dexTargetRatio =
      .ok result) :
    ∃ floors, targetFloors target environment rules progressMultiplier dexTargetRatio (isUser general) = .ok floors ∧
      (∀ key, statFloor rules target floors.progress floors.user key ≤ result.general.stats key) ∧
      ∀ key, floorDex result.general key = max 0 (floors.dex key - consumedDex result.general key) ∧
        floorDex result.general key ≤ result.general.dex key := by
  obtain ⟨floors, known, rfl⟩ := apply_spec sound applied
  obtain ⟨stat, dex, -, -⟩ := openAux_spec sound target rules
  refine ⟨floors, known, fun key => ?_, fun key => ⟨rfl, ?_⟩⟩
  · unfold applyFloors
    rw [stat]
    exact (settle_spec _ _ (sound.stat key).1 (sound.stat key).2).2.2.1
  · unfold applyFloors
    rw [dex]
    exact (settle_spec _ _ (sound.dex key).1 (sound.dex key).2).2.2.1

theorem since_apply (sound : Sound general)
    (applied : applyCentennialAllStarTarget general target environment rules progressMultiplier dexTargetRatio =
      .ok result) : Since result.general result.general := by
  obtain ⟨_, _, _, floored⟩ := apply_floored sound applied
  refine ⟨rfl, fun _ => rfl, fun _ => le_refl _, fun key => ?_⟩
  rw [sub_self]
  exact max_le (le_refl 0) (sub_nonpos.mpr (floored key).2)

theorem heading_apply (sound : Sound general)
    (applied : applyCentennialAllStarTarget general target environment rules progressMultiplier dexTargetRatio =
      .ok result) : heading result.general = some (target.uniqueName, dexTargetRatio, isUser general) := by
  obtain ⟨floors, -, rfl⟩ := apply_spec sound applied
  rw [← (openAux_spec sound target rules).2.2.2]
  simp only [heading, applyFloors, Option.map_some]
  split_ifs with changed
  · rw [changed.2]
    rfl
  · rfl

/-- An event is no month of growth. -/
def GrowthEvent.KeepsTarget : GrowthEvent → Prop
  | .apply .. => False
  | _ => True

theorem step_since {output : Unit} (sound : Sound reached) (since : Since base reached)
    (keeps : event.KeepsTarget) (stepped : (growth rules).step reached event = some (next, output)) :
    Since base next := by
  cases event with
  | apply => exact keeps.elim
  | gainStat key amount =>
    obtain rfl := congrArg Prod.fst (Option.some.inj stepped)
    refine ⟨since.heading, since.floor, fun other => (since.stat other).trans ?_, since.spent⟩
    dsimp only
    rw [Function.update_apply]
    split
    · rename_i same
      rw [same]
      omega
    · exact le_refl _
  | gainDex key amount =>
    obtain rfl := congrArg Prod.fst (Option.some.inj stepped)
    refine ⟨since.heading, since.floor, since.stat, fun other => le_trans ?_ (since.spent other)⟩
    dsimp only
    rw [Function.update_apply]
    split
    · rename_i same
      rw [same]
      omega
    · exact le_refl _
  | convert source destination loss gain coefficient =>
    unfold growth at stepped
    dsimp only at stepped
    split at stepped
    · rename_i enabled
      obtain ⟨converted, done, same⟩ := toOption_map_eq_some stepped
      obtain rfl : converted = next := congrArg Prod.fst same
      obtain ⟨removed, transferred, spec⟩ := convertDex_spec sound enabled.1 enabled.2 done
      refine ⟨spec.heading.trans since.heading, fun key => (spec.floor key).trans (since.floor key), fun key => ?_,
        fun key => ?_⟩
      · rw [spec.stats]
        exact since.stat key
      · -- Only the source falls, and what it then lacks more is written down.
        have spent := since.spent key
        have dex := spec.dex key
        have consumed := spec.consumed key
        have floor := since.floor source
        have gained : (0 : Int) ≤ gain := Int.natCast_nonneg gain
        split_ifs at dex consumed with first second
        · subst first
          omega
        · omega
        · omega
    · cases stepped

theorem apply_again (sound : Sound general) (soundReached : Sound reached)
    (applied : applyCentennialAllStarTarget general target environment rules progressMultiplier dexTargetRatio =
      .ok result) (since : Since result.general reached) :
    ∃ again, applyCentennialAllStarTarget reached target environment rules progressMultiplier dexTargetRatio =
        .ok again ∧ again.general.stats = reached.stats ∧ again.general.dex = reached.dex := by
  obtain ⟨floors, known, statFloored, dexFloored⟩ := apply_floored sound applied
  obtain ⟨statR, dexR, consumedR, -⟩ := openAux_spec soundReached target rules
  -- The ledger is about the same target and ratio, and the general is still a player's or not.
  have titled : heading reached = some (target.uniqueName, dexTargetRatio, isUser general) :=
    since.heading.trans (heading_apply sound applied)
  obtain ⟨aux, kept, same⟩ := Option.map_eq_some_iff.mp titled
  obtain ⟨targetId, rest⟩ := Prod.mk.inj same
  obtain ⟨ratio, player⟩ := Prod.mk.inj rest
  have userR : isUser reached = isUser general := by
    rw [isUser, kept]
    exact player
  have opened : openAux reached target rules = aux := by
    rw [openAux, readCentennialAllStarAux_sound soundReached (some target) aux kept, Option.getD_some]
  have sameTarget : decide ((openAux reached target rules).targetId ≠ target.uniqueName) = false := by
    simp [opened, targetId]
  have sameRatio : decide ((openAux reached target rules).dexTargetRatio ≠ dexTargetRatio) = false := by
    simp [opened, ratio]
  rw [apply_eq soundReached, userR, known]
  refine ⟨_, rfl, funext fun key => ?_, funext fun key => ?_⟩
  · unfold applyFloors
    rw [sameTarget, statR]
    exact settle_kept (grantedStat reached key) ((statFloored key).trans (since.stat key))
  · unfold applyFloors
    rw [sameTarget, sameRatio, dexR]
    refine settle_kept (grantedDex reached key) ?_
    -- What the floor has come down by is at least what the mastery lacks.
    have lacking := since.spent key
    have nonneg := (soundReached.dex key).1.trans (soundReached.dex key).2
    obtain ⟨floor, -⟩ := dexFloored key
    rw [consumedR]
    show max 0 (floors.dex key - consumedDex reached key) ≤ reached.dex key
    omega

/-! ### The laws of the ledger -/

/--
A general whose ledger has just been started.

A player's general has at least the abilities that the ledger says it starts with.
-/
def Begun (start : Growing) : Prop :=
  (∀ key, 0 ≤ start.stats key) ∧ (∀ key, 0 ≤ start.dex key) ∧
    ∃ target rules userInitialStats,
      start.aux = some (initialCentennialAllStarAux target rules userInitialStats) ∧
        ∀ initial ∈ userInitialStats, ∀ key, initial key ≤ start.stats key

theorem begun_sound (begun : Begun start) : Sound start := by
  obtain ⟨stats, dex, target, rules, userInitialStats, kept, initial⟩ := begun
  refine ⟨fun key => ?_, fun key => ?_, fun key => ?_, fun key => ?_⟩
  · have nonneg := stats key
    simp only [grantedStat, kept, Option.map_some, Option.getD_some, initialCentennialAllStarAux]
    cases userInitialStats with
    | none => exact ⟨le_refl 0, nonneg⟩
    | some values =>
      have least := initial values rfl key
      dsimp only
      omega
  · simpa [grantedDex, kept, initialCentennialAllStarAux] using dex key
  · simp [consumedDex, kept, initialCentennialAllStarAux]
  · simp [floorDex, kept, initialCentennialAllStarAux]

theorem run_sound {rules : Rules} {admits : Growing → GrowthEvent → Prop} (sound : Sound start)
    (run : (growth rules).RunWhile admits start trace final) : Sound final :=
  run.stateInvariant sound fun _ _ _ _ held _ stepped => step_sound held stepped

theorem run_since {rules : Rules} (sound : Sound base) (since : Since base base)
    (run : (growth rules).RunWhile (fun _ event => event.KeepsTarget) base trace final) : Since base final := by
  -- The ledger has to be sound all along.
  let Both (reached : Growing) : Prop := Sound reached ∧ Since base reached
  have both : Both final := run.stateInvariant ⟨sound, since⟩ fun _ _ _ _ (held : Both _) keeps stepped =>
    ⟨step_sound held.1 stepped, step_since held.1 held.2 keeps stepped⟩
  exact both.2

/--
The ledger of a general that has started to grow tells what the event has given.

A month of growth leaves alone what the general has by itself, and a new target replaces what the old one gave.
The same target again changes nothing, at once or after conversions and growth of another kind.
A conversion does not increase what the general has of all mastery by itself.
-/
theorem growth_ledger {rules : Rules} {start final : Growing} {trace : List (GrowthEvent × Unit)}
    (begun : Begun start) (run : (growth rules).Run start trace final) :
    (∀ key, 0 ≤ grantedStat final key ∧ grantedStat final key ≤ final.stats key) ∧
    (∀ key, 0 ≤ grantedDex final key ∧ grantedDex final key ≤ final.dex key) ∧
    (∀ target environment progressMultiplier dexTargetRatio result,
      applyCentennialAllStarTarget final target environment rules progressMultiplier dexTargetRatio = .ok result →
      (∀ key, organicStat result.general key = organicStat final key) ∧
      (∀ key, organicDex result.general key = organicDex final key) ∧
      (result.targetChanged = true → ∃ floors,
        targetFloors target environment rules progressMultiplier dexTargetRatio (isUser final) = .ok floors ∧
        (∀ key, result.general.stats key =
          max (organicStat final key) (statFloor rules target floors.progress floors.user key)) ∧
        ∀ key, result.general.dex key = max (organicDex final key) (max 0 (floors.dex key))) ∧
      (∃ again, applyCentennialAllStarTarget result.general target environment rules progressMultiplier
          dexTargetRatio = .ok again ∧
        again.general.stats = result.general.stats ∧ again.general.dex = result.general.dex) ∧
      ∀ between reached,
        (growth rules).RunWhile (fun _ event => event.KeepsTarget) result.general between reached → ∃ again,
          applyCentennialAllStarTarget reached target environment rules progressMultiplier dexTargetRatio =
            .ok again ∧
          again.general.stats = reached.stats ∧ again.general.dex = reached.dex) ∧
    ∀ source destination (loss gain : ℕ) coefficient converted, gain ≤ loss → (loss : Int) ≤ final.dex source →
      convertDex final source destination loss gain coefficient = .ok converted →
      totalOrganicDex converted ≤ totalOrganicDex final := by
  have sound := run_sound (begun_sound begun) run
  refine ⟨sound.stat, sound.dex, fun target environment progressMultiplier dexTargetRatio result applied => ?_,
    fun source destination loss gain coefficient converted gained lost done => ?_⟩
  · obtain ⟨soundResult, organicStats, organicDexs⟩ := apply_sound sound applied
    have since := since_apply sound applied
    exact ⟨organicStats, organicDexs, apply_replaces sound applied, apply_again sound soundResult applied since,
      fun between reached later =>
        apply_again sound (run_sound soundResult later) applied (run_since soundResult since later)⟩
  · obtain ⟨removed, transferred, spec⟩ := convertDex_spec sound gained lost done
    exact spec.total_le

/-- The rules of a scenario without a default speciality. -/
def scenarioRules : Rules := ⟨10, 80, 165, 255, none, none⟩

/-- A figure with a speciality of its own, or without one. -/
def figure (uniqueName : String) (specialDomestic : Option String) : Target where
  uniqueName := uniqueName
  stat _ := 100
  dex _ := 100000
  specialDomestic := specialDomestic

/-- The first month of a year of a scenario. -/
def newYear (year : Int) : Environment := ⟨180, year, 1⟩

/-- A general that has just started to follow the first figure. -/
def recruit (specialDomestic : Option String) : Growing where
  stats _ := 50
  specialDomestic := specialDomestic
  dex _ := 1000
  aux := some (initialCentennialAllStarAux (figure "A1" (some "che_event")) scenarioRules none)

/-- The ledger of a general that has grown for some years and converted mastery in between. -/
theorem growth_ledger_sample : ∃ final trace, (growth scenarioRules).Run (recruit none) trace final ∧
    ∀ key, 0 ≤ grantedDex final key ∧ grantedDex final key ≤ final.dex key := by
  have replays : ((growth scenarioRules).replay (recruit none)
      [.apply (figure "A1" (some "che_event")) (newYear 188) 1 1, .gainDex .dex1 70,
        .convert .dex1 .dex2 400 360 (9 / 10), .apply (figure "A2" none) (newYear 189) 1 1]).isSome := by
    decide +kernel
  obtain ⟨⟨final, trace⟩, replayed⟩ := Option.isSome_iff_exists.mp replays
  have run := StateMachine.run_of_replay replayed
  have begun : Begun (recruit none) :=
    ⟨fun _ => (by decide : (0 : Int) ≤ 50), fun _ => (by decide : (0 : Int) ≤ 1000), _, _, none, rfl, by simp⟩
  exact ⟨final, trace, run, (growth_ledger begun run).2.1⟩

end Sammo.CentennialAllStar
