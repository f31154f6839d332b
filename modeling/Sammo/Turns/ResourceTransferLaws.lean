import Mathlib.Algebra.Group.Pi.Basic
import Sammo.Turns.ResourceTransfers

/-! Passing gold and rice on never makes or loses any, and leaves nobody in debt. -/

namespace Sammo.Transfers

variable {env : TransferEnv} {world middle after : World} {turn : Turn} {generalId : Int} {general : General}

@[simp]
theorem resource_applyGeneralPatch (general : General) (key asked : ResourceKey) (value : Int)
    (experience dedication leadershipExp : Option ℚ) :
    (applyGeneralPatch general (.ofResource key value experience dedication leadershipExp)).resource asked =
      if asked = key then value else general.resource asked := by
  cases key <;> cases asked <;> rfl

@[simp]
theorem resource_applyNationPatch (nation : Nation) (key asked : ResourceKey) (value : Int) :
    (applyNationPatch nation (.ofResource key value)).resource asked =
      if asked = key then value else nation.resource asked := by
  cases key <;> cases asked <;> rfl

/-- What all generals and nations have together. -/
def World.total (world : World) : ResourceKey → Int :=
  world.generals.total General.resource + world.nations.total Nation.resource

/-- Nobody is in debt. -/
def World.Funded (world : World) : Prop :=
  (∀ id general, world.generals.get? id = some general → ∀ key, 0 ≤ general.resource key) ∧
    ∀ id nation, world.nations.get? id = some nation → ∀ key, 0 ≤ nation.resource key

/-- What is to be kept is no debt. -/
def TransferEnv.Fair (env : TransferEnv) : Prop := ∀ key, 0 ≤ env.generalMinimum key ∧ 0 ≤ env.base key

/-- Resources have only been passed on; if nobody was in debt, nobody is, and no nation has gone below its base. -/
structure Passed (env : TransferEnv) (before after : World) : Prop where
  total : after.total = before.total
  generals : env.Fair → before.Funded →
    before.generals.Kept (fun _ later => ∀ key, 0 ≤ later.resource key) after.generals
  nations : env.Fair → before.Funded → before.nations.Kept
    (fun nation later => ∀ key, min (env.base key) (nation.resource key) ≤ later.resource key) after.nations

theorem World.Funded.generals (funded : world.Funded) :
    world.generals.Kept (fun _ later => ∀ key, 0 ≤ later.resource key) world.generals := .refl funded.1

theorem nations_kept (env : TransferEnv) (world : World) : world.nations.Kept
    (fun nation later => ∀ key, min (env.base key) (nation.resource key) ≤ later.resource key) world.nations :=
  .refl fun _ _ _ _ => min_le_right _ _

namespace Passed

theorem refl (world : World) : Passed env world world :=
  ⟨rfl, fun _ funded => funded.generals, fun _ _ => nations_kept env world⟩

theorem funded (passed : Passed env world after) (fair : env.Fair) (funded : world.Funded) : after.Funded := by
  refine ⟨fun id general found => ?_, fun id nation found key => ?_⟩
  · obtain ⟨-, -, rich⟩ := (passed.generals fair funded).of_some found
    exact rich
  · obtain ⟨before, had, above⟩ := (passed.nations fair funded).of_some found
    exact le_trans (le_min (fair key).2 (funded.2 id before had key)) (above key)

theorem trans (first : Passed env world middle) (second : Passed env middle after) : Passed env world after where
  total := second.total.trans first.total
  generals fair funded :=
    (first.generals fair funded).trans (second.generals fair (first.funded fair funded)) fun _ rich => rich
  nations fair funded :=
    (first.nations fair funded).trans (second.nations fair (first.funded fair funded)) fun above aboveThat key =>
      le_trans (le_min (min_le_left _ _) (above key)) (aboveThat key)

end Passed

section Moves

variable {first second : Int}

/-- Between two generals. -/
theorem passed_generals {giver taker giver' taker' : General} (apart : second ≠ first)
    (gives : world.generals.get? first = some giver) (takes : world.generals.get? second = some taker)
    (even : ∀ key, giver'.resource key + taker'.resource key = giver.resource key + taker.resource key)
    (solvent : env.Fair → ∀ key, 0 ≤ giver.resource key → 0 ≤ taker.resource key →
      0 ≤ giver'.resource key ∧ 0 ≤ taker'.resource key) :
    Passed env world ⟨(world.generals.set first giver').set second taker', world.nations⟩ where
  total := by
    have still : (world.generals.set first giver').get? second = some taker := by
      rw [OrderedMap.get?_set, if_neg apart, takes]
    funext key
    simp only [World.total, OrderedMap.total_set_eq _ still, OrderedMap.total_set_eq _ gives, Pi.add_apply,
      Pi.sub_apply]
    have := even key
    omega
  generals fair funded :=
    have safe key := solvent fair key (funded.1 first giver gives key) (funded.1 second taker takes key)
    (funded.generals.set gives fun key => (safe key).1).set takes fun key => (safe key).2
  nations _ _ := nations_kept env world

/-- Between a general and a nation. -/
theorem passed_general_nation {general general' : General} {nation nation' : Nation}
    (has : world.generals.get? first = some general) (found : world.nations.get? second = some nation)
    (even : ∀ key, general'.resource key + nation'.resource key = general.resource key + nation.resource key)
    (solvent : env.Fair → ∀ key, 0 ≤ general.resource key → 0 ≤ nation.resource key →
      0 ≤ general'.resource key ∧ min (env.base key) (nation.resource key) ≤ nation'.resource key) :
    Passed env world ⟨world.generals.set first general', world.nations.set second nation'⟩ where
  total := by
    funext key
    simp only [World.total, OrderedMap.total_set_eq _ has, OrderedMap.total_set_eq _ found, Pi.add_apply,
      Pi.sub_apply]
    have := even key
    omega
  generals fair funded := funded.generals.set has fun key =>
    (solvent fair key (funded.1 first general has key) (funded.2 second nation found key)).1
  nations fair funded := (nations_kept env world).set found fun key =>
    (solvent fair key (funded.1 first general has key) (funded.2 second nation found key)).2

/-- Between two nations, by a general who only gains experience. -/
theorem passed_nations {general general' : General} {giver taker giver' taker' : Nation} (apart : second ≠ first)
    (has : world.generals.get? generalId = some general) (same : general'.resource = general.resource)
    (gives : world.nations.get? first = some giver) (takes : world.nations.get? second = some taker)
    (even : ∀ key, giver'.resource key + taker'.resource key = giver.resource key + taker.resource key)
    (solvent : env.Fair → ∀ key, min (env.base key) (giver.resource key) ≤ giver'.resource key ∧
      taker.resource key ≤ taker'.resource key) :
    Passed env world
      ⟨world.generals.set generalId general', (world.nations.set first giver').set second taker'⟩ where
  total := by
    have still : (world.nations.set first giver').get? second = some taker := by
      rw [OrderedMap.get?_set, if_neg apart, takes]
    funext key
    simp only [World.total, OrderedMap.total_set_eq _ has, OrderedMap.total_set_eq _ still,
      OrderedMap.total_set_eq _ gives, Pi.add_apply, Pi.sub_apply, same]
    have := even key
    omega
  generals _ funded := funded.generals.set has fun key => same ▸ funded.1 generalId general has key
  nations fair _ := ((nations_kept env world).set gives fun key => (solvent fair key).1).set takes fun key =>
    le_trans (min_le_right _ _) (solvent fair key).2

end Moves

/-- What a command does to a world in which everything is stored at once. -/
def World.accept (world : World) (generalId : Int) (resolution : GeneralActionResolution) : World :=
  ⟨(world.generals.set generalId resolution.general).patchAll applyGeneralPatch resolution.generalPatches,
    (world.nations.setRow resolution.nation).patchAll applyNationPatch resolution.nationPatches⟩

/-- What a command reads agrees with a world. -/
structure ActionContext.Reads (world : World) (command : Command) (ctx : ActionContext) : Prop where
  general : world.generals.get? ctx.generalId = some ctx.general
  nation : ∀ row ∈ ctx.nation, world.nations.get? row.1 = some row.2
  destGeneral : ctx.destGeneral = command.destGeneralId.bind world.generals.get?
  destNation : ctx.destNation = command.destNationId.bind world.nations.get?

variable {ctx : ActionContext} {command : Command} {resolution : GeneralActionResolution}

theorem even_of_passed {amount : Int} (key asked : ResourceKey) (from_ to_ : ResourceKey → Int) :
    ((if asked = key then from_ key - amount else from_ asked) + if asked = key then to_ key + amount else to_ asked) =
      from_ asked + to_ asked := by
  split
  · rename_i same
    subst same
    omega
  · rfl

theorem passed_of_resolve (reads : ctx.Reads world command) (fits : buildConstraints env ctx command)
    (resolved : resolveGeneralAction env ctx command = .ok resolution) :
    Passed env world (world.accept ctx.generalId resolution) := by
  obtain ⟨generalId, general, nation, destGeneral, destNation⟩ := ctx
  obtain ⟨has, own, readGeneral, readNation⟩ := reads
  simp only [Command.destGeneralId, Command.destNationId] at has own readGeneral readNation
  have nationStays : world.nations.setRow nation = world.nations := OrderedMap.setRow_same own
  -- Each command takes an amount from one row and adds it to another one.
  cases command with
  | gift isGold amount destGeneralId =>
    simp only [buildConstraints, decide_eq_true_eq, Option.mem_def] at fits
    obtain ⟨apart, -, ⟨dest, rfl, -⟩, -⟩ := fits
    have there : world.generals.get? destGeneralId = some dest := readGeneral.symm
    simp only [resolveGeneralAction, resolve, bind, Except.bind, List.foldl_cons, List.foldl_nil, applyEffect,
      ne_eq, not_true_eq_false, if_false, if_pos (Ne.symm apart), Except.ok.injEq] at resolved
    subst resolved
    simp only [World.accept, nationStays, List.nil_append]
    rw [OrderedMap.patchAll_single _ (Ne.symm apart) there]
    refine passed_generals (Ne.symm apart) has there (fun asked => ?_) fun fair asked rich poor => ?_
    · simp only [resource_applyGeneralPatch]
      exact even_of_passed ..
    · simp only [resource_applyGeneralPatch]
      -- What is given lies above the amount to be kept, which is not negative.
      have := (fair (resKeyOf isGold)).1
      split
      · rename_i same
        subst same
        omega
      · exact ⟨rich, poor⟩
  | donate isGold amount =>
    cases nation with
    | none => cases resolved
    | some row =>
      obtain ⟨nationId, nation⟩ := row
      have found : world.nations.get? nationId = some nation := own _ rfl
      simp only [resolveGeneralAction, resolve, bind, Except.bind, List.foldl_cons, List.foldl_nil, applyEffect,
        ne_eq, not_true_eq_false, if_false, Except.ok.injEq] at resolved
      subst resolved
      refine passed_general_nation has found (fun asked => ?_) fun fair asked rich poor => ?_
      · simp only [resource_applyGeneralPatch, resource_applyNationPatch]
        exact even_of_passed ..
      · simp only [resource_applyGeneralPatch, resource_applyNationPatch]
        split
        · rename_i same
          subst same
          omega
        · exact ⟨rich, min_le_right _ _⟩
  | materialAid destNationId goldAmount riceAmount =>
    simp only [buildConstraints, decide_eq_true_eq, Option.mem_def] at fits
    obtain ⟨-, ⟨nationId, nation⟩, rfl, dest, rfl, apart, -⟩ := fits
    have found : world.nations.get? nationId = some nation := own _ rfl
    have there : world.nations.get? destNationId = some dest := readNation.symm
    simp only [resolveGeneralAction, resolve, bind, Except.bind, List.foldl_cons, List.foldl_nil, applyEffect,
      ne_eq, not_true_eq_false, if_false, if_pos apart, Except.ok.injEq] at resolved
    subst resolved
    -- The nations differ, so the patch of the other one is stored beside the draft of the own one.
    have patched (given : Nation) (patch : NationPatch) :
        (world.nations.setRow (some (nationId, given))).patchAll applyNationPatch [(destNationId, patch)] =
          (world.nations.set nationId given).set destNationId (applyNationPatch dest patch) :=
      OrderedMap.patchAll_single _ apart there patch
    simp only [World.accept, List.nil_append]
    rw [patched]
    refine passed_nations apart has rfl found there (fun asked => ?_) fun fair asked => ?_
    · cases asked <;> simp only [Nation.resource, applyNationPatch, Option.getD_some] <;> omega
    · cases asked <;>
        simp only [Nation.resource, applyNationPatch, Option.getD_some, TransferEnv.base, clamp] <;> omega
  | award isGold amount destGeneralId =>
    simp only [buildConstraints, decide_eq_true_eq, Option.mem_def] at fits
    obtain ⟨apart, -, -, ⟨dest, rfl, -⟩, ⟨nationId, nation⟩, rfl, -⟩ := fits
    have found : world.nations.get? nationId = some nation := own _ rfl
    have there : world.generals.get? destGeneralId = some dest := readGeneral.symm
    have generalStays : world.generals.set generalId general = world.generals := OrderedMap.set_same has
    simp only [resolveGeneralAction, resolve] at resolved
    split at resolved
    -- With nothing above its base the nation gives nothing.
    · simp only [bind, Except.bind, List.foldl_nil, Except.ok.injEq] at resolved
      subst resolved
      simp only [World.accept]
      rw [nationStays, generalStays]
      exact .refl _
    · simp only [bind, Except.bind, List.foldl_cons, List.foldl_nil, applyEffect,
        ne_eq, not_true_eq_false, if_false, if_pos apart, Except.ok.injEq] at resolved
      subst resolved
      simp only [World.accept, List.nil_append]
      rw [OrderedMap.patchAll_single _ apart there, generalStays]
      refine passed_general_nation there found (fun asked => ?_) fun fair asked rich poor => ?_
      · simp only [resource_applyGeneralPatch, resource_applyNationPatch]
        split
        · rename_i same
          subst same
          omega
        · rfl
      · simp only [resource_applyGeneralPatch, resource_applyNationPatch, clamp] at *
        split
        · rename_i same
          subst same
          omega
        · exact ⟨rich, min_le_right _ _⟩
  | seizure isGold amount destGeneralId =>
    simp only [buildConstraints, decide_eq_true_eq, Option.mem_def] at fits
    obtain ⟨-, -, ⟨dest, rfl, -⟩, apart⟩ := fits
    have there : world.generals.get? destGeneralId = some dest := readGeneral.symm
    have generalStays : world.generals.set generalId general = world.generals := OrderedMap.set_same has
    cases nation with
    | none =>
      simp only [resolveGeneralAction, resolve, bind, Except.bind, List.foldl_nil, Except.ok.injEq] at resolved
      subst resolved
      simp only [World.accept]
      rw [nationStays, generalStays]
      exact .refl _
    | some row =>
      obtain ⟨nationId, nation⟩ := row
      have found : world.nations.get? nationId = some nation := own _ rfl
      simp only [resolveGeneralAction, resolve, bind, Except.bind, List.foldl_cons, List.foldl_nil, applyEffect,
        ne_eq, not_true_eq_false, if_false, if_pos (Ne.symm apart), Except.ok.injEq] at resolved
      subst resolved
      simp only [World.accept, List.nil_append]
      rw [OrderedMap.patchAll_single _ (Ne.symm apart) there, generalStays]
      refine passed_general_nation there found (fun asked => ?_) fun fair asked rich poor => ?_
      · simp only [resource_applyGeneralPatch, resource_applyNationPatch]
        exact even_of_passed ..
      · simp only [resource_applyGeneralPatch, resource_applyNationPatch, clamp]
        split
        · rename_i same
          subst same
          omega
        · exact ⟨rich, min_le_right _ _⟩

/-- Patches are only about others than the acting general and its nation. -/
structure GeneralActionResolution.Apart (ctx : ActionContext) (resolution : GeneralActionResolution) : Prop where
  generals : ∀ entry ∈ resolution.generalPatches, entry.1 ≠ ctx.generalId
  nation : resolution.nation.map Prod.fst = ctx.nation.map Prod.fst
  nations : ∀ entry ∈ resolution.nationPatches, ∀ row ∈ resolution.nation, entry.1 ≠ row.1

theorem GeneralActionResolution.Apart.applyEffect (apart : resolution.Apart ctx) (effect : GeneralActionEffect) :
    (Transfers.applyEffect ctx resolution effect).Apart ctx := by
  obtain ⟨general, nation, generalPatches, nationPatches⟩ := resolution
  obtain ⟨others, same, otherNations⟩ := apart
  cases effect with
  | generalPatch patch targetId =>
    -- A patch of the acting general goes into its draft, and any other one is kept for later.
    by_cases own : targetId = ctx.generalId
    · have drafted : Transfers.applyEffect ctx ⟨general, nation, generalPatches, nationPatches⟩
          (.generalPatch patch targetId) = ⟨applyGeneralPatch general patch, nation, generalPatches, nationPatches⟩ :=
        if_neg (not_not_intro own)
      exact drafted ▸ ⟨others, same, otherNations⟩
    · have patched : Transfers.applyEffect ctx ⟨general, nation, generalPatches, nationPatches⟩
          (.generalPatch patch targetId) = ⟨general, nation, generalPatches ++ [(targetId, patch)], nationPatches⟩ :=
        if_pos own
      rw [patched]
      refine ⟨fun entry member => ?_, same, otherNations⟩
      obtain before | last := List.mem_append.mp member
      · exact others entry before
      · exact List.mem_singleton.mp last ▸ own
  | nationPatch patch targetId =>
    cases nation with
    | none => exact ⟨others, same, fun entry member row held => by cases held⟩
    | some row =>
      obtain ⟨nationId, nation⟩ := row
      by_cases own : targetId = nationId
      · have drafted : Transfers.applyEffect ctx ⟨general, some (nationId, nation), generalPatches, nationPatches⟩
            (.nationPatch patch targetId) =
              ⟨general, some (nationId, applyNationPatch nation patch), generalPatches, nationPatches⟩ :=
          if_neg (not_not_intro own)
        rw [drafted]
        refine ⟨others, same, ?_⟩
        rintro entry member row ⟨⟩
        exact otherNations entry member (nationId, nation) rfl
      · have patched : Transfers.applyEffect ctx ⟨general, some (nationId, nation), generalPatches, nationPatches⟩
            (.nationPatch patch targetId) =
              ⟨general, some (nationId, nation), generalPatches, nationPatches ++ [(targetId, patch)]⟩ :=
          if_pos own
        rw [patched]
        refine ⟨others, same, ?_⟩
        rintro entry member row ⟨⟩
        obtain before | last := List.mem_append.mp member
        · exact otherNations entry before _ rfl
        · exact List.mem_singleton.mp last ▸ own

theorem GeneralActionResolution.Apart.applyEffects (apart : resolution.Apart ctx)
    (effects : List GeneralActionEffect) :
    (effects.foldl (Transfers.applyEffect ctx) resolution).Apart ctx := by
  induction effects generalizing resolution with
  | nil => exact apart
  | cons first rest ih => exact ih (apart.applyEffect first)

theorem apart_of_resolve (resolved : resolveGeneralAction env ctx command = .ok resolution) :
    resolution.Apart ctx := by
  unfold resolveGeneralAction at resolved
  cases ran : resolve env ctx command with
  | error message => simp [ran, bind, Except.bind] at resolved
  | ok outcome =>
    obtain ⟨general, effects⟩ := outcome
    simp only [ran, bind, Except.bind, Except.ok.injEq] at resolved
    subst resolved
    have start : (GeneralActionResolution.mk general ctx.nation [] []).Apart ctx :=
      ⟨fun _ member => (List.not_mem_nil member).elim, rfl, fun _ member => (List.not_mem_nil member).elim⟩
    exact start.applyEffects effects

/-- What a turn holds itself is what will be stored, and what it shows is what will be stored. -/
structure Turn.Sound (turn : Turn) : Prop where
  generals : turn.generals.Sound applyGeneralPatch
  nations : turn.nations.Sound applyNationPatch
  acting : turn.generals.own = some (turn.generalId, turn.general)
  actingNation : turn.nations.own = turn.nation

namespace Turn.Sound

theorem start (started : startTurn world generalId = some turn) : turn.Sound ∧ turn.finish = world := by
  obtain ⟨general, found, rfl⟩ := Option.map_eq_some_iff.mp started
  have stored : ∀ row ∈ some (generalId, general), world.generals.get? row.1 = some row.2 := by
    rintro row ⟨⟩
    exact found
  have nationStored : ∀ row ∈ (if 0 < general.nationId then
      (world.nations.get? general.nationId).map fun nation => (general.nationId, nation) else none),
      world.nations.get? row.1 = some row.2 := by
    intro row held
    split at held
    · obtain ⟨nation, there, rfl⟩ := Option.map_eq_some_iff.mp held
      exact there
    · cases held
  refine ⟨⟨.start stored, .start nationStored, rfl, rfl⟩, ?_⟩
  unfold finish
  dsimp only
  rw [Overlay.settle_start stored, Overlay.settle_start nationStored]

theorem reads (sound : turn.Sound) (command : Command) : (turn.actionContext command).Reads turn.finish command where
  general := sound.generals.stored sound.acting
  nation row held := sound.nations.stored (sound.actingNation.trans held)
  destGeneral := by
    unfold actionContext finish
    dsimp only
    congr 1
    exact funext fun id => (sound.generals.seen id).symm
  destNation := by
    unfold actionContext finish
    dsimp only
    congr 1
    exact funext fun id => (sound.nations.seen id).symm

theorem accept (sound : turn.Sound) (apart : resolution.Apart (turn.actionContext command)) :
    (turn.accept resolution).Sound ∧
      (turn.accept resolution).finish = turn.finish.accept turn.generalId resolution := by
  obtain ⟨generals, nations, acting, actingNation⟩ := sound
  obtain ⟨others, same, otherNations⟩ := apart
  have heldGeneral := generals.hold acting resolution.general
  -- The nation is the one that the turn has held so far, if there is one.
  have heldNation : ∃ shown : Overlay Int Nation NationPatch,
      (turn.accept resolution).nations = resolution.nationPatches.foldl
        (fun overlay entry => overlay.patch applyNationPatch entry.1 entry.2) shown ∧
      shown.Sound applyNationPatch ∧ shown.own = resolution.nation ∧
      shown.settle applyNationPatch = (turn.nations.settle applyNationPatch).setRow resolution.nation := by
    cases held : resolution.nation with
    | none =>
      have none_ : turn.nation = none := by simpa [held, Turn.actionContext] using same
      exact ⟨turn.nations, by simp only [Turn.accept, held], nations, actingNation.trans none_, rfl⟩
    | some row =>
      obtain ⟨nationId, nation⟩ := row
      obtain ⟨before, had⟩ : ∃ before, turn.nation = some (nationId, before) := by
        cases had : turn.nation with
        | none => simp [held, had, Turn.actionContext] at same
        | some before =>
          have key : nationId = before.1 := by simpa [held, had, Turn.actionContext] using same
          exact ⟨before.2, by rw [key]⟩
      have own := actingNation.trans had
      exact ⟨turn.nations.hold nationId nation, by simp only [Turn.accept, held], nations.hold own nation, rfl,
        Overlay.settle_hold nations own nation⟩
  obtain ⟨shown, nationsAfter, shownSound, shownOwn, settled⟩ := heldNation
  refine ⟨⟨?_, ?_, ?_, ?_⟩, ?_⟩
  · exact heldGeneral.patches fun entry member row held => by
      cases held
      exact others entry member
  · rw [nationsAfter]
    exact shownSound.patches fun entry member row held => otherNations entry member row (shownOwn ▸ held)
  · exact Overlay.own_patches ..
  · rw [nationsAfter, Overlay.own_patches, shownOwn]
    rfl
  · unfold finish World.accept
    rw [nationsAfter, Overlay.settle_patches, settled]
    congr 1
    exact (Overlay.settle_patches ..).trans (by rw [Overlay.settle_hold generals acting])

end Turn.Sound

theorem passed_runCommand (sound : turn.Sound) {fits : Bool} {next : Turn}
    (ran : turn.runCommand env fits command = .ok next) : next.Sound ∧ Passed env turn.finish next.finish := by
  simp only [Turn.runCommand] at ran
  split at ran
  · rename_i allowed
    cases resolved : resolveGeneralAction env (turn.actionContext command) command with
    | error message => simp [resolved, Except.map] at ran
    | ok resolution =>
      simp only [resolved, Except.map, Except.ok.injEq] at ran
      subst ran
      obtain ⟨still, same⟩ := sound.accept (apart_of_resolve resolved)
      exact ⟨still, same ▸ passed_of_resolve (sound.reads command) allowed.2 resolved⟩
  · cases ran
    exact ⟨sound, .refl _⟩

theorem passed_runCommands {commands : List (Bool × RawCommand)} (sound : turn.Sound) {ended : Turn}
    (ran : turn.runCommands env commands = .ok ended) : Passed env turn.finish ended.finish := by
  induction commands generalizing turn with
  | nil =>
    cases ran
    exact .refl _
  | cons first rest ih =>
    obtain ⟨fits, raw⟩ := first
    simp only [Turn.runCommands] at ran
    split at ran
    · exact ih sound ran
    · rename_i command parsed
      cases stepped : turn.runCommand env fits command with
      | error message => simp [stepped, bind, Except.bind] at ran
      | ok next =>
        simp only [stepped, bind, Except.bind] at ran
        obtain ⟨still, passed⟩ := passed_runCommand sound stepped
        exact passed.trans (ih still ran)

theorem passed_playTurn (world : World) (generalId : Int) (commands : List (Bool × RawCommand)) :
    Passed env world (playTurn env world generalId commands) := by
  unfold playTurn
  split
  · exact .refl _
  · rename_i turn started
    obtain ⟨sound, same⟩ := Turn.Sound.start started
    split
    · rename_i ended ran
      exact same ▸ passed_runCommands sound ran
    · exact .refl _

/-- A scenario with a base for nations. -/
def plainEnv : TransferEnv :=
  { generalMinimumGold := none, generalMinimumRice := none, baseGold := 0, baseRice := 2000
    maxResourceActionAmount := 10000, donationExperience := fun _ => 70, donationDedication := fun _ => 100 }

/-- A lord with a general and a nation. -/
def lordsWorld : World :=
  ⟨.ofEntries [(1, ⟨7, 12, 1000, 1000, 0, 0, 0⟩), (2, ⟨7, 1, 0, 0, 0, 0, 0⟩)],
    .ofEntries [(7, ⟨3, 5000, 5000, 0, .empty⟩)]⟩

/-- An award to the general, a gift to it, and a donation of more than there is. -/
def lordsTurns : List (Int × List (Bool × RawCommand)) :=
  [(1, [(true, .award true 3000 2), (true, .gift true 300 2)]), (1, [(true, .donate true 5000)])]

end Sammo.Transfers
