import Sammo.Items.Inventory

/-! Slots and instances stay in step with each other, with the projection and with what is stored. -/

namespace Sammo.Items

variable {general next : General} {inventory : ItemInventory} {instances : Instances} {slot other : ItemSlot}

/-! ### Ids -/

variable {generalId : Int} {id : String} {outcome : ItemOutcome} {done : List ItemSlot} {value : Option Json}
  {stored : StoredInventory}

theorem instanceIdOf_injective {first second : Nat}
    (same : instanceIdOf generalId first = instanceIdOf generalId second) : first = second := by
  have digits : (toString first).toList = (toString second).toList :=
    congrArg String.toList ((String.append_right_inj _).mp same)
  have read (number : Nat) : Nat.ofDigitChars 10 (toString number).toList 0 = number := by
    rw [show (toString number).toList = Nat.toDigits 10 number from Nat.toList_repr]
    exact Nat.ofDigitChars_toDigits (by decide) (by decide)
  rw [← read first, digits, read]

theorem colon_mem (generalId : Int) (number : Nat) : ':' ∈ (instanceIdOf generalId number).toList := by
  simp [instanceIdOf]

theorem instanceIdOf_ne (generalId : Int) (number : Nat) {name : String} (plain : ':' ∉ name.toList) :
    instanceIdOf generalId number ≠ name :=
  fun same => plain (same ▸ colon_mem generalId number)

theorem letter_notMem_number (number : Nat) : 'l' ∉ (toString number).toList := by
  intro member
  rw [show (toString number).toList = Nat.toDigits 10 number from Nat.toList_repr] at member
  exact absurd (Nat.isDigit_of_mem_toDigits (by decide) (by decide) member) (by decide)

theorem instanceIdOf_ne_legacy (generalId : Int) (number : Nat) (slot : ItemSlot) :
    instanceIdOf generalId number ≠ "legacy:" ++ slot.name := by
  have unlettered : 'l' ∉ (instanceIdOf generalId number).toList := by
    have general_ : 'l' ∉ (toString generalId).toList := by
      cases generalId with
      | ofNat value => exact letter_notMem_number value
      | negSucc value =>
        show 'l' ∉ ("-" ++ toString (value + 1)).toList
        rw [String.toList_append, List.mem_append, not_or]
        exact ⟨by decide, letter_notMem_number (value + 1)⟩
    simp only [instanceIdOf, String.toList_append, List.mem_append, not_or]
    exact ⟨⟨general_, by decide⟩, letter_notMem_number number⟩
  intro same
  rw [same] at unlettered
  exact unlettered (by simp)

/-! ### What holds -/

/-- A state that is stored as it is. -/
structure ItemState.Storable (state : ItemState) : Prop where
  charges : ∀ charges, state.charges = some charges → charges.den = 1
  values : ∀ field ∈ state.values, isKeptValue field = true

/-- An instance that is stored as it is, under its id. -/
structure StorableAs (id : String) (value : ItemInstance) : Prop where
  id : value.id = id
  named : value.itemKey ≠ ""
  state : value.state.Storable

/--
An inventory whose slots are in step with its instances.

No slot has an id that is yet to be made for the general.
-/
structure InStep (generalId : Int) (inventory : ItemInventory) : Prop where
  counter : 0 < inventory.nextInstanceId
  plain : inventory.instances.proto = none
  storable : ∀ id value, inventory.instances.own.get? id = some value → StorableAs id value ∧ id ≠ "__proto__"
  present : ∀ slot id, inventory.equipped slot = some id → (inventory.instances.own.get? id).isSome
  apart : ∀ slot other id, slot ≠ other → inventory.equipped slot = some id → inventory.equipped other ≠ some id
  fresh : ∀ slot id, inventory.equipped slot = some id →
    ∀ number, inventory.nextInstanceId ≤ number → id ≠ instanceIdOf generalId number

/-- A general whose inventory is in step with its slots. -/
structure Kept (general : General) : Prop where
  inStep : InStep general.id (readItemInventory general)
  projected : general.items = projectItemSlots (readItemInventory general)

theorem get?_of_plain (plain : instances.proto = none) (id : String) : instances.get? id = instances.own.get? id := by
  unfold Instances.get?
  cases instances.own.get? id with
  | some found => rfl
  | none => simp [plain]

theorem has_of_plain (plain : instances.proto = none) (id : String) :
    instances.has id = true ↔ (instances.own.get? id).isSome ∨ id ∈ objectPrototypeNames := by
  rw [Instances.has, plain, get?_of_plain plain]
  simp only [Option.isSome_none, Bool.false_and, Bool.or_false, Bool.or_eq_true, decide_eq_true_eq]

theorem get?_put {key : String} (ordinary : key ≠ "__proto__") (value : ItemInstance) (id : String) :
    (instances.put key value).get? id = if id = key then some value else instances.get? id := by
  rw [Instances.put, if_neg ordinary]
  simp only [Instances.get?, OrderedMap.get?_set]
  by_cases same : id = key
  · rw [if_pos same, if_pos same]
  · rw [if_neg same, if_neg same]

theorem withoutInstance_spec (held : InStep generalId inventory) (slot : ItemSlot) :
    (withoutInstance inventory slot).proto = none ∧
      (∀ id value, (withoutInstance inventory slot).own.get? id = some value → inventory.instances.own.get? id = some value) ∧
      ∀ other id, other ≠ slot → inventory.equipped other = some id →
        (withoutInstance inventory slot).own.get? id = inventory.instances.own.get? id := by
  unfold withoutInstance
  cases taken : inventory.instanceId? slot with
  | none => exact ⟨held.plain, fun _ _ found => found, fun _ _ _ _ => rfl⟩
  | some gone =>
    obtain ⟨equipped, -⟩ := Option.filter_eq_some_iff.mp taken
    refine ⟨held.plain, fun id value found => ?_, fun other id differs there => ?_⟩
    · simp only [Instances.delete, OrderedMap.get?_erase] at found
      split at found
      · cases found
      · exact found
    · have kept : id ≠ gone := by
        rintro rfl
        exact held.apart other slot id differs there equipped
      simp only [Instances.delete, OrderedMap.get?_erase, if_neg kept]

/-- A slot that is left alone. -/
structure SameSlot (slot : ItemSlot) (before after : General) : Prop where
  equipped : (readItemInventory after).equipped slot = (readItemInventory before).equipped slot
  held : getEquippedItemInstance after slot = getEquippedItemInstance before slot
  item : after.items slot = before.items slot

theorem projectItemSlots_eq (general : General) (slot : ItemSlot) :
    projectItemSlots (readItemInventory general) slot = (getEquippedItemInstance general slot).map ItemInstance.itemKey := by
  rw [projectItemSlots, getEquippedItemInstance, Option.map_bind]
  rfl

theorem projected_of_sameSlot (held : Kept general)
    (here : next.items slot = (getEquippedItemInstance next slot).map ItemInstance.itemKey)
    (others : ∀ other, other ≠ slot → SameSlot other general next) :
    next.items = projectItemSlots (readItemInventory next) := by
  funext other
  rw [projectItemSlots_eq]
  by_cases same : other = slot
  · rw [same, here]
  · rw [(others other same).item, (others other same).held, held.projected, projectItemSlots_eq]

theorem SameSlot.of_inventories (equipped : (readItemInventory next).equipped slot = (readItemInventory general).equipped slot)
    (kept : ∀ id, (readItemInventory general).equipped slot = some id →
      (readItemInventory next).instances.get? id = (readItemInventory general).instances.get? id)
    (item : next.items slot = general.items slot) : SameSlot slot general next := by
  refine ⟨equipped, ?_, item⟩
  unfold getEquippedItemInstance ItemInventory.instanceId?
  rw [equipped]
  apply Option.bind_congr
  intro id found
  exact kept id (Option.filter_eq_some_iff.mp found).1

theorem sameSlot_remove (held : Kept general) (differs : other ≠ slot) :
    SameSlot other general (removeEquippedItem general slot).1 := by
  obtain ⟨plain, -, kept⟩ := withoutInstance_spec held.inStep slot
  apply SameSlot.of_inventories
  · exact Function.update_of_ne differs _ _
  · intro id there
    show (withoutInstance (readItemInventory general) slot).get? id = _
    rw [get?_of_plain plain, kept other id differs there, get?_of_plain held.inStep.plain]
  · exact Function.update_of_ne differs _ _

theorem sameSlot_equip (held : Kept general) (itemKey : String) (initialState : PartialItemState)
    (differs : other ≠ slot) : SameSlot other general (equipNewItem general slot itemKey initialState).1 := by
  obtain ⟨plain, -, kept⟩ := withoutInstance_spec held.inStep slot
  have ordinary : instanceIdOf general.id (readItemInventory general).nextInstanceId ≠ "__proto__" :=
    instanceIdOf_ne _ _ (by decide)
  apply SameSlot.of_inventories
  · exact Function.update_of_ne differs _ _
  · intro id there
    -- The new id is not that of any other slot.
    have new : id ≠ instanceIdOf general.id (readItemInventory general).nextInstanceId :=
      held.inStep.fresh other id there _ le_rfl
    show ((withoutInstance (readItemInventory general) slot).put _ _).get? id = _
    rw [get?_put ordinary, if_neg new, get?_of_plain plain, kept other id differs there, get?_of_plain held.inStep.plain]
  · exact Function.update_of_ne differs _ _

theorem sameSlot_put (held : Kept general) (equipped : (readItemInventory general).equipped slot = some id)
    (value : ItemInstance) (differs : other ≠ slot) :
    SameSlot other general { general with
      itemInventory := some { readItemInventory general with
        instances := (readItemInventory general).instances.put id value } } := by
  obtain ⟨found, known⟩ := Option.isSome_iff_exists.mp (held.inStep.present slot id equipped)
  have ordinary := (held.inStep.storable id found known).2
  apply SameSlot.of_inventories
  · rfl
  · intro otherId there
    have apart : otherId ≠ id := by
      rintro rfl
      exact held.inStep.apart other slot otherId differs there equipped
    show ((readItemInventory general).instances.put id value).get? otherId = _
    rw [get?_put ordinary, if_neg apart]
  · rfl

theorem Kept.remove (held : Kept general) (slot : ItemSlot) : Kept (removeEquippedItem general slot).1 := by
  obtain ⟨plain, less, kept⟩ := withoutInstance_spec held.inStep slot
  have unequipped : ∀ other id, (readItemInventory (removeEquippedItem general slot).1).equipped other = some id →
      other ≠ slot ∧ (readItemInventory general).equipped other = some id := by
    intro other id there
    by_cases same : other = slot
    · have nothing : (readItemInventory (removeEquippedItem general slot).1).equipped other = none := by
        rw [same]
        exact Function.update_self _ _ _
      rw [nothing] at there
      cases there
    · refine ⟨same, ?_⟩
      rw [← there]
      exact (Function.update_of_ne same _ _).symm
  refine ⟨⟨held.inStep.counter, plain, fun id value found => held.inStep.storable id value (less id value found),
    fun other id there => ?_, fun first second id differs there also => ?_, fun other id there => ?_⟩, ?_⟩
  · obtain ⟨differs, before⟩ := unequipped other id there
    show ((withoutInstance (readItemInventory general) slot).own.get? id).isSome
    rw [kept other id differs before]
    exact held.inStep.present other id before
  · exact held.inStep.apart first second id differs (unequipped first id there).2 (unequipped second id also).2
  · exact held.inStep.fresh other id (unequipped other id there).2
  · refine projected_of_sameSlot held ?_ fun other differs => sameSlot_remove held differs
    have empty : (readItemInventory (removeEquippedItem general slot).1).equipped slot = none := Function.update_self _ _ _
    rw [getEquippedItemInstance, ItemInventory.instanceId?, empty]
    exact Function.update_self _ _ _

theorem increment_of_lt {number : Nat} (small : number < 2 ^ 53) : increment number = number + 1 := if_pos small

theorem Kept.equip (held : Kept general) (slot : ItemSlot) {itemKey : String} (named : itemKey ≠ "")
    {initialState : PartialItemState}
    (storable : ItemState.Storable { charges := initialState.charges, values := initialState.values.getD [] })
    (small : (readItemInventory general).nextInstanceId < 2 ^ 53) :
    Kept (equipNewItem general slot itemKey initialState).1 := by
  obtain ⟨plain, less, kept⟩ := withoutInstance_spec held.inStep slot
  let inventory := readItemInventory general
  let id := instanceIdOf general.id inventory.nextInstanceId
  have ordinary : id ≠ "__proto__" := instanceIdOf_ne _ _ (by decide)
  have nonempty : id ≠ "" := instanceIdOf_ne _ _ (by decide)
  generalize made : (equipNewItem general slot itemKey initialState).1 = after
  have sameId : after.id = general.id := by rw [← made]; rfl
  have counter : (readItemInventory after).nextInstanceId = (readItemInventory general).nextInstanceId + 1 := by
    rw [← made]
    exact increment_of_lt small
  have equipped : (readItemInventory after).equipped = Function.update inventory.equipped slot (some id) := by
    rw [← made]
    rfl
  obtain ⟨created, createdSpec, instances⟩ : ∃ created, (StorableAs id created ∧ created.itemKey = itemKey) ∧
      (readItemInventory after).instances = (withoutInstance inventory slot).put id created := by
    rw [← made]
    exact ⟨_, ⟨⟨rfl, named, storable⟩, rfl⟩, rfl⟩
  have own : (readItemInventory after).instances.own = (withoutInstance inventory slot).own.set id created := by
    rw [instances, Instances.put, if_neg ordinary]
  have stillPlain : (readItemInventory after).instances.proto = none := by
    rw [instances, Instances.put, if_neg ordinary]
    exact plain
  -- A slot has the new id, or the one that it had before.
  have slots : ∀ other used, (readItemInventory after).equipped other = some used →
      (other = slot ∧ used = id) ∨ (other ≠ slot ∧ inventory.equipped other = some used) := by
    intro other used there
    rw [equipped] at there
    by_cases same : other = slot
    · rw [same, Function.update_self] at there
      exact .inl ⟨same, (Option.some.inj there).symm⟩
    · rw [Function.update_of_ne same] at there
      exact .inr ⟨same, there⟩
  have unused : ∀ other used, inventory.equipped other = some used → used ≠ id := fun other used there =>
    held.inStep.fresh other used there _ le_rfl
  refine ⟨⟨by omega, stillPlain, fun used value found => ?_, fun other used there => ?_,
    fun first second used differs there also => ?_, fun other used there number later => ?_⟩, ?_⟩
  · rw [own, OrderedMap.get?_set] at found
    split at found
    · rename_i new
      cases found
      exact ⟨new ▸ createdSpec.1, new ▸ ordinary⟩
    · exact held.inStep.storable used value (less used value found)
  · rw [own, OrderedMap.get?_set]
    rcases slots other used there with ⟨-, rfl⟩ | ⟨differs, before⟩
    · rw [if_pos rfl]
      rfl
    · rw [if_neg (unused other used before), kept other used differs before]
      exact held.inStep.present other used before
  · rcases slots first used there with ⟨isFirst, rfl⟩ | ⟨notFirst, before⟩
    · rcases slots second _ also with ⟨isSecond, -⟩ | ⟨-, beforeToo⟩
      · exact differs (isFirst.trans isSecond.symm)
      · exact unused second _ beforeToo rfl
    · rcases slots second used also with ⟨-, new⟩ | ⟨-, beforeToo⟩
      · exact unused first used before new
      · exact held.inStep.apart first second used differs before beforeToo
  · rw [sameId]
    rw [counter] at later
    rcases slots other used there with ⟨-, rfl⟩ | ⟨-, before⟩
    · intro same
      have number_ : (readItemInventory general).nextInstanceId = number := instanceIdOf_injective same
      omega
    · exact held.inStep.fresh other used before number (by omega)
  · have others : ∀ other, other ≠ slot → SameSlot other general after := fun other differs =>
      made ▸ sameSlot_equip held itemKey initialState differs
    refine projected_of_sameSlot held ?_ others
    have item : after.items slot = some itemKey := by
      rw [← made]
      exact Function.update_self _ _ _
    have there : (readItemInventory after).instanceId? slot = some id := by
      rw [ItemInventory.instanceId?, equipped, Function.update_self]
      simp [nonempty]
    rw [item, getEquippedItemInstance, there, Option.bind_some, instances, get?_put ordinary, if_pos rfl, Option.map_some,
      createdSpec.2]

theorem Kept.use (held : Kept general) {found : ItemInstance}
    (equipped : (readItemInventory general).instanceId? slot = some id)
    (known : getEquippedItemInstance general slot = some found) {charges : ℚ} (whole : charges.den = 1) :
    Kept { general with
      itemInventory := some { readItemInventory general with
        instances := (readItemInventory general).instances.put id
          { found with state := { found.state with charges := some charges } } } } := by
  obtain ⟨there, -⟩ := Option.filter_eq_some_iff.mp equipped
  have got : (readItemInventory general).instances.own.get? id = some found := by
    rw [getEquippedItemInstance, equipped, Option.bind_some, get?_of_plain held.inStep.plain] at known
    exact known
  obtain ⟨⟨sameId, named, state⟩, ordinary⟩ := held.inStep.storable id found got
  have own : ((readItemInventory general).instances.put id
      { found with state := { found.state with charges := some charges } }).own =
        (readItemInventory general).instances.own.set id
          { found with state := { found.state with charges := some charges } } := by
    rw [Instances.put, if_neg ordinary]
  refine ⟨⟨held.inStep.counter, ?_, fun used value got_ => ?_, fun other used there_ => ?_, held.inStep.apart,
    held.inStep.fresh⟩, ?_⟩
  · show ((readItemInventory general).instances.put id _).proto = none
    rw [Instances.put, if_neg ordinary]
    exact held.inStep.plain
  · replace got_ : ((readItemInventory general).instances.put id _).own.get? used = some value := got_
    rw [own, OrderedMap.get?_set] at got_
    split at got_
    · rename_i same
      cases got_
      refine ⟨⟨sameId.trans same.symm, named, fun number at_ => ?_, state.values⟩, same ▸ ordinary⟩
      cases at_
      exact whole
    · exact held.inStep.storable used value got_
  · show (((readItemInventory general).instances.put id _).own.get? used).isSome
    rw [own, OrderedMap.get?_set]
    split
    · rfl
    · exact held.inStep.present other used there_
  · refine projected_of_sameSlot held ?_ fun other differs => sameSlot_put held there _ differs
    have now : getEquippedItemInstance { general with
        itemInventory := some { readItemInventory general with
          instances := (readItemInventory general).instances.put id
            { found with state := { found.state with charges := some charges } } } } slot =
        some { found with state := { found.state with charges := some charges } } := by
      show ((readItemInventory general).instanceId? slot).bind
        ((readItemInventory general).instances.put id _).get? = _
      rw [equipped, Option.bind_some, get?_put ordinary, if_pos rfl]
    rw [now]
    show general.items slot = _
    rw [held.projected, projectItemSlots_eq, known]
    rfl

theorem Kept.made (held : Kept general) : Kept { general with itemInventory := some (readItemInventory general) } :=
  ⟨held.inStep, held.projected⟩

theorem consume_cases (general : General) (slot : ItemSlot) (itemKey : String) (fallbackCharges : ℚ) :
    let made := { general with itemInventory := some (readItemInventory general) }
    (consumeEquippedItemCharge general slot itemKey fallbackCharges).1 = made ∨
      (∃ id found, (readItemInventory general).instanceId? slot = some id ∧
        getEquippedItemInstance general slot = some found ∧ 1 < found.state.charges.getD fallbackCharges ∧
        (consumeEquippedItemCharge general slot itemKey fallbackCharges).1 = { general with
          itemInventory := some { readItemInventory general with
            instances := (readItemInventory general).instances.put id
              { found with state := { found.state with charges := some (found.state.charges.getD fallbackCharges - 1) } } } }) ∨
      (consumeEquippedItemCharge general slot itemKey fallbackCharges).1 = (removeEquippedItem made slot).1 := by
  unfold consumeEquippedItemCharge
  dsimp only
  cases equipped : (readItemInventory general).instanceId? slot with
  | none => exact .inl rfl
  | some id =>
    cases known : getEquippedItemInstance general slot with
    | none => exact .inl rfl
    | some found =>
      dsimp only
      split
      · exact .inl rfl
      · split
        · rename_i more
          exact .inr (.inl ⟨id, found, rfl, rfl, more, rfl⟩)
        · exact .inr (.inr rfl)

/-! ### Runs -/

/--
An event after which everything can be stored again.

A new item has a key and a storable state, and its number is a double without gaps; charges that are counted for the first
time are whole.
-/
def Admits (general : General) : ItemEvent → Prop
  | .equip _ itemKey initialState =>
    itemKey ≠ "" ∧ ItemState.Storable { charges := initialState.charges, values := initialState.values.getD [] } ∧
      (readItemInventory general).nextInstanceId < 2 ^ 53
  | .remove _ => True
  | .consume slot _ fallbackCharges => ∀ found, getEquippedItemInstance general slot = some found →
      found.state.charges = none → 1 < fallbackCharges → fallbackCharges.den = 1

theorem den_sub_one {number : ℚ} (whole : number.den = 1) : (number - 1).den = 1 := by
  have integer : number = (number.num : ℚ) := (Rat.coe_int_num_of_den_eq_one whole).symm
  rw [integer, ← Int.cast_one, ← Int.cast_sub]
  exact Rat.den_intCast _

theorem sameSlot_step (held : Kept general) {event : ItemEvent}
    (stepped : itemMachine.step general event = some (next, outcome)) (differs : other ≠ event.slot) :
    SameSlot other general next := by
  cases event with
  | equip slot itemKey initialState =>
    cases stepped
    exact sameSlot_equip held itemKey initialState differs
  | remove slot =>
    cases stepped
    exact sameSlot_remove held differs
  | consume slot itemKey fallbackCharges =>
    have same : next = (consumeEquippedItemCharge general slot itemKey fallbackCharges).1 := by
      cases stepped
      rfl
    rcases consume_cases general slot itemKey fallbackCharges with idle | ⟨id, found, equipped, -, -, used⟩ | gone
    · rw [same, idle]
      exact ⟨rfl, rfl, rfl⟩
    · rw [same, used]
      exact sameSlot_put held (Option.filter_eq_some_iff.mp equipped).1 _ differs
    · rw [same, gone]
      -- Making the inventory first changes nothing that is read.
      obtain ⟨equipped, instance_, item⟩ := sameSlot_remove held.made differs
      exact ⟨equipped, instance_, item⟩

theorem Kept.step (held : Kept general) {event : ItemEvent} (admitted : Admits general event)
    (stepped : itemMachine.step general event = some (next, outcome)) : Kept next := by
  cases event with
  | equip slot itemKey initialState =>
    obtain ⟨named, storable, small⟩ := admitted
    cases stepped
    exact held.equip slot named storable small
  | remove slot =>
    cases stepped
    exact held.remove slot
  | consume slot itemKey fallbackCharges =>
    have same : next = (consumeEquippedItemCharge general slot itemKey fallbackCharges).1 := by
      cases stepped
      rfl
    rcases consume_cases general slot itemKey fallbackCharges with idle | ⟨id, found, equipped, known, more, used⟩ | gone
    · rw [same, idle]
      exact held.made
    · rw [same, used]
      apply held.use equipped known
      -- Charges that have been counted before are whole, and so are those counted for the first time.
      have got : (readItemInventory general).instances.own.get? id = some found := by
        rw [getEquippedItemInstance, equipped, Option.bind_some, get?_of_plain held.inStep.plain] at known
        exact known
      have state := (held.inStep.storable id found got).1.state
      cases counted : found.state.charges with
      | some charges => exact den_sub_one (state.charges charges counted)
      | none =>
        rw [counted] at more
        exact den_sub_one (admitted found known counted more)
    · rw [same, gone]
      exact held.made.remove slot

/-! ### Where a general starts -/

/-- A general as he is loaded: with the inventory that is stored for him, and its projection. -/
def loadGeneral (id : Int) (value : Option Json) (fallbackSlots : ItemSlots) : General :=
  let inventory := parseItemInventory value fallbackSlots
  { id, items := projectItemSlots inventory, itemInventory := some inventory }

/-- An instance that can be read back. -/
def StoredInventory.Has (stored : StoredInventory) (id : String) : Prop :=
  ∃ rawInstance, (id, rawInstance) ∈ stored.rawInstances ∧ (readInstance id rawInstance).isSome

/-- The id that is stored for a slot. -/
def StoredInventory.idOf (stored : StoredInventory) (slot : ItemSlot) : Option String :=
  (stored.rawEquipped.get? slot.name).bind Json.string?

/--
A stored inventory that is in step.

No two slots share an instance, no slot has a name that every object inherits, and none has an id that is yet to be made.
-/
structure WellStored (generalId : Int) (stored : StoredInventory) : Prop where
  plain : ¬ stored.Has "__proto__"
  named : ∀ slot id, stored.idOf slot = some id → id ∈ objectPrototypeNames → stored.Has id
  apart : ∀ slot other id, slot ≠ other → stored.idOf slot = some id → stored.idOf other = some id → ¬ stored.Has id
  fresh : ∀ slot id, stored.idOf slot = some id → stored.Has id →
    ∀ number, stored.nextInstanceId ≤ number → id ≠ instanceIdOf generalId number

/-- A general as he may start: loaded from a stored inventory that is in step, or with nothing but slots that name items. -/
inductive Opening : General → Prop
  | loaded (id : Int) (value : Option Json) (fallbackSlots : ItemSlots)
      (stored : ∀ stored, readStored value = some stored → WellStored id stored) :
      Opening (loadGeneral id value fallbackSlots)
  | unloaded (id : Int) (items : ItemSlots) (named : ∀ slot, items slot ≠ some "" ∧ items slot ≠ some "None") :
      Opening { id, items, itemInventory := none }

/-- The id of the instance that is made from a slot, if it names an item. -/
def legacyId (slots : ItemSlots) (slot : ItemSlot) : Option String :=
  (slots slot).bind fun itemKey => if itemKey = "" ∨ itemKey = "None" then none else some ("legacy:" ++ slot.name)

/-- The inventory that is made from some of the slots. -/
structure MadeFrom (slots : ItemSlots) (done : List ItemSlot) (inventory : ItemInventory) : Prop where
  counter : inventory.nextInstanceId = 1
  plain : inventory.instances.proto = none
  equipped : ∀ slot, inventory.equipped slot = if slot ∈ done then legacyId slots slot else none
  own : ∀ id value, inventory.instances.own.get? id = some value ↔
    ∃ slot ∈ done, ∃ itemKey, slots slot = some itemKey ∧ ¬ (itemKey = "" ∨ itemKey = "None") ∧
      id = "legacy:" ++ slot.name ∧ value = { id, itemKey, state := { charges := none, values := [] } }

theorem legacy_injective (same : "legacy:" ++ slot.name = "legacy:" ++ other.name) : slot = other := by
  have names := (String.append_right_inj _).mp same
  cases slot <;> cases other <;> first | rfl | exact absurd names (by decide)

theorem MadeFrom.step {slots : ItemSlots} (made : MadeFrom slots done inventory) (new : slot ∉ done) :
    MadeFrom slots (slot :: done) (addLegacyItem slots inventory slot) := by
  have ordinary : "legacy:" ++ slot.name ≠ "__proto__" := by cases slot <;> decide
  have still (nothing : legacyId slots slot = none) : MadeFrom slots (slot :: done) inventory := by
    refine ⟨made.counter, made.plain, fun other => ?_, fun id value => ?_⟩
    · rw [made.equipped]
      by_cases same : other = slot
      · rw [same, if_neg new, if_pos List.mem_cons_self, nothing]
      · simp only [List.mem_cons, same, false_or]
    · rw [made.own]
      constructor
      · rintro ⟨from_, member, found⟩
        exact ⟨from_, List.mem_cons_of_mem _ member, found⟩
      · rintro ⟨from_, member, itemKey, at_, valid, found⟩
        rcases List.mem_cons.mp member with rfl | old
        · rw [legacyId, at_, Option.bind_some, if_neg valid] at nothing
          cases nothing
        · exact ⟨from_, old, itemKey, at_, valid, found⟩
  unfold addLegacyItem
  cases at_ : slots slot with
  | none => exact still (by rw [legacyId, at_]; rfl)
  | some itemKey =>
    dsimp only
    split
    · rename_i invalid
      exact still (by rw [legacyId, at_, Option.bind_some, if_pos invalid])
    · rename_i valid
      have own : (inventory.instances.put ("legacy:" ++ slot.name)
          { id := "legacy:" ++ slot.name, itemKey, state := { charges := none, values := [] } }).own =
            inventory.instances.own.set ("legacy:" ++ slot.name)
              { id := "legacy:" ++ slot.name, itemKey, state := { charges := none, values := [] } } := by
        rw [Instances.put, if_neg ordinary]
      refine ⟨made.counter, ?_, fun other => ?_, fun id value => ?_⟩
      · show (inventory.instances.put _ _).proto = none
        rw [Instances.put, if_neg ordinary]
        exact made.plain
      · show Function.update inventory.equipped slot _ other = _
        by_cases same : other = slot
        · rw [same, Function.update_self, if_pos List.mem_cons_self, legacyId, at_, Option.bind_some, if_neg valid]
        · rw [Function.update_of_ne same, made.equipped]
          simp only [List.mem_cons, same, false_or]
      · rw [own, OrderedMap.get?_set]
        constructor
        · intro found
          split at found
          · rename_i same
            cases found
            exact ⟨slot, List.mem_cons_self, itemKey, at_, valid, same, by rw [same]⟩
          · obtain ⟨from_, member, old⟩ := (made.own id value).mp found
            exact ⟨from_, List.mem_cons_of_mem _ member, old⟩
        · rintro ⟨from_, member, itemKey_, at__, valid_, rfl, rfl⟩
          rcases List.mem_cons.mp member with rfl | old
          · rw [at_] at at__
            cases at__
            rw [if_pos rfl]
          · have apart : "legacy:" ++ from_.name ≠ "legacy:" ++ slot.name := fun same =>
              new (legacy_injective same ▸ old)
            rw [if_neg apart]
            exact (made.own _ _).mpr ⟨from_, old, itemKey_, at__, valid_, rfl, rfl⟩

theorem madeFrom_slots (slots : ItemSlots) :
    MadeFrom slots [.item, .book, .weapon, .horse] (createItemInventoryFromSlots slots) := by
  have start : MadeFrom slots [] (emptyInventory 1) :=
    ⟨rfl, rfl, fun _ => rfl, fun id value => ⟨fun found => (by cases found), fun ⟨_, member, _⟩ => (by cases member)⟩⟩
  exact (((start.step (by decide)).step (by decide)).step (by decide)).step (by decide)

theorem MadeFrom.inStep {slots : ItemSlots} (made : MadeFrom slots done inventory) (generalId : Int) :
    InStep generalId inventory := by
  -- What is equipped has been made from the same slot.
  have origin : ∀ slot id, inventory.equipped slot = some id → slot ∈ done ∧ legacyId slots slot = some id ∧
      id = "legacy:" ++ slot.name := by
    intro slot id there
    rw [made.equipped] at there
    split at there
    · rename_i member
      refine ⟨member, there, ?_⟩
      obtain ⟨itemKey, -, found⟩ := Option.bind_eq_some_iff.mp there
      split at found
      · cases found
      · exact (Option.some.inj found).symm
    · cases there
  refine ⟨by rw [made.counter]; decide, made.plain, fun id value found => ?_, fun slot id there => ?_,
    fun slot other id differs there also => ?_, fun slot id there number _ => ?_⟩
  · obtain ⟨slot, -, itemKey, -, valid, rfl, rfl⟩ := (made.own id value).mp found
    refine ⟨⟨rfl, fun empty => valid (.inl empty), ⟨fun _ none_ => (by cases none_), fun _ member => (by cases member)⟩⟩, ?_⟩
    cases slot <;> decide
  · obtain ⟨member, legacy, rfl⟩ := origin slot id there
    obtain ⟨itemKey, at_, found⟩ := Option.bind_eq_some_iff.mp legacy
    split at found
    · cases found
    · rename_i valid
      rw [(made.own _ _).mpr ⟨slot, member, itemKey, at_, valid, rfl, rfl⟩]
      rfl
  · obtain ⟨-, -, here⟩ := origin slot id there
    obtain ⟨-, -, elsewhere⟩ := origin other id also
    exact differs (legacy_injective (here.symm.trans elsewhere))
  · obtain ⟨-, -, rfl⟩ := origin slot id there
    exact (instanceIdOf_ne_legacy generalId number slot).symm

theorem readStored_counter (read : readStored value = some stored) : 0 < stored.nextInstanceId := by
  obtain ⟨record, -, read⟩ := Option.bind_eq_some_iff.mp read
  obtain ⟨rawInstances, -, read⟩ := Option.bind_eq_some_iff.mp read
  obtain ⟨rawEquipped, -, rfl⟩ := Option.map_eq_some_iff.mp read
  show 0 < readNextInstanceId (record.get? "nextInstanceId")
  unfold readNextInstanceId
  split
  · split
    · rename_i positive
      have numerator := Rat.num_pos.mpr positive.2
      omega
    · exact Nat.one_pos
  · exact Nat.one_pos

theorem storable_of_readInstance {rawInstance : Json} {value : ItemInstance}
    (read : readInstance id rawInstance = some value) : StorableAs id value := by
  obtain ⟨fields, -, read⟩ := Option.bind_eq_some_iff.mp read
  obtain ⟨itemKey, -, read⟩ := Option.bind_eq_some_iff.mp read
  obtain ⟨state, stateRead, read⟩ := Option.bind_eq_some_iff.mp read
  rw [Option.ite_none_left_eq_some] at read
  obtain ⟨named, rfl⟩ := read.imp_right Option.some.inj
  obtain ⟨record, -, rfl⟩ := Option.map_eq_some_iff.mp stateRead
  refine ⟨rfl, named, fun charges counted => ?_, fun field member => (List.mem_filter.mp member).2⟩
  obtain ⟨number, -, whole⟩ := Option.bind_eq_some_iff.mp counted
  cases number with
  | num value =>
    rw [wholeNumber?, Option.ite_none_right_eq_some] at whole
    exact Option.some.inj whole.2 ▸ whole.1
  | _ => cases whole

theorem addStored_spec (start : Instances) (field : String × Json) :
    ((field.1 = "__proto__" → readInstance field.1 field.2 = none) → (addStored start field).proto = start.proto) ∧
      ∀ id, (addStored start field).own.get? id = if id = field.1 ∧ id ≠ "__proto__" then
        (readInstance field.1 field.2).or (start.own.get? id) else start.own.get? id := by
  unfold addStored
  cases read : readInstance field.1 field.2 with
  | none =>
    refine ⟨fun _ => rfl, fun id => ?_⟩
    rw [Option.none_or, ite_self]
  | some value =>
    dsimp only
    rw [Instances.put]
    by_cases special : field.1 = "__proto__"
    · -- This name is not assigned but inherited from.
      rw [if_pos special]
      refine ⟨fun unread => (by cases unread special), fun id => ?_⟩
      rw [if_neg fun ⟨named, ordinary⟩ => ordinary (named.trans special)]
    · rw [if_neg special]
      refine ⟨fun _ => rfl, fun id => ?_⟩
      rw [OrderedMap.get?_set, Option.some_or]
      by_cases named : id = field.1
      · rw [if_pos named, if_pos ⟨named, named ▸ special⟩]
      · rw [if_neg named, if_neg fun both => named both.1]

theorem foldl_addStored (fields : Record) (start : Instances) :
    let instances := fields.foldl addStored start
    (¬ (∃ rawInstance, ("__proto__", rawInstance) ∈ fields ∧ (readInstance "__proto__" rawInstance).isSome) →
      instances.proto = start.proto) ∧
      (∀ id value, instances.own.get? id = some value → start.own.get? id = some value ∨
        (id ≠ "__proto__" ∧ ∃ rawInstance, (id, rawInstance) ∈ fields ∧ readInstance id rawInstance = some value)) ∧
      ∀ id, id ≠ "__proto__" → ((start.own.get? id).isSome ∨
        ∃ rawInstance, (id, rawInstance) ∈ fields ∧ (readInstance id rawInstance).isSome) → (instances.own.get? id).isSome := by
  induction fields generalizing start with
  | nil =>
    refine ⟨fun _ => rfl, fun id value found => .inl found, fun id _ found => ?_⟩
    rcases found with old | ⟨_, member, _⟩
    · exact old
    · cases member
  | cons field rest ih =>
    obtain ⟨name, raw⟩ := field
    obtain ⟨plainFirst, ownFirst⟩ := addStored_spec start (name, raw)
    obtain ⟨plain, origin, complete⟩ := ih (addStored start (name, raw))
    rw [List.foldl_cons]
    refine ⟨fun absent => ?_, fun id value found => ?_, fun id ordinary found => ?_⟩
    · have first : (addStored start (name, raw)).proto = start.proto := by
        refine plainFirst fun special => Option.not_isSome_iff_eq_none.mp fun isRead => absent ⟨raw, ?_, ?_⟩
        · exact special ▸ List.mem_cons_self
        · exact special ▸ isRead
      rw [← first]
      exact plain fun ⟨rawInstance, member, isRead⟩ => absent ⟨rawInstance, List.mem_cons_of_mem _ member, isRead⟩
    · rcases origin id value found with old | ⟨ordinary, rawInstance, member, isRead⟩
      · rw [ownFirst] at old
        split at old
        · rename_i here
          rcases Option.or_eq_some_iff.mp old with read | ⟨-, before⟩
          · exact .inr ⟨here.2, raw, here.1 ▸ List.mem_cons_self, here.1 ▸ read⟩
          · exact .inl before
        · exact .inl old
      · exact .inr ⟨ordinary, rawInstance, List.mem_cons_of_mem _ member, isRead⟩
    · apply complete id ordinary
      rw [ownFirst]
      rcases found with old | ⟨rawInstance, member, isRead⟩
      · left
        split
        · rw [Option.isSome_or, old, Bool.or_true]
        · exact old
      · rcases List.mem_cons.mp member with here | later
        · obtain ⟨rfl, rfl⟩ := Prod.mk.inj here
          left
          rw [if_pos ⟨rfl, ordinary⟩, Option.isSome_or, isRead, Bool.true_or]
        · exact .inr ⟨rawInstance, later, isRead⟩

theorem inStep_parse (read : readStored value = some stored) (well : WellStored generalId stored)
    (fallbackSlots : ItemSlots) : InStep generalId (parseItemInventory value fallbackSlots) := by
  obtain ⟨plain, origin, complete⟩ := foldl_addStored stored.rawInstances Instances.empty
  have proto : (stored.rawInstances.foldl addStored Instances.empty).proto = none := plain well.plain
  have known : ∀ id found, (stored.rawInstances.foldl addStored Instances.empty).own.get? id = some found →
      id ≠ "__proto__" ∧ StorableAs id found ∧ stored.Has id := by
    intro id found got
    rcases origin id found got with old | ⟨ordinary, rawInstance, member, isRead⟩
    · cases old
    · exact ⟨ordinary, storable_of_readInstance isRead, rawInstance, member, by rw [isRead]; rfl⟩
  -- A slot is equipped with a stored instance, since nothing else is inherited.
  have slots : ∀ slot id, (parseItemInventory value fallbackSlots).equipped slot = some id →
      stored.idOf slot = some id ∧ stored.Has id ∧
        ((stored.rawInstances.foldl addStored Instances.empty).own.get? id).isSome := by
    intro slot id there
    simp only [parseItemInventory, read] at there
    obtain ⟨id_, stored_, there⟩ := Option.bind_eq_some_iff.mp there
    rw [Option.ite_none_right_eq_some] at there
    obtain ⟨has, rfl⟩ := there.imp_right Option.some.inj
    have own : ((stored.rawInstances.foldl addStored Instances.empty).own.get? id_).isSome := by
      rcases (has_of_plain proto id_).mp has with found | inherited
      · exact found
      · have hasId := well.named slot id_ stored_ inherited
        have ordinary : id_ ≠ "__proto__" := by
          rintro rfl
          exact well.plain hasId
        exact complete id_ ordinary (.inr hasId)
    obtain ⟨found, got⟩ := Option.isSome_iff_exists.mp own
    exact ⟨stored_, (known id_ found got).2.2, own⟩
  have counter : (parseItemInventory value fallbackSlots).nextInstanceId = stored.nextInstanceId := by
    simp only [parseItemInventory, read]
  have instances_ : (parseItemInventory value fallbackSlots).instances =
      stored.rawInstances.foldl addStored Instances.empty := by
    simp only [parseItemInventory, read]
  refine ⟨?_, by rw [instances_, proto], fun id found got => ?_, fun slot id there => ?_,
    fun slot other id differs there also => ?_, fun slot id there number later => ?_⟩
  · rw [counter]
    exact readStored_counter read
  · rw [instances_] at got
    obtain ⟨ordinary, storable, -⟩ := known id found got
    exact ⟨storable, ordinary⟩
  · rw [instances_]
    exact (slots slot id there).2.2
  · obtain ⟨here, has, -⟩ := slots slot id there
    exact well.apart slot other id differs here (slots other id also).1 has
  · obtain ⟨here, has, -⟩ := slots slot id there
    rw [counter] at later
    exact well.fresh slot id here has number later

theorem Opening.kept (opening : Opening general) : Kept general := by
  cases opening with
  | loaded id value fallbackSlots well =>
    refine ⟨?_, rfl⟩
    show InStep id (parseItemInventory value fallbackSlots)
    cases read : readStored value with
    | some stored => exact inStep_parse read (well stored read) fallbackSlots
    | none =>
      rw [parseItemInventory, read]
      exact (madeFrom_slots fallbackSlots).inStep id
  | unloaded id items named =>
    have made := madeFrom_slots items
    refine ⟨made.inStep id, ?_⟩
    show items = projectItemSlots (createItemInventoryFromSlots items)
    funext slot
    have every : slot ∈ [ItemSlot.item, .book, .weapon, .horse] := by cases slot <;> decide
    have equipped := made.equipped slot
    rw [if_pos every] at equipped
    rw [projectItemSlots, ItemInventory.instanceId?, equipped, legacyId]
    cases at_ : items slot with
    | none => rfl
    | some itemKey =>
      have valid : ¬ (itemKey = "" ∨ itemKey = "None") := by
        rintro (rfl | rfl)
        · exact (named slot).1 at_
        · exact (named slot).2 at_
      rw [Option.bind_some, if_neg valid, Option.filter_some, if_pos (by simp), Option.bind_some,
        get?_of_plain made.plain, (made.own _ _).mpr ⟨slot, every, itemKey, at_, valid, rfl, rfl⟩]
      rfl

/-! ### Storing -/

theorem readInstance_serialize {value : ItemInstance} (storable : StorableAs id value) :
    readInstance id (serializeInstance value) = some value := by
  obtain ⟨id_, itemKey, charges, values⟩ := value
  obtain ⟨rfl, named, whole, kept⟩ := storable
  dsimp only at named whole kept
  have filtered : values.filter isKeptValue = values := List.filter_eq_self.mpr kept
  cases charges with
  | none =>
    simp [readInstance, serializeInstance, asObject?, Record.get?, readState, Json.string?, List.lookup_cons, named, filtered]
  | some number =>
    simp [readInstance, serializeInstance, asObject?, Record.get?, readState, Json.string?, List.lookup_cons, named, filtered,
      wholeNumber?, whole number rfl]

theorem foldl_addStored_serialize {entries : List (String × ItemInstance)} (start : Instances)
    (storable : ∀ entry ∈ entries, StorableAs entry.1 entry.2 ∧ entry.1 ≠ "__proto__")
    (distinct : (start.own.entries.map Prod.fst ++ entries.map Prod.fst).Nodup) :
    ((entries.map fun entry => (entry.1, serializeInstance entry.2)).foldl addStored start).own.entries =
        start.own.entries ++ entries ∧
      ((entries.map fun entry => (entry.1, serializeInstance entry.2)).foldl addStored start).proto = start.proto := by
  induction entries generalizing start with
  | nil => simp
  | cons entry rest ih =>
    obtain ⟨storableFirst, ordinary⟩ := storable entry List.mem_cons_self
    have added : addStored start (entry.1, serializeInstance entry.2) = start.put entry.1 entry.2 := by
      simp only [addStored, readInstance_serialize storableFirst]
    have absent : entry.1 ∉ start.own.keys := by
      intro member
      exact (List.nodup_append.mp distinct).2.2 _ member _ List.mem_cons_self rfl
    have listed : (start.put entry.1 entry.2).own.entries = start.own.entries ++ [entry] := by
      rw [Instances.put, if_neg ordinary]
      show (start.own.set entry.1 entry.2).entries = _
      rw [OrderedMap.set, dif_neg absent]
    have proto : (start.put entry.1 entry.2).proto = start.proto := by rw [Instances.put, if_neg ordinary]
    rw [List.map_cons, List.foldl_cons, added]
    obtain ⟨later, kept⟩ := ih (start.put entry.1 entry.2)
      (fun other member => storable other (List.mem_cons_of_mem _ member)) (by
        rw [listed, List.map_append, List.append_assoc]
        exact distinct)
    exact ⟨by rw [later, listed, List.append_assoc, List.singleton_append], kept.trans proto⟩

theorem lookup_equipped (equipped : ItemSlot → Option String) (slots : List ItemSlot) (slot : ItemSlot) :
    (slots.filterMap fun slot => (equipped slot).map fun id => (slot.name, Json.str id)).lookup slot.name =
      if slot ∈ slots then (equipped slot).map Json.str else none := by
  have named : ∀ other : ItemSlot, slot.name = other.name → slot = other := by
    intro other same
    cases slot <;> cases other <;> first | rfl | exact absurd same (by decide)
  induction slots with
  | nil => rfl
  | cons first rest ih =>
    by_cases same : slot = first
    · subst same
      cases id : equipped slot with
      | none =>
        rw [List.filterMap_cons_none (by rw [id]; rfl), ih, id]
        simp
      | some found =>
        rw [List.filterMap_cons_some (b := (slot.name, Json.str found)) (by rw [id]; rfl)]
        simp
    · have apart : (slot.name == first.name) = false := by
        rw [beq_eq_false_iff_ne]
        exact fun equal => same (named first equal)
      have member : slot ∈ first :: rest ↔ slot ∈ rest := by simp [same]
      simp only [member]
      cases id : equipped first with
      | none => rw [List.filterMap_cons_none (by rw [id]; rfl), ih]
      | some found =>
        rw [List.filterMap_cons_some (b := (first.name, Json.str found)) (by rw [id]; rfl), List.lookup_cons, apart, ih]

theorem parse_serialize (held : InStep generalId inventory) (fallbackSlots : ItemSlots) :
    parseItemInventory (some (serializeItemInventory inventory)) fallbackSlots = inventory := by
  have stored : readStored (some (serializeItemInventory inventory)) = some
      { nextInstanceId := inventory.nextInstanceId
        rawInstances := inventory.instances.own.entries.map fun entry => (entry.1, serializeInstance entry.2)
        rawEquipped := itemSlots.filterMap fun slot => (inventory.equipped slot).map fun id => (slot.name, .str id) } := by
    have positive : (0 : ℚ) < inventory.nextInstanceId := by exact_mod_cast held.counter
    simp [readStored, serializeItemInventory, asObject?, Record.get?, List.lookup_cons, readNextInstanceId, positive]
  obtain ⟨entries, proto⟩ := foldl_addStored_serialize Instances.empty
    (fun entry member => held.storable entry.1 entry.2 (OrderedMap.mem_entries.mp member)) inventory.instances.own.nodup
  have instances_ : (inventory.instances.own.entries.map fun entry => (entry.1, serializeInstance entry.2)).foldl addStored
      Instances.empty = inventory.instances := by
    generalize (inventory.instances.own.entries.map fun entry => (entry.1, serializeInstance entry.2)).foldl addStored
      Instances.empty = read at entries proto ⊢
    obtain ⟨⟨readEntries, _⟩, readProto⟩ := read
    obtain ⟨counter, ⟨⟨ownEntries, _⟩, ownProto⟩, equipped⟩ := inventory
    have plain : ownProto = none := held.plain
    dsimp only at entries proto ⊢
    subst entries proto plain
    rfl
  have equipped_ (slot : ItemSlot) :
      ((Record.get? (itemSlots.filterMap fun slot => (inventory.equipped slot).map fun id => (slot.name, Json.str id))
        slot.name).bind Json.string?).bind (fun id => if inventory.instances.has id then some id else none) =
        inventory.equipped slot := by
    have every : slot ∈ itemSlots := by cases slot <;> decide
    rw [Record.get?, lookup_equipped, if_pos every]
    cases there : inventory.equipped slot with
    | none => rfl
    | some id =>
      have has : inventory.instances.has id = true :=
        (has_of_plain held.plain id).mpr (.inl (held.present slot id there))
      simp only [Option.map_some, Option.bind_some, Json.string?, has, if_true]
  simp only [parseItemInventory, stored, instances_, equipped_]

/-- What is to hold of the items of a general. -/
structure Sound (general : General) : Prop where
  distinct : ∀ slot other id, slot ≠ other → (readItemInventory general).equipped slot = some id →
    (readItemInventory general).equipped other ≠ some id
  present : ∀ slot id, (readItemInventory general).equipped slot = some id →
    ((readItemInventory general).instances.own.get? id).isSome
  projected : general.items = projectItemSlots (readItemInventory general)
  restored : ∀ fallbackSlots, parseItemInventory (some (serializeItemInventory (readItemInventory general))) fallbackSlots =
    readItemInventory general

theorem Kept.sound (held : Kept general) : Sound general :=
  ⟨fun slot other id differs there => held.inStep.apart slot other id differs there, held.inStep.present, held.projected,
    parse_serialize held.inStep⟩

/--
From a start that is in step, admitted events keep the items of a general sound.

Whatever comes next leaves every slot alone but its own.
-/
theorem item_inventory (start final : General) (trace : List (ItemEvent × ItemOutcome)) (opening : Opening start)
    (run : itemMachine.RunWhile Admits start trace final) :
    Sound final ∧ ∀ event next outcome, itemMachine.step final event = some (next, outcome) →
      ∀ slot, slot ≠ event.slot → SameSlot slot final next := by
  have held : Kept final := run.stateInvariant opening.kept fun _ _ _ _ held admitted stepped => held.step admitted stepped
  exact ⟨held.sound, fun event next outcome stepped slot differs => sameSlot_step held stepped differs⟩

/-- A general without items gets a sword with two charges, and uses one of them. -/
theorem item_inventory_sword :
    ∃ trace final, itemMachine.RunWhile Admits { id := 1, items := fun _ => none, itemInventory := none } trace final ∧
      trace.length = 2 ∧ Sound final ∧ final.items .weapon = some "sword" := by
  let start : General := { id := 1, items := fun _ => none, itemInventory := none }
  have opening : Opening start := .unloaded 1 _ fun _ => ⟨nofun, nofun⟩
  let armed := (equipNewItem start .weapon "sword" { charges := some 2 }).1
  let used := (consumeEquippedItemCharge armed .weapon "sword" 1).1
  have storable : ItemState.Storable { charges := some 2, values := [] } := by
    refine ⟨fun charges counted => ?_, fun _ member => absurd member List.not_mem_nil⟩
    cases counted
    rfl
  let equip : ItemEvent := .equip .weapon "sword" { charges := some 2 }
  let consume : ItemEvent := .consume .weapon "sword" 1
  have equipped : itemMachine.RunWhile Admits start ([] ++ [(equip, .equipped _)]) armed :=
    .snoc (.nil start) (show _ ∧ _ ∧ _ from ⟨by decide, storable, by decide⟩) rfl
  have first : Admits armed consume := fun _ _ _ more => absurd more (lt_irrefl 1)
  have consumed : itemMachine.step armed consume = some (used, .consumed (consumeEquippedItemCharge armed .weapon "sword" 1).2) :=
    rfl
  have run := equipped.snoc first consumed
  exact ⟨_, used, run, rfl, (item_inventory start used _ opening run).1, by decide +kernel⟩

/-- A stored inventory with a sword, whose counter has been lost. -/
def storedSword : Json :=
  .obj [("instances", .obj [("1:1", .obj [("itemKey", .str "sword"), ("state", .obj [])])]),
    ("equipped", .obj [("weapon", .str "1:1")])]

/-- A new horse is given the id of the sword, and takes its place. -/
theorem item_inventory_collision :
    ¬ ∀ (id : Int) (value : Option Json) (fallbackSlots : ItemSlots) (event : ItemEvent) (next : General)
      (outcome : ItemOutcome), itemMachine.step (loadGeneral id value fallbackSlots) event = some (next, outcome) →
      ∀ slot, slot ≠ event.slot → SameSlot slot (loadGeneral id value fallbackSlots) next := by
  intro claimed
  let start := loadGeneral 1 (some storedSword) fun _ => none
  have held := (claimed 1 (some storedSword) (fun _ => none) (.equip .horse "mare" {})
    (equipNewItem start .horse "mare" {}).1 _ rfl .weapon (by decide)).held
  have before : (getEquippedItemInstance start .weapon).map ItemInstance.itemKey = some "sword" := by decide +kernel
  have after : (getEquippedItemInstance (equipNewItem start .horse "mare" {}).1 .weapon).map ItemInstance.itemKey =
      some "mare" := by decide +kernel
  rw [held, before] at after
  exact absurd after (by decide)

end Sammo.Items
