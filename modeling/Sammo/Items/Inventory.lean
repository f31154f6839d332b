import Mathlib.Algebra.Order.Field.Rat
import Mathlib.Logic.Function.Basic
import Sammo.Data.Json
import Sammo.Lib.OrderedMap
import Sammo.Lib.StateMachine

/-! The items of a general: instances with a state, the slots they are equipped in, and how they are stored. -/

namespace Sammo.Items

/-- A slot for an item. -/
inductive ItemSlot where
  | horse
  | weapon
  | book
  | item
  deriving DecidableEq

/-- The slots, in the order in which they are gone through. -/
def itemSlots : List ItemSlot := [.horse, .weapon, .book, .item]

/-- The name of a slot as a field. -/
def ItemSlot.name : ItemSlot → String
  | .horse => "horse"
  | .weapon => "weapon"
  | .book => "book"
  | .item => "item"

/-- The items of a general by their keys. -/
abbrev ItemSlots := ItemSlot → Option String

/-- The state of an instance. -/
structure ItemState where
  charges : Option ℚ
  values : Record

/-- A state of which parts may be missing. -/
structure PartialItemState where
  charges : Option ℚ := none
  values : Option Record := none

/-- An instance of an item. -/
structure ItemInstance where
  id : String
  itemKey : String
  state : ItemState

/-- An object of instances: its own fields, and the object it inherits from if that has been replaced. -/
structure Instances where
  own : OrderedMap String ItemInstance
  proto : Option ItemInstance

/-- The inventory of a general. -/
structure ItemInventory where
  nextInstanceId : Nat
  instances : Instances
  equipped : ItemSlot → Option String

/-- A general, as far as items are concerned. -/
structure General where
  id : Int
  items : ItemSlots
  itemInventory : Option ItemInventory

/-! ### Objects of instances -/

/-- The names that every object inherits. -/
def objectPrototypeNames : List String :=
  ["constructor", "__defineGetter__", "__defineSetter__", "hasOwnProperty", "__lookupGetter__", "__lookupSetter__",
    "isPrototypeOf", "propertyIsEnumerable", "toString", "valueOf", "__proto__", "toLocaleString"]

/-- No instances. -/
def Instances.empty : Instances := { own := OrderedMap.empty, proto := none }

/-- The instance under an id. -/
def Instances.get? (instances : Instances) (id : String) : Option ItemInstance :=
  match instances.own.get? id with
  | some found => some found
  | none => if id = "__proto__" then instances.proto else none

/-- Whether there is anything under an id, inherited or not. -/
def Instances.has (instances : Instances) (id : String) : Bool :=
  (instances.get? id).isSome || id ∈ objectPrototypeNames || (instances.proto.isSome && id ∈ ["id", "itemKey", "state"])

/-- Assigns an instance; one name replaces the object that is inherited from. -/
def Instances.put (instances : Instances) (id : String) (value : ItemInstance) : Instances :=
  if id = "__proto__" then { instances with proto := some value }
  else { instances with own := instances.own.set id value }

/-- Deletes an instance. -/
def Instances.delete (instances : Instances) (id : String) : Instances := { instances with own := instances.own.erase id }

/-! ### Building and storing -/

/-- An inventory without items. -/
def emptyInventory (nextInstanceId : Nat) : ItemInventory :=
  { nextInstanceId, instances := Instances.empty, equipped := fun _ => none }

/-- Takes over the item of a slot. -/
def addLegacyItem (slots : ItemSlots) (inventory : ItemInventory) (slot : ItemSlot) : ItemInventory :=
  match slots slot with
  | none => inventory
  | some itemKey =>
    if itemKey = "" ∨ itemKey = "None" then inventory
    else
      let id := "legacy:" ++ slot.name
      { inventory with
        instances := inventory.instances.put id { id, itemKey, state := { charges := none, values := [] } }
        equipped := Function.update inventory.equipped slot (some id) }

/-- The inventory of a general who has only slots. -/
def createItemInventoryFromSlots (slots : ItemSlots) : ItemInventory :=
  itemSlots.foldl (addLegacyItem slots) (emptyInventory 1)

/-- Reads a value as an object. -/
def asObject? : Json → Option Record
  | .obj fields => some fields
  | _ => none

/-- Reads a value as a whole number. -/
def wholeNumber? : Json → Option ℚ
  | .num value => if value.den = 1 then some value else none
  | _ => none

/-- Whether a state keeps a value. -/
def isKeptValue (field : String × Json) : Bool :=
  -- A field of this name is not assigned but inherited from.
  field.1 ≠ "__proto__" &&
    match field.2 with
    | .bool _ | .num _ | .str _ | .obj _ => true
    | _ => false

/-- Reads a state. -/
def readState (value : Option Json) : Option ItemState :=
  (value.bind asObject?).map fun record =>
    { charges := (record.get? "charges").bind wholeNumber?
      values := (((record.get? "values").bind asObject?).getD []).filter isKeptValue }

/-- Reads an instance. -/
def readInstance (id : String) (rawInstance : Json) : Option ItemInstance :=
  (asObject? rawInstance).bind fun fields =>
    ((fields.get? "itemKey").bind Json.string?).bind fun itemKey =>
      (readState (fields.get? "state")).bind fun state =>
        if itemKey = "" then none else some { id, itemKey, state }

/-- An inventory as it is stored. -/
structure StoredInventory where
  nextInstanceId : Nat
  rawInstances : Record
  rawEquipped : Record

/-- Reads a counter; anything but a positive whole number is one. -/
def readNextInstanceId (value : Option Json) : Nat :=
  match value with
  | some (.num number) => if number.den = 1 ∧ 0 < number then number.num.toNat else 1
  | _ => 1

/-- Reads a stored inventory. -/
def readStored (value : Option Json) : Option StoredInventory :=
  (value.bind asObject?).bind fun record =>
    ((record.get? "instances").bind asObject?).bind fun rawInstances =>
      ((record.get? "equipped").bind asObject?).map fun rawEquipped =>
        { nextInstanceId := readNextInstanceId (record.get? "nextInstanceId"), rawInstances, rawEquipped }

/-- Adds a stored instance, if it can be read. -/
def addStored (instances : Instances) (field : String × Json) : Instances :=
  match readInstance field.1 field.2 with
  | none => instances
  | some found => instances.put field.1 found

/-- The inventory that a value has been stored for. -/
def parseItemInventory (value : Option Json) (fallbackSlots : ItemSlots) : ItemInventory :=
  match readStored value with
  | none => createItemInventoryFromSlots fallbackSlots
  | some stored =>
    let instances := stored.rawInstances.foldl addStored Instances.empty
    { nextInstanceId := stored.nextInstanceId
      instances
      equipped := fun slot =>
        ((stored.rawEquipped.get? slot.name).bind Json.string?).bind fun instanceId =>
          if instances.has instanceId then some instanceId else none }

/-- The value that an instance is stored as. -/
def serializeInstance (value : ItemInstance) : Json :=
  .obj [("itemKey", .str value.itemKey),
    ("state", .obj ((value.state.charges.map fun charges => ("charges", Json.num charges)).toList ++
      [("values", .obj value.state.values)]))]

/-- The value that an inventory is stored as. -/
def serializeItemInventory (inventory : ItemInventory) : Json :=
  .obj [("nextInstanceId", .num inventory.nextInstanceId),
    ("instances", .obj (inventory.instances.own.entries.map fun entry => (entry.1, serializeInstance entry.2))),
    ("equipped", .obj (itemSlots.filterMap fun slot => (inventory.equipped slot).map fun id => (slot.name, .str id)))]

/-! ### The operations -/

/-- The inventory of a general, made from the slots if there is none. -/
def readItemInventory (general : General) : ItemInventory :=
  general.itemInventory.getD (createItemInventoryFromSlots general.items)

/-- The instance id of a slot, unless it is empty. -/
def ItemInventory.instanceId? (inventory : ItemInventory) (slot : ItemSlot) : Option String :=
  (inventory.equipped slot).filter fun id => id ≠ ""

/-- The keys of the equipped items. -/
def projectItemSlots (inventory : ItemInventory) : ItemSlots := fun slot =>
  (inventory.instanceId? slot).bind fun id => (inventory.instances.get? id).map ItemInstance.itemKey

/-- The instance in a slot. -/
def getEquippedItemInstance (general : General) (slot : ItemSlot) : Option ItemInstance :=
  ((readItemInventory general).instanceId? slot).bind fun id => (readItemInventory general).instances.get? id

/-- A double with one added: from 2⁵³ on only even numbers are left, and from 2⁵⁴ on nothing is added. -/
def increment (number : Nat) : Nat :=
  if number < 2 ^ 53 then number + 1 else if number < 2 ^ 54 ∧ number / 2 % 2 = 1 then number + 2 else number

/-- The id of the instance with a number. -/
def instanceIdOf (generalId : Int) (number : Nat) : String := toString generalId ++ ":" ++ toString number

/-- What is left of the instances when the slot is emptied. -/
def withoutInstance (inventory : ItemInventory) (slot : ItemSlot) : Instances :=
  match inventory.instanceId? slot with
  | none => inventory.instances
  | some id => inventory.instances.delete id

/-- Equips a new item, in place of the one in the slot. -/
def equipNewItem (general : General) (slot : ItemSlot) (itemKey : String) (initialState : PartialItemState) :
    General × ItemInstance :=
  let inventory := readItemInventory general
  let id := instanceIdOf general.id inventory.nextInstanceId
  let created : ItemInstance :=
    { id, itemKey, state := { charges := initialState.charges, values := initialState.values.getD [] } }
  ({ general with
     items := Function.update general.items slot (some itemKey)
     itemInventory := some
      { nextInstanceId := increment inventory.nextInstanceId
        instances := (withoutInstance inventory slot).put id created
        equipped := Function.update inventory.equipped slot (some id) } }, created)

/-- Takes an item off. -/
def removeEquippedItem (general : General) (slot : ItemSlot) : General × Option ItemInstance :=
  let inventory := readItemInventory general
  ({ general with
     items := Function.update general.items slot none
     itemInventory := some
      { inventory with
        instances := withoutInstance inventory slot
        equipped := Function.update inventory.equipped slot none } }, getEquippedItemInstance general slot)

/-- Uses an item up by one charge; with the last one it is taken off. -/
def consumeEquippedItemCharge (general : General) (slot : ItemSlot) (itemKey : String) (fallbackCharges : ℚ) :
    General × Bool :=
  let inventory := readItemInventory general
  let kept := { general with itemInventory := some inventory }
  match inventory.instanceId? slot, getEquippedItemInstance general slot with
  | some id, some found =>
    if found.itemKey ≠ itemKey then (kept, false)
    else
      let charges := found.state.charges.getD fallbackCharges
      if 1 < charges then
        let used := { found with state := { found.state with charges := some (charges - 1) } }
        ({ kept with itemInventory := some { inventory with instances := inventory.instances.put id used } }, false)
      else ((removeEquippedItem kept slot).1, true)
  | _, _ => (kept, false)

/-- What may be done with the items of a general. -/
inductive ItemEvent where
  | equip (slot : ItemSlot) (itemKey : String) (initialState : PartialItemState)
  | remove (slot : ItemSlot)
  | consume (slot : ItemSlot) (itemKey : String) (fallbackCharges : ℚ)

/-- What comes back. -/
inductive ItemOutcome where
  | equipped (created : ItemInstance)
  | removed (taken : Option ItemInstance)
  | consumed (usedUp : Bool)

/-- The slot that is concerned. -/
def ItemEvent.slot : ItemEvent → ItemSlot
  | .equip slot _ _ => slot
  | .remove slot => slot
  | .consume slot _ _ => slot

/-- The items of a general, event by event. -/
def itemMachine : StateMachine General ItemEvent ItemOutcome where
  step general
    | .equip slot itemKey initialState =>
      let (next, created) := equipNewItem general slot itemKey initialState
      some (next, .equipped created)
    | .remove slot =>
      let (next, taken) := removeEquippedItem general slot
      some (next, .removed taken)
    | .consume slot itemKey fallbackCharges =>
      let (next, usedUp) := consumeEquippedItemCharge general slot itemKey fallbackCharges
      some (next, .consumed usedUp)

end Sammo.Items
