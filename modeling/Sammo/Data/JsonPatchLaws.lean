import Mathlib.Data.List.Forall2
import Sammo.Data.JsonPatch

/-! Laws of documents and edits: sameness, pointers, and edits of one part of a document. -/

namespace Sammo

namespace Record

theorem get?_set_self (record : Record) (key : String) (value : Json) :
    (record.set key value).get? key = some value := by
  unfold set get?
  induction record with
  | nil => simp
  | cons field rest ih =>
    obtain ⟨name, old⟩ := field
    by_cases named : name = key
    · simp [named]
    · -- The search passes the field by, as the update does.
      have passed : (key == name) = false := by simpa using Ne.symm named
      by_cases later : rest.any (fun field => field.1 == key)
      · simp only [List.any_cons, later, Bool.or_true, if_true] at ih ⊢
        simpa [named, List.lookup_cons, passed] using ih
      · simp only [List.any_cons, later, Bool.or_false] at ih ⊢
        simpa [named, List.lookup_cons, passed] using ih

theorem get?_erase (record : Record) (key other : String) :
    (record.erase key).get? other = if other = key then none else record.get? other := by
  unfold erase get?
  induction record with
  | nil => simp
  | cons field rest ih =>
    obtain ⟨name, old⟩ := field
    by_cases named : name = key
    · subst named
      by_cases same : other = name
      · subst same
        simpa using ih
      · have passed : (other == name) = false := by simpa using same
        simpa [List.lookup_cons, passed, same] using ih
    · by_cases same : other = name
      · subst same
        simp [named]
      · have passed : (other == name) = false := by simpa using same
        simpa [List.lookup_cons, passed, named] using ih

theorem get?_eq_none_iff (record : Record) (key : String) : record.get? key = none ↔ key ∉ record.map Prod.fst := by
  unfold get?
  rw [List.lookup_eq_none_iff]
  constructor
  · intro absent member
    obtain ⟨field, listed, named⟩ := List.mem_map.mp member
    have differs := absent field listed
    simp [named] at differs
  · intro absent field listed
    have differs : key ≠ field.1 := by
      intro named
      exact absent (List.mem_map.mpr ⟨field, listed, named.symm⟩)
    simpa using differs

variable {key : String} {value : Json} {record : Record} {patch : Record}

theorem get?_of_mem (nodup : (record.map Prod.fst).Nodup) (member : (key, value) ∈ record) :
    record.get? key = some value := by
  unfold get?
  induction record with
  | nil => simp at member
  | cons field rest ih =>
    obtain ⟨name, old⟩ := field
    simp only [List.map_cons, List.nodup_cons] at nodup
    rcases List.mem_cons.mp member with same | later
    · simp only [Prod.mk.injEq] at same
      simp [same.1, same.2]
    · -- The name cannot stand at the head too, so the search goes on.
      have differs : key ≠ name := by
        intro same
        exact nodup.1 (List.mem_map.mpr ⟨(key, value), later, same⟩)
      have passed : (key == name) = false := by simpa using differs
      simpa [List.lookup_cons, passed] using ih nodup.2 later

theorem mem_of_get? (found : record.get? key = some value) : (key, value) ∈ record := by
  unfold get? at found
  induction record with
  | nil => simp at found
  | cons field rest ih =>
    obtain ⟨name, old⟩ := field
    by_cases same : key = name
    · subst same
      simp only [List.lookup_cons, beq_self_eq_true, Option.some.injEq] at found
      simp [found]
    · have passed : (key == name) = false := by simpa using same
      simp only [List.lookup_cons, passed] at found
      exact List.mem_cons_of_mem _ (ih found)

/-- Every field of a name has one value, and there is one. -/
structure States (record : Record) (key : String) (value : Json) : Prop where
  there : record.get? key = some value
  only : ∀ other, (key, other) ∈ record → other = value

theorem mem_set {field : String × Json} (member : field ∈ record.set key value) :
    field = (key, value) ∨ field.1 ≠ key ∧ field ∈ record := by
  unfold set at member
  split at member
  · obtain ⟨old, listed, rfl⟩ := List.mem_map.mp member
    by_cases named : old.1 = key
    · simp [named]
    · simp [named, listed]
  · rename_i absent
    rcases List.mem_append.mp member with listed | new
    · refine .inr ⟨fun named => absent ?_, listed⟩
      exact List.any_eq_true.mpr ⟨field, listed, by simp [named]⟩
    · exact .inl (List.mem_singleton.mp new)

theorem States.of_set (record : Record) (key : String) (value : Json) : (record.set key value).States key value := by
  refine ⟨get?_set_self record key value, fun other member => ?_⟩
  rcases mem_set member with new | ⟨differs, _⟩
  · exact (Prod.mk.inj new).2
  · exact absurd rfl differs

theorem States.set {other : String} {new : Json} (stated : record.States key value) (differs : key ≠ other) :
    (record.set other new).States key value := by
  refine ⟨(get?_set_of_ne new differs).trans stated.there, fun read member => ?_⟩
  rcases mem_set member with same | ⟨_, listed⟩
  · exact absurd (Prod.mk.inj same).1 differs
  · exact stated.only read listed

theorem States.merge (stated : record.States key value) (absent : key ∉ patch.map Prod.fst) :
    (Record.merge record patch).States key value := by
  unfold Record.merge
  induction patch generalizing record with
  | nil => exact stated
  | cons field rest ih =>
    rw [List.map_cons, List.mem_cons, not_or] at absent
    exact ih (stated.set absent.1) absent.2

theorem States.laid (stated : patch.States key value) (record : Record) :
    (Record.merge record patch).States key value := by
  have listed := mem_of_get? stated.there
  have only := stated.only
  clear stated
  -- The induction goes through the fields up to the last one of the name.
  induction patch generalizing record with
  | nil => cases listed
  | cons field rest ih =>
    by_cases later : key ∈ rest.map Prod.fst
    · obtain ⟨again, member, named⟩ := List.mem_map.mp later
      have same : (key, again.2) ∈ rest := by
        rw [← named]
        exact member
      have value' := only again.2 (List.mem_cons_of_mem _ same)
      exact ih (record.set field.1 field.2) (value' ▸ same) fun other there => only other (List.mem_cons_of_mem _ there)
    · rcases List.mem_cons.mp listed with first | there
      · subst first
        exact (States.of_set record key value).merge later
      · exact absurd (List.mem_map.mpr ⟨_, there, rfl⟩) later

end Record

theorem Json.Same.refl (document : Json) : document.Same document := by
  -- The parts of a container are the same as themselves, so the container is too.
  induction document using Json.induction with
  | null => exact .null
  | bool value => exact .bool value
  | num value => exact .num value
  | str value => exact .str value
  | arr items ih => exact .arr (List.forall₂_same.mpr ih)
  | obj fields ih =>
    apply Json.Same.obj
    intro key
    cases found : Record.get? fields key with
    | none => exact .none
    | some value => exact .some (ih (key, value) (Record.mem_of_get? found))

@[simp] theorem arrayIndex?_toString (index : Nat) : arrayIndex? (toString index) = some index := by
  have read : Nat.ofDigitChars 10 (toString index).toList 0 = index := by
    rw [Nat.toString_eq_repr, Nat.toList_repr]
    exact Nat.ofDigitChars_toDigits (by decide) (by decide)
  simp only [arrayIndex?, read, if_true]

@[simp] theorem applyEdits_nil (document : Json) : applyEdits [] document = some document := rfl

theorem applyEdits_cons (edit : JsonEdit) (rest : List JsonEdit) (document : Json) :
    applyEdits (edit :: rest) document = (edit.apply document).bind (applyEdits rest) := by
  simp only [applyEdits, List.foldlM_cons]
  rfl

theorem applyEdits_append {first second : List JsonEdit} {document middle : Json}
    (done : applyEdits first document = some middle) :
    applyEdits (first ++ second) document = applyEdits second middle := by
  simp only [applyEdits, List.foldlM_append] at done ⊢
  rw [done]
  rfl

theorem JsonEdit.apply_under (token : String) (edit : JsonEdit) (document : Json) :
    (edit.under token).apply document =
      (document.child? token).bind fun child => (edit.apply child).map (document.setChild token) := by
  simp only [JsonEdit.apply, JsonEdit.under, Json.focus]
  cases document.child? token with
  | none => rfl
  | some child =>
    -- Only whether the edit of the part succeeds is left to decide.
    cases ran : Json.focus edit.change.apply edit.location child with
    | none => simp [ran]
    | some changed => simp [ran]

variable {edits : List JsonEdit}

theorem applyEdits_item {items : List Json} {index : Nat} {item changed : Json}
    (present : items[index]? = some item) (done : applyEdits edits item = some changed) :
    applyEdits (edits.map (·.under (toString index))) (.arr items) = some (.arr (items.set index changed)) := by
  -- Each edit overwrites the item with its own result.
  induction edits generalizing items item with
  | nil =>
    simp only [applyEdits_nil, Option.some.injEq] at done
    obtain ⟨inside, same⟩ := List.getElem?_eq_some_iff.mp present
    rw [← done, ← same, List.set_getElem_self]
    rfl
  | cons edit rest ih =>
    rw [applyEdits_cons] at done
    cases first : edit.apply item with
    | none => simp [first] at done
    | some middle =>
      rw [first, Option.bind_some] at done
      have inside : index < items.length := (List.getElem?_eq_some_iff.mp present).1
      have next : (items.set index middle)[index]? = some middle := by simp [inside]
      have child : (Json.arr items).child? (toString index) = some item := by
        rw [Json.child?, arrayIndex?_toString, Option.bind_some, present]
      rw [List.map_cons, applyEdits_cons, JsonEdit.apply_under, child, Option.bind_some, first]
      simp only [Option.map_some, Option.bind_some, Json.setChild, arrayIndex?_toString]
      rw [ih next done, List.set_set]

theorem applyEdits_member {fields : Record} {key : String} {value changed : Json}
    (present : fields.get? key = some value) (done : applyEdits edits value = some changed) :
    ∃ result : Record, applyEdits (edits.map (·.under key)) (.obj fields) = some (.obj result) ∧
      result.get? key = some changed ∧ ∀ other, other ≠ key → result.get? other = fields.get? other := by
  -- Each edit sets the member to its own result.
  induction edits generalizing fields value with
  | nil =>
    simp only [applyEdits_nil, Option.some.injEq] at done
    refine ⟨fields, rfl, ?_, ?_⟩
    · rw [present, done]
    · intro other _
      rfl
  | cons edit rest ih =>
    rw [applyEdits_cons] at done
    cases first : edit.apply value with
    | none => simp [first] at done
    | some middle =>
      rw [first, Option.bind_some] at done
      obtain ⟨result, ran, named, others⟩ := ih (Record.get?_set_self fields key middle) done
      have child : (Json.obj fields).child? key = some value := present
      refine ⟨result, ?_, named, ?_⟩
      · rw [List.map_cons, applyEdits_cons, JsonEdit.apply_under, child, Option.bind_some, first]
        exact ran
      · intro other differs
        rw [others other differs, Record.get?_set_of_ne middle differs]

end Sammo
