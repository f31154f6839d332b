import Sammo.Data.JsonPatchLaws

/-! Documents that differ in the order of members only, and edits that do not see the difference. -/

namespace Sammo

namespace Json

theorem Same.symm {left right : Json} (same : left.Same right) : right.Same left := by
  induction left using Json.induction generalizing right with
  | arr items ih =>
    cases same with
    | arr parts =>
      apply Same.arr
      -- The items correspond one by one, in either direction.
      induction parts with
      | nil => exact .nil
      | cons first rest later =>
        have tail := later fun item member => ih item (List.mem_cons_of_mem _ member)
        exact .cons (ih _ List.mem_cons_self first) tail
  | obj fields ih =>
    cases same with
    | obj parts =>
      apply Same.obj
      intro key
      have part := parts key
      cases found : Record.get? fields key with
      | none =>
        rw [found] at part
        generalize Record.get? _ key = other at part ⊢
        cases part
        exact .none
      | some value =>
        rw [found] at part
        generalize Record.get? _ key = other at part ⊢
        cases part with
        | some inner => exact .some (ih (key, value) (Record.mem_of_get? found) inner)
  | _ =>
    cases same
    constructor

theorem Same.trans {first second third : Json} (before : first.Same second) (after : second.Same third) :
    first.Same third := by
  induction first using Json.induction generalizing second third with
  | arr items ih =>
    cases before with
    | arr earlier =>
      cases after with
      | @arr _ last later =>
        apply Same.arr
        induction earlier generalizing last with
        | nil => exact later
        | cons head rest tail =>
          cases later with
          | cons next others =>
            have follow := tail (fun item member => ih item (List.mem_cons_of_mem _ member)) others
            exact .cons (ih _ List.mem_cons_self head next) follow
  | obj fields ih =>
    cases before with
    | obj earlier =>
      cases after with
      | obj later =>
        apply Same.obj
        intro key
        have early := earlier key
        have late := later key
        cases found : Record.get? fields key with
        | none =>
          rw [found] at early
          generalize Record.get? _ key = middle at early late
          cases early
          exact late
        | some value =>
          rw [found] at early
          generalize Record.get? _ key = middle at early late
          cases early with
          | some inner =>
            generalize Record.get? _ key = last at late
            cases late with
            | some outer => exact .some (ih (key, value) (Record.mem_of_get? found) inner outer)
  | _ =>
    cases before
    exact after

theorem Same.child? {left right : Json} (same : left.Same right) (token : String) :
    Option.Rel Same (left.child? token) (right.child? token) := by
  cases same with
  | obj parts => exact parts token
  | arr parts =>
    simp only [Json.child?]
    cases arrayIndex? token with
    | none => exact .none
    | some index =>
      -- Items at the same place correspond.
      show Option.Rel Same (_[index]?) (_[index]?)
      induction parts generalizing index with
      | nil => exact .none
      | cons first rest ih =>
        cases index with
        | zero => exact .some first
        | succ index => exact ih index
  | _ => exact .none

theorem forall₂_set {left right : List Json} (parts : List.Forall₂ Same left right) (index : Nat)
    {value other : Json} (same : value.Same other) : List.Forall₂ Same (left.set index value) (right.set index other) := by
  induction parts generalizing index with
  | nil => exact .nil
  | cons first rest ih =>
    cases index with
    | zero => exact .cons same rest
    | succ index => exact .cons first (ih index)

theorem Same.obj_set {left right : Record} (parts : ∀ key, Option.Rel Same (left.get? key) (right.get? key))
    (token : String) {value other : Json} (same : value.Same other) :
    Same (.obj (left.set token value)) (.obj (right.set token other)) := by
  apply Same.obj
  intro key
  by_cases named : key = token
  · subst named
    rw [Record.get?_set_self, Record.get?_set_self]
    exact .some same
  · rw [Record.get?_set_of_ne value named, Record.get?_set_of_ne other named]
    exact parts key

theorem Same.setChild {left right : Json} (same : left.Same right) (token : String) {value other : Json}
    (part : value.Same other) : (left.setChild token value).Same (right.setChild token other) := by
  cases same with
  | obj parts => exact Same.obj_set parts token part
  | arr parts =>
    simp only [Json.setChild]
    cases arrayIndex? token with
    | none => exact .arr parts
    | some index => exact .arr (forall₂_set parts index part)
  | _ => constructor

end Json

/-- A change that finds the same in documents that are the same. -/
def Respects (change : Json → Option Json) : Prop :=
  ∀ left right : Json, left.Same right → Option.Rel Json.Same (change left) (change right)

theorem rel_bind {first second : Option Json} {next other : Json → Option Json}
    (related : Option.Rel Json.Same first second)
    (follow : ∀ left right, left.Same right → Option.Rel Json.Same (next left) (other right)) :
    Option.Rel Json.Same (first.bind next) (second.bind other) := by
  cases related with
  | none => exact .none
  | some same => exact follow _ _ same

theorem forall₂_insertIdx {left right : List Json} (parts : List.Forall₂ Json.Same left right) (index : Nat)
    (value : Json) : List.Forall₂ Json.Same (left.insertIdx index value) (right.insertIdx index value) := by
  induction parts generalizing index with
  | nil =>
    cases index with
    | zero => exact .cons (.refl value) .nil
    | succ index => exact .nil
  | cons first rest ih =>
    cases index with
    | zero => exact .cons (.refl value) (.cons first rest)
    | succ index => exact .cons first (ih index)

theorem forall₂_eraseIdx {left right : List Json} (parts : List.Forall₂ Json.Same left right) (index : Nat) :
    List.Forall₂ Json.Same (left.eraseIdx index) (right.eraseIdx index) := by
  induction parts generalizing index with
  | nil => exact .nil
  | cons first rest ih =>
    cases index with
    | zero => exact rest
    | succ index => exact .cons first (ih index)

theorem respects_addChild (token : String) (value : Json) : Respects (Json.addChild token value) := by
  intro left right same
  cases same with
  | obj parts => exact .some (Json.Same.obj_set parts token (.refl value))
  | arr parts =>
    simp only [Json.addChild]
    split
    · exact .some (.arr (List.rel_append parts (.cons (.refl value) .nil)))
    · cases arrayIndex? token with
      | none => exact .none
      | some index =>
        simp only [Option.bind_eq_bind, Option.bind_some, parts.length_eq]
        split
        · exact .some (.arr (forall₂_insertIdx parts index value))
        · exact .none
  | _ => exact .none

theorem respects_removeChild (token : String) : Respects (Json.removeChild token) := by
  intro left right same
  cases same with
  | @obj left right parts =>
    have there : (left.get? token).isSome = (right.get? token).isSome := by
      have part := parts token
      generalize left.get? token = first, right.get? token = second at part
      cases part <;> rfl
    simp only [Json.removeChild, there]
    split
    · apply Option.Rel.some
      apply Json.Same.obj
      intro key
      rw [Record.get?_erase, Record.get?_erase]
      split
      · exact .none
      · exact parts key
    · exact .none
  | arr parts =>
    simp only [Json.removeChild]
    cases arrayIndex? token with
    | none => exact .none
    | some index =>
      simp only [Option.bind_eq_bind, Option.bind_some, parts.length_eq]
      split
      · exact .some (.arr (forall₂_eraseIdx parts index))
      · exact .none
  | _ => exact .none

theorem respects_focus {change : Json → Option Json} (respects : Respects change) (location : List String) :
    Respects (Json.focus change location) := by
  induction location with
  | nil => exact respects
  | cons token rest ih =>
    intro left right same
    simp only [Json.focus, Option.bind_eq_bind]
    apply rel_bind (same.child? token)
    intro child other part
    apply rel_bind (ih child other part)
    intro changed result whole
    exact .some (same.setChild token whole)

theorem respects_edit (edit : JsonEdit) : Respects edit.apply := by
  apply respects_focus
  cases edit.change with
  | add token value => exact respects_addChild token value
  | remove token => exact respects_removeChild token
  | replace value =>
    intro left right _
    exact .some (.refl value)

theorem applyEdits_same (edits : List JsonEdit) : Respects (applyEdits edits) := by
  induction edits with
  | nil =>
    intro left right same
    exact .some same
  | cons edit rest ih =>
    intro left right same
    rw [applyEdits_cons, applyEdits_cons]
    exact rel_bind (respects_edit edit left right same) ih

end Sammo
