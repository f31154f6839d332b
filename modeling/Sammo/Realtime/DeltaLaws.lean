import Mathlib.Data.List.Induction
import Sammo.Data.JsonSame
import Sammo.Realtime.Delta

/-! The patch between two documents turns the first into the second. -/

namespace Sammo

/-- The characters a token is written as in a pointer. -/
def escapedToken (token : List Char) : List Char :=
  token.flatMap fun char => if char = '~' then ['~', '0'] else if char = '/' then ['~', '1'] else [char]

/-- The pointer to a location. -/
def pointer (location : List String) : String := location.foldl appendJsonPointer ""

theorem toList_appendJsonPointer (path token : String) :
    (appendJsonPointer path token).toList = path.toList ++ '/' :: escapedToken token.toList := by
  -- The second replacement finds no slash in what the first one wrote for a tilde.
  have twice : ∀ chars : List Char,
      (chars.flatMap fun char => if char = '~' then ['~', '0'] else [char]).flatMap
        (fun char => if char = '/' then ['~', '1'] else [char]) = escapedToken chars := by
    intro chars
    induction chars with
    | nil => rfl
    | cons char rest ih =>
      simp only [escapedToken, List.flatMap_cons, List.flatMap_append] at ih ⊢
      rw [ih]
      congr 1
      by_cases tilde : char = '~'
      · simp [tilde]
      · simp [tilde]
  simp only [appendJsonPointer, escapeJsonPointerToken, replaceAll, String.toList_append, String.toList_ofList,
    List.append_assoc]
  rw [← twice]
  rfl

theorem readPointer_escapedToken (token rest : List Char) :
    readPointer (escapedToken token ++ rest) = (readPointer rest).map (token.foldr prependChar) := by
  induction token with
  | nil => simp [escapedToken]
  | cons char token ih =>
    -- A tilde and a slash are read from their escapes, any other character from itself.
    have unfolded : readPointer (escapedToken (char :: token) ++ rest) =
        (readPointer (escapedToken token ++ rest)).map (prependChar char) := by
      by_cases tilde : char = '~'
      · subst tilde
        simp [escapedToken, readPointer]
      · by_cases slash : char = '/'
        · subst slash
          simp [escapedToken, readPointer]
        · simp only [escapedToken, List.flatMap_cons, tilde, slash, if_false, List.cons_append]
          exact readPointer.eq_6 char _ slash (by intros; simp_all) (by intros; simp_all) (by intros; simp_all)
    rw [unfolded, ih, Option.map_map]
    rfl

theorem pointerTokens?_pointer (location : List String) : pointerTokens? (pointer location) = some location := by
  -- The pointer is the tokens in their order, each written behind a slash.
  have written : ∀ (tokens : List String) (path : String), (tokens.foldl appendJsonPointer path).toList =
      path.toList ++ tokens.flatMap fun token => '/' :: escapedToken token.toList := by
    intro tokens
    induction tokens with
    | nil => simp
    | cons token rest ih =>
      intro path
      simp [ih, toList_appendJsonPointer, List.append_assoc]
  have emptied : ∀ (token : List Char) (rest : List (List Char)),
      token.foldr prependChar ([] :: rest) = token :: rest := by
    intro token rest
    induction token with
    | nil => rfl
    | cons char token ih => simp [ih, prependChar]
  have read : ∀ tokens : List String,
      readPointer (tokens.flatMap fun token => '/' :: escapedToken token.toList) =
        some ([] :: tokens.map String.toList) := by
    intro tokens
    induction tokens with
    | nil => rfl
    | cons token rest ih =>
      simp only [List.flatMap_cons, List.cons_append]
      rw [readPointer, readPointer_escapedToken, ih]
      simp [emptied]
  unfold pointerTokens? pointer
  rw [written]
  simp only [String.toList_empty, List.nil_append]
  rw [read]
  simp [List.map_map, Function.comp_def]

theorem appendJsonPointer_pointer (location : List String) (token : String) :
    appendJsonPointer (pointer location) token = pointer (location ++ [token]) := by
  simp [pointer]

/-- An edit of the value at a location is an edit of the document. -/
def JsonEdit.within (location : List String) (edit : JsonEdit) : JsonEdit :=
  { edit with location := location ++ edit.location }

/-- Operations that are written for any location stand for edits of the value there. -/
def Describes (operations : String → List JsonPatchOperation) (edits : List JsonEdit) : Prop :=
  ∀ location, (operations (pointer location)).mapM JsonPatchOperation.edit? =
    some (edits.map (·.within location))

theorem Describes.nil : Describes (fun _ => []) [] := by
  intro location
  rfl

theorem Describes.append {first second : String → List JsonPatchOperation} {earlier later : List JsonEdit}
    (before : Describes first earlier) (after : Describes second later) :
    Describes (fun path => first path ++ second path) (earlier ++ later) := by
  intro location
  rw [List.mapM_append, before location, after location, List.map_append]
  rfl

theorem Describes.under {operations : String → List JsonPatchOperation} {edits : List JsonEdit}
    (described : Describes operations edits) (token : String) :
    Describes (fun path => operations (appendJsonPointer path token)) (edits.map (·.under token)) := by
  intro location
  show (operations (appendJsonPointer (pointer location) token)).mapM JsonPatchOperation.edit? = _
  rw [appendJsonPointer_pointer, described (location ++ [token]), List.map_map]
  -- Both sides put the token between the location and the rest of the way.
  congr 2
  funext edit
  simp [JsonEdit.within, JsonEdit.under]

theorem describes_add (token : String) (value : Json) :
    Describes (fun path => [addOperation (appendJsonPointer path token) value]) [⟨[], .add token value⟩] := by
  intro location
  simp [addOperation, appendJsonPointer_pointer, JsonPatchOperation.edit?, pointerTokens?_pointer,
    JsonEdit.within]

theorem describes_remove (token : String) :
    Describes (fun path => [removeOperation (appendJsonPointer path token)]) [⟨[], .remove token⟩] := by
  intro location
  simp [removeOperation, appendJsonPointer_pointer, JsonPatchOperation.edit?, pointerTokens?_pointer,
    JsonEdit.within]

theorem describes_replace (value : Json) :
    Describes (fun path => [replaceOperation path value]) [⟨[], .replace value⟩] := by
  intro location
  simp [replaceOperation, JsonPatchOperation.edit?, pointerTokens?_pointer, JsonEdit.within]

theorem describes_map {α : Type} {operation : α → String → JsonPatchOperation} {edit : α → JsonEdit}
    (described : ∀ element, Describes (fun path => [operation element path]) [edit element]) (elements : List α) :
    Describes (fun path => elements.map fun element => operation element path) (elements.map edit) := by
  induction elements with
  | nil => exact Describes.nil
  | cons element rest ih => exact (described element).append ih

/-- Edits that change a container in place never replace it as a whole. -/
def InPlace (edits : List JsonEdit) : Prop := ∀ edit ∈ edits, ∀ value, edit ≠ ⟨[], .replace value⟩

theorem inPlace_under (edits : List JsonEdit) (token : String) : InPlace (edits.map (·.under token)) := by
  intro edit member value
  obtain ⟨inner, _, rfl⟩ := List.mem_map.mp member
  -- The location has at least the token.
  simp [JsonEdit.under]

theorem InPlace.append {first second : List JsonEdit} (before : InPlace first) (after : InPlace second) :
    InPlace (first ++ second) := by
  intro edit member
  rcases List.mem_append.mp member with early | late
  · exact before edit early
  · exact after edit late

theorem inPlace_map {α : Type} {edit : α → JsonEdit} (changes : ∀ element value, (edit element).change ≠ .replace value)
    (elements : List α) : InPlace (elements.map edit) := by
  intro made member value same
  obtain ⟨element, _, rfl⟩ := List.mem_map.mp member
  exact changes element value (by rw [same])

/-- The operations between two values stand for edits that turn the first into the second. -/
def Transforms (current next : Json) : Prop :=
  ∃ edits result, Describes (appendLinearJsonDiff current next) edits ∧
    applyEdits edits current = some result ∧ result.Same next

/-- The edits moreover change the first value in place. -/
def TransformsInPlace (current next : Json) : Prop :=
  ∃ edits result, Describes (appendLinearJsonDiff current next) edits ∧ InPlace edits ∧
    applyEdits edits current = some result ∧ result.Same next

variable {current next : Json} {fields : Record}

theorem TransformsInPlace.transforms (changed : TransformsInPlace current next) : Transforms current next := by
  obtain ⟨edits, result, described, _, done, same⟩ := changed
  exact ⟨edits, result, described, done, same⟩

theorem diffShared_transforms {current next : List Json}
    (parts : ∀ item ∈ current, ∀ nextItem ∈ next, Transforms item nextItem) (index : Nat) :
    ∃ edits results, Describes (fun path => diffShared current next path index) edits ∧ InPlace edits ∧
      List.Forall₂ Json.Same results (next.take current.length) ∧
      ∀ done : List Json, done.length = index →
        applyEdits edits (.arr (done ++ current)) = some (.arr (done ++ results ++ current.drop next.length)) := by
  -- The induction is on the current array; what has been passed is carried in front of it.
  induction current generalizing next index with
  | nil =>
    refine ⟨[], [], ?_, by simp [InPlace], by simp, ?_⟩
    · intro location
      simp [diffShared]
    · intro done _
      simp
  | cons item current ih =>
    cases next with
    | nil =>
      refine ⟨[], [], ?_, by simp [InPlace], by simp, ?_⟩
      · intro location
        simp [diffShared]
      · intro done _
        simp
    | cons nextItem next =>
      obtain ⟨edits, result, described, done, same⟩ :=
        parts item List.mem_cons_self nextItem List.mem_cons_self
      have later : ∀ other ∈ current, ∀ nextOther ∈ next, Transforms other nextOther := by
        intro other member nextOther nextMember
        exact parts other (List.mem_cons_of_mem _ member) nextOther (List.mem_cons_of_mem _ nextMember)
      obtain ⟨rest, results, restDescribed, restInPlace, restSame, restDone⟩ := ih later (index + 1)
      refine ⟨edits.map (·.under (toString index)) ++ rest, result :: results, ?_,
        (inPlace_under edits _).append restInPlace, ?_, ?_⟩
      · intro location
        simp only [diffShared]
        exact ((described.under (toString index)).append restDescribed) location
      · simpa using ⟨same, restSame⟩
      · intro passed length
        -- The first edits change the item behind what was passed, which then counts as passed too.
        have present : (passed ++ item :: current)[index]? = some item := by simp [← length]
        have changed := applyEdits_item present done
        have moved : (passed ++ item :: current).set index result = (passed ++ [result]) ++ current := by
          simp [← length]
        rw [moved] at changed
        rw [applyEdits_append changed, restDone (passed ++ [result]) (by simp [length])]
        simp

theorem removeTail_applied (kept tail : List Json) :
    ∃ edits, Describes (removeTail (kept.length + tail.length) kept.length) edits ∧ InPlace edits ∧
      applyEdits edits (.arr (kept ++ tail)) = some (.arr kept) := by
  refine ⟨_, describes_map (fun index => describes_remove (toString index)) _, inPlace_map (by simp) _, ?_⟩
  rw [Nat.add_sub_cancel_left]
  -- The item that is removed first is the last one of the tail.
  induction tail using List.reverseRecOn with
  | nil => simp
  | append_singleton tail last ih =>
    rw [List.length_append, List.length_singleton, List.range_succ]
    simp only [List.map_append, List.map_cons, List.map_nil, List.reverse_append, List.reverse_cons,
      List.reverse_nil, List.nil_append, List.singleton_append]
    rw [applyEdits_cons]
    have bounded : kept.length + tail.length < (kept ++ (tail ++ [last])).length := by
      simp only [List.length_append, List.length_singleton]
      omega
    have removed : (kept ++ (tail ++ [last])).eraseIdx (kept.length + tail.length) = kept ++ tail := by
      rw [← List.append_assoc, ← List.length_append, List.eraseIdx_append_of_length_le (Nat.le_refl _)]
      simp
    have first : JsonEdit.apply ⟨[], .remove (toString (kept.length + tail.length))⟩
        (.arr (kept ++ (tail ++ [last]))) = some (.arr (kept ++ tail)) := by
      simp only [JsonEdit.apply, Json.focus, JsonChange.apply, Json.removeChild, arrayIndex?_toString]
      rw [Option.bind_eq_bind, Option.bind_some, if_pos bounded, removed]
    rw [first, Option.bind_some]
    exact ih

theorem appendTail_applied (items added : List Json) :
    ∃ edits, Describes (fun path => added.map fun item => addOperation (appendJsonPointer path "-") item) edits ∧
      InPlace edits ∧ applyEdits edits (.arr items) = some (.arr (items ++ added)) := by
  refine ⟨_, describes_map (fun item => describes_add "-" item) added, inPlace_map (by simp) added, ?_⟩
  induction added generalizing items with
  | nil => simp
  | cons item rest ih =>
    rw [List.map_cons, applyEdits_cons]
    show applyEdits _ (.arr (items ++ [item])) = _
    rw [ih, List.append_assoc, List.singleton_append]

theorem transforms_arr {current next : List Json}
    (parts : ∀ item ∈ current, ∀ nextItem ∈ next, Transforms item nextItem) :
    TransformsInPlace (.arr current) (.arr next) := by
  obtain ⟨shared, results, sharedDescribed, sharedInPlace, same, sharedDone⟩ := diffShared_transforms parts 0
  have changed := sharedDone [] rfl
  rw [List.nil_append, List.nil_append] at changed
  -- At most one of the two arrays has a tail.
  have length : results.length = min current.length next.length := by
    rw [same.length_eq, List.length_take]
  by_cases longer : next.length ≤ current.length
  · have kept : results.length = next.length := by omega
    have total : results.length + (current.drop next.length).length = current.length := by
      rw [List.length_drop]
      omega
    obtain ⟨removals, removalsDescribed, removalsInPlace, removalsDone⟩ :=
      removeTail_applied results (current.drop next.length)
    rw [total, kept] at removalsDescribed
    refine ⟨shared ++ removals, .arr results, ?_, sharedInPlace.append removalsInPlace, ?_, ?_⟩
    · intro location
      have none : next.drop current.length = [] := List.drop_eq_nil_of_le longer
      simp only [appendLinearJsonDiff, objectIs, none, List.map_nil, List.append_nil]
      exact (sharedDescribed.append removalsDescribed) location
    · rw [applyEdits_append changed, removalsDone]
    · rw [List.take_of_length_le longer] at same
      exact .arr same
  · have nothing : current.drop next.length = [] := List.drop_eq_nil_of_le (by omega)
    rw [nothing, List.append_nil] at changed
    obtain ⟨additions, additionsDescribed, additionsInPlace, additionsDone⟩ :=
      appendTail_applied results (next.drop current.length)
    refine ⟨shared ++ additions, .arr (results ++ next.drop current.length), ?_,
      sharedInPlace.append additionsInPlace, ?_, ?_⟩
    · intro location
      have none : removeTail current.length next.length = fun _ => [] := by
        funext path
        simp [removeTail, show current.length - next.length = 0 by omega]
      simp only [appendLinearJsonDiff, objectIs, none, List.append_nil]
      exact (sharedDescribed.append additionsDescribed) location
    · rw [applyEdits_append changed, additionsDone]
    · have tail : List.Forall₂ Json.Same (next.drop current.length) (next.drop current.length) :=
        List.forall₂_same.mpr fun item _ => Json.Same.refl item
      have whole : List.Forall₂ Json.Same (results ++ next.drop current.length)
          (next.take current.length ++ next.drop current.length) := List.rel_append same tail
      rw [List.take_append_drop] at whole
      exact .arr whole

theorem removeMembers_applied {keys : List String} (nodup : keys.Nodup)
    (present : ∀ key ∈ keys, (fields.get? key).isSome) :
    ∃ result : Record, applyEdits (keys.map fun key => ⟨[], .remove key⟩) (.obj fields) = some (.obj result) ∧
      ∀ key, result.get? key = if key ∈ keys then none else fields.get? key := by
  induction keys generalizing fields with
  | nil =>
    refine ⟨fields, rfl, ?_⟩
    intro key
    simp
  | cons key rest ih =>
    rw [List.nodup_cons] at nodup
    -- The members still to be removed are others, so they are still there.
    have remaining : ∀ other ∈ rest, ((fields.erase key).get? other).isSome := by
      intro other member
      have differs : other ≠ key := by
        intro same
        exact nodup.1 (same ▸ member)
      rw [Record.get?_erase, if_neg differs]
      exact present other (List.mem_cons_of_mem _ member)
    obtain ⟨result, ran, looked⟩ := ih nodup.2 remaining
    refine ⟨result, ?_, ?_⟩
    · have first : JsonEdit.apply ⟨[], .remove key⟩ (.obj fields) = some (.obj (fields.erase key)) := by
        simp only [JsonEdit.apply, Json.focus, JsonChange.apply, Json.removeChild]
        rw [if_pos (present key List.mem_cons_self)]
      rw [List.map_cons, applyEdits_cons, first, Option.bind_some, ran]
    · intro other
      rw [looked other, Record.get?_erase]
      by_cases named : other = key
      · simp [named]
      · simp [named]

theorem diffMember_transforms {current : Record} {key : String} {value : Json}
    (part : ∀ old, current.get? key = some old → Transforms old value)
    (here : fields.get? key = current.get? key) :
    ∃ (edits : List JsonEdit) (changed : Json) (middle : Record),
      Describes (fun path => match current.get? key with
        | none => [addOperation (appendJsonPointer path key) value]
        | some old => appendLinearJsonDiff old value (appendJsonPointer path key)) edits ∧ InPlace edits ∧
      applyEdits edits (.obj fields) = some (.obj middle) ∧ middle.get? key = some changed ∧
      changed.Same value ∧ ∀ other, other ≠ key → middle.get? other = fields.get? other := by
  cases found : current.get? key with
  | none =>
    exact ⟨_, value, fields.set key value, describes_add key value, by simp [InPlace], rfl,
      Record.get?_set_self _ _ _, Json.Same.refl value, fun other differs => Record.get?_set_of_ne value differs⟩
  | some old =>
    obtain ⟨edits, changed, described, done, same⟩ := part old found
    rw [found] at here
    obtain ⟨middle, ran, named, others⟩ := applyEdits_member here done
    exact ⟨_, changed, middle, described.under key, inPlace_under edits key, ran, named, same, others⟩

theorem diffMembers_transforms {current next : Record} (nodup : (next.map Prod.fst).Nodup)
    (parts : ∀ key old value, current.get? key = some old → (key, value) ∈ next → Transforms old value)
    (agree : ∀ key ∈ next.map Prod.fst, fields.get? key = current.get? key) :
    ∃ (edits : List JsonEdit) (result : Record), Describes (diffMembers current next) edits ∧ InPlace edits ∧
      applyEdits edits (.obj fields) = some (.obj result) ∧
      (∀ key value, (key, value) ∈ next → Option.Rel Json.Same (result.get? key) (some value)) ∧
      ∀ key, key ∉ next.map Prod.fst → result.get? key = fields.get? key := by
  -- The induction is on the next object; the fields are what the earlier members left.
  induction next generalizing fields with
  | nil =>
    refine ⟨[], fields, ?_, by simp [InPlace], rfl, by simp, by simp⟩
    intro location
    simp [diffMembers]
  | cons field next ih =>
    obtain ⟨key, value⟩ := field
    rw [List.map_cons, List.nodup_cons] at nodup
    obtain ⟨edits, changed, middle, described, inPlace, done, named, same, others⟩ := diffMember_transforms
      (fun old found => parts key old value found List.mem_cons_self) (agree key (by simp))
    have later : ∀ other old otherValue, current.get? other = some old → (other, otherValue) ∈ next →
        Transforms old otherValue := by
      intro other old otherValue found member
      exact parts other old otherValue found (List.mem_cons_of_mem _ member)
    have untouched : ∀ other ∈ next.map Prod.fst, middle.get? other = current.get? other := by
      intro other member
      have differs : other ≠ key := by
        intro same
        exact nodup.1 (same ▸ member)
      rw [others other differs, agree other (List.mem_cons_of_mem _ member)]
    obtain ⟨rest, result, restDescribed, restInPlace, restDone, restSame, restOthers⟩ :=
      ih nodup.2 later untouched
    refine ⟨edits ++ rest, result, ?_, inPlace.append restInPlace, ?_, ?_, ?_⟩
    · intro location
      rw [diffMembers]
      exact (described.append restDescribed) location
    · rw [applyEdits_append done, restDone]
    · intro other otherValue member
      rcases List.mem_cons.mp member with head | tail
      · -- The later members are others, so the first one keeps its value.
        simp only [Prod.mk.injEq] at head
        rw [head.1, head.2, restOthers key nodup.1, named]
        exact .some same
      · exact restSame other otherValue tail
    · intro other absent
      simp only [List.map_cons, List.mem_cons, not_or] at absent
      rw [restOthers other absent.2, others other absent.1]

theorem transforms_obj {current next : Record} (currentNodup : (current.map Prod.fst).Nodup)
    (nextNodup : (next.map Prod.fst).Nodup)
    (parts : ∀ key old value, current.get? key = some old → (key, value) ∈ next → Transforms old value) :
    TransformsInPlace (.obj current) (.obj next) := by
  -- First the members that the next object lacks are removed.
  have present : ∀ key ∈ (current.map Prod.fst).filter (fun key => ¬ (next.map Prod.fst).contains key),
      (current.get? key).isSome := by
    intro key member
    rw [Option.isSome_iff_ne_none]
    intro absent
    exact (Record.get?_eq_none_iff current key).mp absent (List.mem_filter.mp member).1
  obtain ⟨cleared, removed, looked⟩ := removeMembers_applied (currentNodup.filter _) present
  have agree : ∀ key ∈ next.map Prod.fst, cleared.get? key = current.get? key := by
    intro key member
    rw [looked key, if_neg]
    intro filtered
    have missing := (List.mem_filter.mp filtered).2
    simp only [List.contains_iff_mem, decide_eq_true_eq] at missing
    exact missing member
  obtain ⟨edits, result, described, inPlace, done, same, others⟩ :=
    diffMembers_transforms nextNodup parts agree
  have removals := describes_map (fun key => describes_remove key)
    ((current.map Prod.fst).filter fun key => ¬ (next.map Prod.fst).contains key)
  have patched : appendLinearJsonDiff (.obj current) (.obj next) =
      fun path => removeMissing current next path ++ diffMembers current next path := by
    funext path
    simp [appendLinearJsonDiff, objectIs]
  refine ⟨_, .obj result, patched ▸ removals.append described, (inPlace_map (by simp) _).append inPlace, ?_, ?_⟩
  · rw [applyEdits_append removed, done]
  · apply Json.Same.obj
    intro key
    by_cases member : key ∈ next.map Prod.fst
    · obtain ⟨field, listed, named⟩ := List.mem_map.mp member
      obtain ⟨name, value⟩ := field
      simp only at named
      subst named
      rw [Record.get?_of_mem nextNodup listed]
      exact same name value listed
    · -- A member of neither object is absent, and one of the current object alone was removed.
      rw [others key member, looked key, (Record.get?_eq_none_iff next key).mpr member]
      split
      · exact .none
      · rename_i kept
        have absent : key ∉ current.map Prod.fst := by
          intro listed
          exact kept (List.mem_filter.mpr ⟨listed, by simpa using member⟩)
        rw [(Record.get?_eq_none_iff current key).mpr absent]
        exact .none

theorem same_of_objectIs (identical : objectIs current next = true) : current.Same next := by
  unfold objectIs at identical
  split at identical
  · exact .null
  · exact beq_iff_eq.mp identical ▸ .bool _
  · exact beq_iff_eq.mp identical ▸ .num _
  · exact beq_iff_eq.mp identical ▸ .str _
  · cases identical

/-- Both values are arrays, or both are objects. -/
def SameShape : Json → Json → Prop
  | .arr _, .arr _ => True
  | .obj _, .obj _ => True
  | _, _ => False

theorem transforms_replaced (differ : ¬ SameShape current next) : Transforms current next := by
  cases identical : objectIs current next with
  | true =>
    have nothing : appendLinearJsonDiff current next = fun _ => [] := by
      funext path
      rw [appendLinearJsonDiff.eq_def, if_pos identical]
    exact ⟨[], current, nothing ▸ Describes.nil, rfl, same_of_objectIs identical⟩
  | false =>
    have whole : appendLinearJsonDiff current next = fun path => [replaceOperation path next] := by
      funext path
      rw [appendLinearJsonDiff.eq_def, if_neg (by simp [identical])]
      split
      · exact absurd trivial differ
      · exact absurd trivial differ
      · rfl
    exact ⟨_, next, whole ▸ describes_replace next, rfl, Json.Same.refl next⟩

theorem transforms (currentDistinct : current.Distinct) (nextDistinct : next.Distinct) :
    Transforms current next := by
  -- The induction is on the next value, as the recursion of the diff is.
  induction next using Json.induction generalizing current with
  | arr next ih =>
    cases nextDistinct with
    | arr nextParts =>
      cases currentDistinct with
      | arr currentParts =>
        apply TransformsInPlace.transforms
        apply transforms_arr
        intro item member nextItem nextMember
        exact ih nextItem nextMember (currentParts item member) (nextParts nextItem nextMember)
      | _ => exact transforms_replaced not_false
  | obj next ih =>
    cases nextDistinct with
    | obj nextNodup nextParts =>
      cases currentDistinct with
      | obj currentNodup currentParts =>
        apply TransformsInPlace.transforms
        apply transforms_obj currentNodup nextNodup
        intro key old value found member
        exact ih (key, value) member (currentParts (key, old) (Record.mem_of_get? found))
          (nextParts (key, value) member)
      | _ => exact transforms_replaced not_false
  | _ =>
    apply transforms_replaced
    cases current with
    | _ => exact not_false

theorem transformsInPlace (currentDistinct : current.Distinct) (nextDistinct : next.Distinct)
    (shape : SameShape current next) : TransformsInPlace current next := by
  cases currentDistinct with
  | arr currentParts =>
    cases nextDistinct with
    | arr nextParts =>
      apply transforms_arr
      intro item member nextItem nextMember
      exact transforms (currentParts item member) (nextParts nextItem nextMember)
    | _ => exact absurd shape not_false
  | obj currentNodup currentParts =>
    cases nextDistinct with
    | obj nextNodup nextParts =>
      apply transforms_obj currentNodup nextNodup
      intro key old value found member
      exact transforms (currentParts (key, old) (Record.mem_of_get? found)) (nextParts (key, value) member)
    | _ => exact absurd shape not_false
  | _ => exact absurd shape not_false

/--
The patch library changes a document in place as the patch format says.

Only patches that keep the document's root in its place can be applied that way.
-/
def ImplementsPatch (applyPatch : ApplyPatch) : Prop :=
  ∀ operations edits document result, operations.mapM JsonPatchOperation.edit? = some edits → InPlace edits →
    applyEdits edits document = some result →
      applyPatch document operations = .ok (result, operations.map fun _ => none)

theorem applyReadModelDelta_patch {applyPatch : ApplyPatch} (implemented : ImplementsPatch applyPatch)
    {copy : Json} (copied : copy.Same current) (currentDistinct : current.Distinct)
    (nextDistinct : next.Distinct) (shape : SameShape current next) (baseRevision revision : String)
    (sourceRevision : Option String) :
    ∃ applied, applyReadModelDelta applyPatch (some copy) (some baseRevision)
        (.patch baseRevision revision sourceRevision (createJsonPatch current next)) = .ok applied ∧
      applied.data.Same next ∧ applied.revision = revision := by
  obtain ⟨edits, result, described, inPlace, done, same⟩ := transformsInPlace currentDistinct nextDistinct shape
  -- At the root the edits of a value are the edits of the document.
  have read : (createJsonPatch current next).mapM JsonPatchOperation.edit? = some edits := by
    have rooted := described []
    simpa [createJsonPatch, pointer, JsonEdit.within] using rooted
  -- The edits do not see in which order the members of the copy stand.
  have alike := applyEdits_same edits current copy copied.symm
  rw [done] at alike
  cases changed : applyEdits edits copy with
  | none =>
    rw [changed] at alike
    cases alike
  | some reached =>
    rw [changed] at alike
    cases alike with
    | some reachedSame =>
      have patched := implemented _ edits copy reached read inPlace changed
      have clean : ((createJsonPatch current next).map fun _ => (none : Option String)).find?
          Option.isSome = none := by simp
      refine ⟨⟨reached, revision, sourceRevision.filter (· ≠ "")⟩, ?_, reachedSame.symm.trans same, rfl⟩
      simp only [applyReadModelDelta, cloneReadModelJson, patched, ne_eq, not_true, if_false, clean]

/-- A subscriber that has the first document and receives the patch to the second has the second. -/
theorem readModelDelta_round_trip (applyPatch : ApplyPatch) (implemented : ImplementsPatch applyPatch)
    (current next : JsonDocument) (shape : SameShape current.value next.value) (baseRevision revision : String)
    (sourceRevision : Option String) :
    ∃ applied, applyReadModelDelta applyPatch (some current.value) (some baseRevision)
        (.patch baseRevision revision sourceRevision (createJsonPatch current.value next.value)) = .ok applied ∧
      applied.data.Same next.value ∧ applied.revision = revision :=
  -- The copy is the document itself.
  applyReadModelDelta_patch implemented (Json.Same.refl current.value) current.distinct next.distinct shape baseRevision
    revision sourceRevision

/-- A patch library that does exactly what the patch format says. -/
def applyPatchByFormat (document : Json) (operations : List JsonPatchOperation) :
    Except String (Json × List (Option String)) :=
  match applyOperations operations document with
  | some result => .ok (result, operations.map fun _ => none)
  | none => .ok (document, operations.map fun _ => some "MissingError")

theorem applyPatchByFormat_implements : ImplementsPatch applyPatchByFormat := by
  intro operations edits document result read _ done
  simp [applyPatchByFormat, applyOperations, read, done]

/-- A document with escaped keys, a shortened array and a member of another kind. -/
def deltaSource : JsonDocument where
  value := .obj [("a/b", .arr [.num 1, .obj [("~1", .bool true)], .str "x"]), ("gone", .null)]
  distinct := .obj (by decide) (by
    simp only [List.mem_cons, List.not_mem_nil, or_false, forall_eq_or_imp, forall_eq]
    refine ⟨.arr ?_, .null⟩
    simp only [List.mem_cons, List.not_mem_nil, or_false, forall_eq_or_imp, forall_eq]
    exact ⟨.num 1, .obj (by decide) (by simpa using .bool true), .str "x"⟩)

/-- The document the source is turned into. -/
def deltaTarget : JsonDocument where
  value := .obj [("~", .arr []), ("a/b", .arr [.num 1, .obj [("~1", .bool false)]])]
  distinct := .obj (by decide) (by
    simp only [List.mem_cons, List.not_mem_nil, or_false, forall_eq_or_imp, forall_eq]
    refine ⟨.arr (by simp), .arr ?_⟩
    simp only [List.mem_cons, List.not_mem_nil, or_false, forall_eq_or_imp, forall_eq]
    exact ⟨.num 1, .obj (by decide) (by simpa using .bool false)⟩)

/-- The patch between the two documents, applied by the format. -/
theorem readModelDelta_round_trip_escaped :
    ∃ applied, applyReadModelDelta applyPatchByFormat (some deltaSource.value) (some "1")
        (.patch "1" "2" none (createJsonPatch deltaSource.value deltaTarget.value)) = .ok applied ∧
      applied.data.Same deltaTarget.value ∧ applied.revision = "2" := by
  exact readModelDelta_round_trip applyPatchByFormat applyPatchByFormat_implements deltaSource deltaTarget trivial "1"
    "2" none

end Sammo
