/-! Operations on a state that may fail part way, with rules for what their successful ends satisfy. -/

/-- An operation that changes a state and gives a value or an error; an error keeps the changes so far. -/
abbrev Effect (ε σ α : Type) := ExceptT ε (StateM σ) α

namespace Effect

variable {ε σ α β γ : Type}

theorem bind_ok {first : Except ε α} {next : α → Except ε β} {value : β} (done : first >>= next = .ok value) :
    ∃ inner, first = .ok inner ∧ next inner = .ok value := by
  -- An error of the first part would be the error of the whole.
  cases first with
  | error reason => cases done
  | ok inner => exact ⟨inner, rfl, done⟩

theorem map_ok {first : Except ε α} {change : α → β} {value : β} (done : first.map change = .ok value) :
    ∃ inner, first = .ok inner ∧ change inner = value := by
  cases first with
  | error reason => cases done
  | ok inner => exact ⟨inner, rfl, Except.ok.inj done⟩

/-- Runs an operation from a state. -/
def perform (operation : Effect ε σ α) (state : σ) : Except ε α × σ :=
  -- Both layers of the operation are functions of the state.
  Id.run (StateT.run (ExceptT.run operation) state)

/-- Takes over a result that needs no state. -/
def ofExcept (result : Except ε α) : Effect ε σ α :=
  -- An error is thrown with the state as it is.
  match result with
  | .ok value => pure value
  | .error error => throw error

/-- A value changes nothing. -/
@[simp]
theorem perform_pure (value : α) (state : σ) :
    perform (pure value : Effect ε σ α) state = (.ok value, state) := rfl

/-- An error changes nothing. -/
@[simp]
theorem perform_throw (error : ε) (state : σ) :
    perform (throw error : Effect ε σ α) state = (.error error, state) := rfl

/-- Reading gives the state. -/
@[simp]
theorem perform_get (state : σ) : perform (get : Effect ε σ σ) state = (.ok state, state) := rfl

/-- A change applies to the state. -/
@[simp]
theorem perform_modify (change : σ → σ) (state : σ) :
    perform (modify change : Effect ε σ PUnit) state = (.ok ⟨⟩, change state) := rfl

/-- The second operation starts where the first one ended, unless that failed. -/
@[simp]
theorem perform_bind (first : Effect ε σ α) (next : α → Effect ε σ β) (state : σ) :
    perform (first >>= next) state =
      match perform first state with
      | (.ok value, middle) => perform (next value) middle
      | (.error error, middle) => (.error error, middle) := by
  -- Whatever the first operation gives, the bind of the outer layer looks at it.
  change Id.run (StateT.run (ExceptT.run (first >>= next)) state) = _
  simp only [perform, ExceptT.run_bind, StateT.run_bind, Id.run_bind]
  cases outcome : Id.run (StateT.run (ExceptT.run first) state) with
  | mk result middle => cases result <;> rfl

/-- A result that needs no state leaves it. -/
@[simp]
theorem perform_ofExcept (result : Except ε α) (state : σ) :
    perform (ofExcept result : Effect ε σ α) state = (result, state) := by
  cases result <;> rfl

theorem perform_get_bind (next : σ → Effect ε σ β) (state : σ) :
    (get >>= next).perform state = (next state).perform state := rfl

theorem perform_modify_bind (change : σ → σ) (next : PUnit → Effect ε σ β) (state : σ) :
    (modify change >>= next).perform state = (next ⟨⟩).perform (change state) := rfl

variable {next : α → Effect ε σ β} {first : Effect ε σ α} {state final : σ} {result : Except ε α} {value : α}
  {error : ε} {items : List α} {compute : α → Except ε β} {before : σ → Prop} {change : σ → σ}
  {invariant : σ → Prop} {middle : α → σ → Prop} {operation : Effect ε σ α} {stronger : σ → Prop}
  {weaker : α → σ → Prop} {body : α → Effect ε σ PUnit} {after : σ → Prop} {failed : ε → σ → Prop}

theorem perform_bind_ok {value : β} :
    (first >>= next).perform state = (.ok value, final) ↔
      ∃ inner middle, first.perform state = (.ok inner, middle) ∧
        (next inner).perform middle = (.ok value, final) := by
  rw [perform_bind]
  constructor
  · intro done
    split at done
    · next inner middle opened => exact ⟨inner, middle, opened, done⟩
    · cases done
  · rintro ⟨inner, middle, opened, done⟩
    rw [opened]
    exact done

theorem perform_bind_exists {value : β} :
    (∃ final, (first >>= next).perform state = (.ok value, final)) ↔
      ∃ inner middle, first.perform state = (.ok inner, middle) ∧
        ∃ final, (next inner).perform middle = (.ok value, final) := by
  constructor
  · rintro ⟨final, done⟩
    obtain ⟨inner, middle, opened, done⟩ := perform_bind_ok.mp done
    exact ⟨inner, middle, opened, final, done⟩
  · rintro ⟨inner, middle, opened, final, done⟩
    exact ⟨final, perform_bind_ok.mpr ⟨inner, middle, opened, done⟩⟩

theorem perform_ofExcept_bind_ok {value : β} :
    (Effect.ofExcept result >>= next).perform state = (.ok value, final) ↔
      ∃ inner, result = .ok inner ∧ (next inner).perform state = (.ok value, final) := by
  cases result with
  | error reason => simp
  | ok inner => simp

theorem perform_guard_ok {refused : Prop} [Decidable refused] {rest : Effect ε σ α} :
    (if refused then throw error else rest : Effect ε σ α).perform state = (.ok value, final) ↔
      ¬refused ∧ rest.perform state = (.ok value, final) := by
  by_cases refuses : refused
  · simp [refuses]
  · simp [refuses]

/-- The state after a change by a result, if there is one. -/
def settle (result : Except ε α) (change : α → σ → σ) (state : σ) : σ :=
  match result with
  | .ok value => change value state
  | .error _ => state

theorem perform_forM_ofExcept_ok {result : α → Except ε β} {change : α → β → σ → σ} :
    (items.forM fun item => (do
        let value ← Effect.ofExcept (result item)
        modify (change item value) : Effect ε σ PUnit)).perform state = (.ok ⟨⟩, final) ↔
      (∀ item ∈ items, ∃ value, result item = .ok value) ∧
        final = items.foldl (fun state item => settle (result item) (change item) state) state := by
  -- The induction is on the items, from the state that the rounds before have left.
  induction items generalizing state with
  | nil => simp [List.forM, eq_comm]
  | cons item rest ih =>
    rw [List.forall_mem_cons, List.foldl_cons, List.forM, perform_bind_ok]
    cases got : result item with
    | error reason =>
      -- The loop ends at the first result that is missing.
      simp
    | ok value =>
      have first : (do
          let value ← Effect.ofExcept (.ok value)
          modify (change item value) : Effect ε σ PUnit).perform state = (.ok ⟨⟩, change item value state) := rfl
      constructor
      · rintro ⟨⟨⟩, middle, opened, done⟩
        obtain ⟨-, rfl⟩ := Prod.mk.inj (first.symm.trans opened)
        obtain ⟨all, rfl⟩ := ih.mp done
        exact ⟨⟨⟨value, rfl⟩, all⟩, rfl⟩
      · rintro ⟨⟨-, all⟩, rfl⟩
        exact ⟨⟨⟩, _, first, ih.mpr ⟨all, rfl⟩⟩

theorem mapM_ok_iff :
    (∃ results, items.mapM compute = .ok results) ↔ ∀ item ∈ items, ∃ result, compute item = .ok result := by
  induction items with
  | nil => simp [Pure.pure, Except.pure]
  | cons item rest ih =>
    rw [List.forall_mem_cons, ← ih, List.mapM_cons]
    constructor
    · rintro ⟨results, done⟩
      obtain ⟨first, given, done⟩ := bind_ok done
      obtain ⟨others, more, done⟩ := bind_ok done
      exact ⟨⟨first, given⟩, others, more⟩
    · rintro ⟨⟨first, given⟩, others, more⟩
      rw [given, more]
      exact ⟨_, rfl⟩

theorem mapM_ok_mem {results : List β} (done : items.mapM compute = .ok results) :
    (∀ item ∈ items, ∃ result ∈ results, compute item = .ok result) ∧
      ∀ result ∈ results, ∃ item ∈ items, compute item = .ok result := by
  -- The induction is on the items, in the order in which they are computed.
  induction items generalizing results with
  | nil =>
    obtain rfl := Except.ok.inj done
    exact ⟨by simp, by simp⟩
  | cons item rest ih =>
    rw [List.mapM_cons] at done
    obtain ⟨first, given, done⟩ := bind_ok done
    obtain ⟨others, more, done⟩ := bind_ok done
    obtain rfl := Except.ok.inj done
    obtain ⟨forward, backward⟩ := ih more
    constructor
    · intro other member
      rcases List.mem_cons.mp member with rfl | member
      · exact ⟨first, List.mem_cons_self, given⟩
      · obtain ⟨result, listed, computed⟩ := forward other member
        exact ⟨result, List.mem_cons_of_mem _ listed, computed⟩
    · intro result listed
      rcases List.mem_cons.mp listed with rfl | listed
      · exact ⟨item, List.mem_cons_self, given⟩
      · obtain ⟨other, member, computed⟩ := backward result listed
        exact ⟨other, List.mem_cons_of_mem _ member, computed⟩

/-- From every state with the first property, a success ends in a state with the second. -/
def Ensures (before : σ → Prop) (operation : Effect ε σ α) (after : α → σ → Prop) : Prop :=
  -- Nothing is said about an operation that fails.
  ∀ state, before state → ∀ value next, operation.perform state = (.ok value, next) → after value next

theorem Ensures.pure {after : α → σ → Prop} (held : ∀ state, before state → after value state) :
    Ensures before (Pure.pure value : Effect ε σ α) after := by
  intro state start result next performed
  cases performed
  exact held state start

theorem Ensures.throw {after : α → σ → Prop} (error : ε) :
    Ensures before (MonadExcept.throw error : Effect ε σ α) after := by
  intro state _ result next performed
  cases performed

theorem Ensures.modify {after : PUnit → σ → Prop} (changed : ∀ state, before state → after ⟨⟩ (change state)) :
    Ensures before (modify change : Effect ε σ PUnit) after := by
  intro state held result next performed
  cases performed
  exact changed state held

theorem ensures_change (changed : ∀ state, invariant state → invariant (change state)) :
    Ensures invariant (modify change : Effect ε σ PUnit) fun _ => invariant :=
  -- The value says nothing.
  Ensures.modify changed

theorem Ensures.read {next : σ → Effect ε σ β} {after : β → σ → Prop}
    (rest : ∀ state, before state → Ensures (fun current => current = state) (next state) after) :
    Ensures before (get >>= next) after := by
  intro state held result final performed
  rw [perform_bind, perform_get] at performed
  exact rest state held state rfl result final performed

theorem Ensures.bind {after : β → σ → Prop} (opening : Ensures before first middle)
    (rest : ∀ value, Ensures (middle value) (next value) after) : Ensures before (first >>= next) after := by
  intro state held result final performed
  rw [perform_bind] at performed
  -- A success of the whole is a success of the first part.
  cases outcome : first.perform state with
  | mk result' between =>
    cases result' with
    | error error => simp [outcome] at performed
    | ok value =>
      simp only [outcome] at performed
      exact rest value between (opening state held value between outcome) result final performed

theorem Ensures.seq {middle : σ → Prop} {after : β → σ → Prop} (opening : Ensures before first fun _ => middle)
    (rest : ∀ value, Ensures middle (next value) after) : Ensures before (first >>= next) after :=
  -- The property in between says nothing about the value.
  opening.bind rest

theorem ensures_modify_pure {after : α → σ → Prop}
    (changed : ∀ state, before state → after value (change state)) :
    Ensures before (do modify change; Pure.pure value : Effect ε σ α) after := by
  intro state held result next performed
  cases performed
  exact changed state held

theorem Ensures.attempt {after : β → σ → Prop}
    (rest : ∀ value, result = .ok value → Ensures before (next value) after) :
    Ensures before (ofExcept result >>= next) after := by
  intro state held value final performed
  rw [perform_bind, perform_ofExcept] at performed
  cases given : result with
  | error error => simp [given] at performed
  | ok success =>
    simp only [given] at performed
    exact rest success given state held value final performed

theorem Ensures.assuming {fact : Prop} {known : σ → Prop} {after : α → σ → Prop}
    (start : ∀ state, before state → known state ∧ fact) (rest : fact → Ensures known operation after) :
    Ensures before operation after := by
  -- The fact does not depend on the state, so it holds throughout.
  intro state held
  exact rest (start state held).2 state (start state held).1

theorem Ensures.mono {after : α → σ → Prop} (ensured : Ensures before operation after)
    (start : ∀ state, stronger state → before state)
    (finish : ∀ value state, after value state → weaker value state) : Ensures stronger operation weaker :=
  fun state held value next performed => finish value next (ensured state (start state held) value next performed)

theorem Ensures.forM (round : ∀ item ∈ items, Ensures invariant (body item) fun _ => invariant) :
    Ensures invariant (items.forM body) fun _ => invariant := by
  -- The rounds run one after another, each from where the last one ended.
  induction items with
  | nil =>
    intro state held value next performed
    cases performed
    exact held
  | cons item rest ih =>
    refine Ensures.bind (round item List.mem_cons_self) fun _ => ?_
    exact ih fun other member => round other (List.mem_cons_of_mem item member)

theorem Ensures.forM_rest {pending : List α → σ → Prop}
    (round : ∀ item rest, Ensures (pending (item :: rest)) (body item) fun _ => pending rest) :
    Ensures (pending items) (items.forM body) fun _ => pending [] := by
  -- The induction is on the rounds, each of which takes the first one off the list.
  induction items with
  | nil =>
    intro state held value next performed
    cases performed
    exact held
  | cons item rest ih =>
    refine Ensures.bind (round item rest) fun _ => ?_
    exact ih

theorem Ensures.both {before' : σ → Prop} {after after' : α → σ → Prop} (first : Ensures before operation after)
    (second : Ensures before' operation after') :
    Ensures (fun state => before state ∧ before' state) operation
      fun value state => after value state ∧ after' value state := by
  intro state held value next performed
  exact ⟨first state held.1 value next performed, second state held.2 value next performed⟩

/-- From every state with the first property, every end is a state with the second, also after a failure. -/
def Always (before after : σ → Prop) (operation : Effect ε σ α) : Prop :=
  -- A failed operation may have changed the state before it failed.
  ∀ state, before state → after (operation.perform state).2

theorem Always.pure (held : ∀ state, before state → after state) :
    Always before after (Pure.pure value : Effect ε σ α) := held

theorem Always.throw (held : ∀ state, before state → after state) :
    Always before after (MonadExcept.throw error : Effect ε σ α) := held

theorem Always.modify (changed : ∀ state, before state → after (change state)) :
    Always before after (modify change : Effect ε σ PUnit) := changed

theorem Always.read {next : σ → Effect ε σ β}
    (rest : ∀ state, before state → Always (fun current => current = state) after (next state)) :
    Always before after (get >>= next) := by
  intro state held
  rw [perform_bind, perform_get]
  exact rest state held state rfl

theorem Always.bind {middle : σ → Prop} (opening : Always before middle first)
    (failed : ∀ state, middle state → after state) (rest : ∀ value, Always middle after (next value)) :
    Always before after (first >>= next) := by
  intro state held
  have between := opening state held
  rw [perform_bind]
  cases outcome : first.perform state with
  | mk result reached =>
    rw [outcome] at between
    cases result with
    | error error => exact failed reached between
    | ok value => exact rest value reached between

theorem Always.attempt (failed : ∀ state, before state → after state)
    (rest : ∀ value, result = .ok value → Always before after (next value)) :
    Always before after (ofExcept result >>= next) := by
  intro state held
  rw [perform_bind, perform_ofExcept]
  cases given : result with
  | error error => exact failed state held
  | ok value => exact rest value given state held

theorem Always.mono {weaker : σ → Prop} (always : Always before after operation)
    (start : ∀ state, stronger state → before state) (finish : ∀ state, after state → weaker state) :
    Always stronger weaker operation :=
  fun state held => finish _ (always state (start state held))

theorem Always.seq (opening : Always invariant invariant first)
    (rest : ∀ value, Always invariant invariant (next value)) : Always invariant invariant (first >>= next) :=
  opening.bind (fun _ held => held) rest

theorem Always.discard (always : Always before after operation) :
    Always before after (Functor.discard operation) := by
  -- The value is dropped by going on with another one.
  have dropped : Always before after (operation >>= fun _ => (Pure.pure ⟨⟩ : Effect ε σ PUnit)) :=
    always.bind (fun _ held => held) fun _ => Always.pure fun _ held => held
  exact dropped

theorem Always.forM (round : ∀ item ∈ items, Always invariant invariant (body item)) :
    Always invariant invariant (items.forM body) := by
  -- A round that fails is the last one, and has kept the invariant as well.
  induction items with
  | nil => exact Always.pure fun _ held => held
  | cons item rest ih =>
    apply Always.seq (round item List.mem_cons_self)
    intro _
    exact ih fun other member => round other (List.mem_cons_of_mem item member)

/-- From every state with the first property, a success and a failure each end in states of their kind. -/
def Outcome (before : σ → Prop) (operation : Effect ε σ α) (after : α → σ → Prop) (failed : ε → σ → Prop) :
    Prop :=
  -- Both ends of the operation are spoken of at once.
  (∀ state, before state → ∀ value next, operation.perform state = (.ok value, next) → after value next) ∧
    ∀ state, before state → ∀ error next, operation.perform state = (.error error, next) → failed error next

theorem Outcome.pure {after : α → σ → Prop} (held : ∀ state, before state → after value state) :
    Outcome before (Pure.pure value : Effect ε σ α) after failed := by
  refine ⟨Ensures.pure held, ?_⟩
  intro state _ error next performed
  cases performed

theorem Outcome.throw {after : α → σ → Prop} (held : ∀ state, before state → failed error state) :
    Outcome before (MonadExcept.throw error : Effect ε σ α) after failed := by
  refine ⟨Ensures.throw error, ?_⟩
  intro state start other next performed
  cases performed
  exact held state start

theorem Outcome.modify {after : PUnit → σ → Prop} (changed : ∀ state, before state → after ⟨⟩ (change state)) :
    Outcome before (modify change : Effect ε σ PUnit) after failed := by
  refine ⟨Ensures.modify changed, ?_⟩
  intro state _ error next performed
  cases performed

theorem Outcome.read {next : σ → Effect ε σ β} {after : β → σ → Prop}
    (rest : ∀ state, before state → Outcome (fun current => current = state) (next state) after failed) :
    Outcome before (get >>= next) after failed := by
  refine ⟨Ensures.read fun state held => (rest state held).1, ?_⟩
  intro state held error final performed
  rw [perform_bind, perform_get] at performed
  exact (rest state held).2 state rfl error final performed

theorem Outcome.bind {after : β → σ → Prop} (opening : Outcome before first middle failed)
    (rest : ∀ value, Outcome (middle value) (next value) after failed) :
    Outcome before (first >>= next) after failed := by
  refine ⟨Ensures.bind opening.1 fun value => (rest value).1, ?_⟩
  intro state held error final performed
  rw [perform_bind] at performed
  cases outcome : first.perform state with
  | mk result reached =>
    rw [outcome] at performed
    cases result with
    | error other =>
      -- The second operation is not begun.
      obtain ⟨same, end_⟩ := Prod.mk.inj performed
      cases same
      subst end_
      exact opening.2 state held _ reached outcome
    | ok value => exact (rest value).2 reached (opening.1 state held value reached outcome) error final performed

theorem Outcome.attempt {after : β → σ → Prop}
    (ended : ∀ error, result = .error error → ∀ state, before state → failed error state)
    (rest : ∀ value, result = .ok value → Outcome before (next value) after failed) :
    Outcome before (ofExcept result >>= next) after failed := by
  refine ⟨Ensures.attempt fun value given => (rest value given).1, ?_⟩
  intro state held error next performed
  rw [perform_bind, perform_ofExcept] at performed
  cases given : result with
  | error other =>
    rw [given] at performed
    obtain ⟨same, end_⟩ := Prod.mk.inj performed
    cases same
    subst end_
    exact ended _ given state held
  | ok value =>
    rw [given] at performed
    exact (rest value given).2 state held error next performed

theorem Outcome.ofExcept {after : α → σ → Prop}
    (succeeded : ∀ value, result = .ok value → ∀ state, before state → after value state)
    (ended : ∀ error, result = .error error → ∀ state, before state → failed error state) :
    Outcome before (Effect.ofExcept result) after failed := by
  cases given : result with
  | error error => exact Outcome.throw (ended error given)
  | ok value => exact Outcome.pure (succeeded value given)

theorem Outcome.mono {after : α → σ → Prop} {looser : ε → σ → Prop}
    (outcome : Outcome before operation after failed) (start : ∀ state, stronger state → before state)
    (finish : ∀ value state, after value state → weaker value state)
    (loosen : ∀ error state, failed error state → looser error state) :
    Outcome stronger operation weaker looser := by
  constructor
  · exact fun state held value next performed =>
      finish value next (outcome.1 state (start state held) value next performed)
  · exact fun state held error next performed =>
      loosen error next (outcome.2 state (start state held) error next performed)

end Effect
