import Mathlib.Data.List.Induction

/-! Guarded state machines with observed outputs, their runs, and the induction rules for runs. -/

/--
A guarded machine takes one event at a time and says what the outside observed.

An event that is not enabled gives nothing, so a run is a sequence of enabled events.
-/
structure StateMachine (σ ε ο : Type*) where
  /-- The next state and the observation, when the event is enabled. -/
  step : σ → ε → Option (σ × ο)

namespace StateMachine

variable {σ ε ο : Type*} (machine : StateMachine σ ε ο)

/-- Runs whose every step starts in a state, and takes an event, that the guard admits. -/
inductive RunWhile (admits : σ → ε → Prop) : σ → List (ε × ο) → σ → Prop
  | nil (state : σ) : RunWhile admits state [] state
  | snoc {start middle final : σ} {trace : List (ε × ο)} {event : ε} {output : ο} :
      RunWhile admits start trace middle → admits middle event →
      machine.step middle event = some (final, output) →
      RunWhile admits start (trace ++ [(event, output)]) final

/-- Runs with no condition on their steps. -/
def Run : σ → List (ε × ο) → σ → Prop :=
  -- Every event that is enabled may be taken.
  machine.RunWhile fun _ _ => True

/-- Replays a list of events, collecting the observations, while all of them are enabled. -/
def replay (state : σ) : List ε → Option (σ × List (ε × ο))
  | [] => some (state, [])
  | event :: rest =>
    -- The first disabled event ends the replay.
    match machine.step state event with
    | none => none
    | some (next, output) =>
      match replay next rest with
      | none => none
      | some (final, trace) => some (final, (event, output) :: trace)

/-- Every event of a list meets a condition in the state it is taken in. -/
def Guarded (admits : σ → ε → Prop) (state : σ) : List ε → Prop
  | [] => True
  | event :: rest =>
    -- After the first disabled event nothing is taken any more.
    admits state event ∧
      match machine.step state event with
      | none => True
      | some (next, _) => Guarded admits next rest

instance decidableGuarded (admits : σ → ε → Prop) [∀ state event, Decidable (admits state event)] (state : σ) :
    (events : List ε) → Decidable (machine.Guarded admits state events)
  | [] => isTrue trivial
  | event :: rest =>
    have : Decidable (match machine.step state event with
        | none => True
        | some (next, _) => machine.Guarded admits next rest) :=
      match machine.step state event with
      | none => isTrue trivial
      | some (next, _) => decidableGuarded admits next rest
    inferInstanceAs (Decidable (_ ∧ _))

variable {machine}

variable {admits : σ → ε → Prop} {start final : σ} {trace : List (ε × ο)} {first second : List (ε × ο)}
  {events : List ε}

theorem RunWhile.invariant {Inv : List (ε × ο) → σ → Prop} (run : machine.RunWhile admits start trace final)
    (initial : Inv [] start) (preserved : ∀ past state event output next, Inv past state → admits state event →
      machine.step state event = some (next, output) → Inv (past ++ [(event, output)]) next) :
    Inv trace final := by
  -- The run grows at its end, which is where the step rule extends the property.
  induction run with
  | nil => exact initial
  | snoc _ admitted stepped ih => exact preserved _ _ _ _ _ ih admitted stepped

theorem RunWhile.stateInvariant {Inv : σ → Prop} (run : machine.RunWhile admits start trace final)
    (initial : Inv start) (preserved : ∀ state event output next, Inv state → admits state event →
      machine.step state event = some (next, output) → Inv next) : Inv final := by
  -- The trace plays no part, so the trace rule applies with a constant dependence on it.
  let Constant : List (ε × ο) → σ → Prop := fun _ state => Inv state
  have held : Constant trace final := run.invariant initial
    fun _ state event output next held admitted stepped =>
      preserved state event output next held admitted stepped
  exact held

theorem RunWhile.related {Rel : σ → σ → Prop} (run : machine.RunWhile admits start trace final)
    (refl : ∀ state, Rel state state)
    (trans : ∀ {first second third}, Rel first second → Rel second third → Rel first third)
    (stepRel : ∀ state event output next, admits state event →
      machine.step state event = some (next, output) → Rel state next) : Rel start final := by
  -- Each appended step composes one more link onto the chain from the start.
  induction run with
  | nil => exact refl _
  | snoc _ admitted stepped ih => exact trans ih (stepRel _ _ _ _ admitted stepped)

theorem RunWhile.mono {weaker : σ → ε → Prop} (run : machine.RunWhile admits start trace final)
    (weaken : ∀ state event, admits state event → weaker state event) :
    machine.RunWhile weaker start trace final := by
  induction run with
  | nil => exact .nil _
  | snoc _ admitted stepped ih => exact .snoc ih (weaken _ _ admitted) stepped

theorem RunWhile.append {middle : σ} (before : machine.RunWhile admits start first middle)
    (after : machine.RunWhile admits middle second final) :
    machine.RunWhile admits start (first ++ second) final := by
  -- The second run's steps are appended to the first run one at a time.
  induction after with
  | nil => simpa using before
  | snoc _ admitted stepped ih =>
    rw [← List.append_assoc]
    exact .snoc ih admitted stepped

theorem RunWhile.eq_of_nil (run : machine.RunWhile admits start [] final) : start = final := by
  generalize none_ : ([] : List (ε × ο)) = trace at run
  cases run with
  | nil => rfl
  | snoc _ _ _ => simp at none_

theorem RunWhile.split (run : machine.RunWhile admits start (first ++ second) final) :
    ∃ middle, machine.RunWhile admits start first middle ∧
      machine.RunWhile admits middle second final := by
  -- Peel the last step of the run until the second part of the trace is used up.
  induction second using List.reverseRecOn generalizing final with
  | nil => exact ⟨final, by simpa using run, .nil final⟩
  | append_singleton rest last ih =>
    rw [← List.append_assoc] at run
    generalize whole : first ++ rest ++ [last] = trace at run
    cases run with
    | nil => simp at whole
    | snoc earlier admitted stepped =>
      obtain ⟨same, rfl⟩ := List.append_inj' whole rfl |>.imp id List.singleton_inj.mp
      subst same
      obtain ⟨middle, before, after⟩ := ih earlier
      exact ⟨middle, before, .snoc after admitted stepped⟩

theorem RunWhile.split_at {event : ε} {output : ο}
    (run : machine.RunWhile admits start (first ++ (event, output) :: second) final) :
    ∃ before after, machine.RunWhile admits start first before ∧ admits before event ∧
      machine.step before event = some (after, output) ∧
      machine.RunWhile admits after second final := by
  -- Split after the step, then take that step off the end of the first half.
  have regrouped : first ++ (event, output) :: second = (first ++ [(event, output)]) ++ second := by
    simp
  rw [regrouped] at run
  obtain ⟨after, upTo, rest⟩ := run.split
  generalize whole : first ++ [(event, output)] = trace at upTo
  cases upTo with
  | nil => simp at whole
  | snoc earlier admitted stepped =>
    obtain ⟨same, pair⟩ := List.append_inj' whole rfl
    obtain ⟨rfl, rfl⟩ := Prod.mk.inj (List.singleton_inj.mp pair)
    subst same
    exact ⟨_, after, earlier, admitted, stepped, rest⟩

theorem runWhile_of_guarded (guarded : machine.Guarded admits start events)
    (replayed : machine.replay start events = some (final, trace)) :
    machine.RunWhile admits start trace final := by
  -- Each replayed event is a one-step run joined before the replay of the rest.
  induction events generalizing start trace with
  | nil =>
    simp only [replay, Option.some.injEq, Prod.mk.injEq] at replayed
    obtain ⟨rfl, rfl⟩ := replayed
    exact .nil _
  | cons event rest ih =>
    simp only [replay] at replayed
    obtain ⟨admitted, later⟩ := guarded
    cases stepped : machine.step start event with
    | none => simp [stepped] at replayed
    | some result =>
      obtain ⟨next, output⟩ := result
      rw [stepped] at later
      cases replayedLater : machine.replay next rest with
      | none => simp [stepped, replayedLater] at replayed
      | some ending =>
        obtain ⟨last, tail⟩ := ending
        simp only [stepped, replayedLater, Option.some.injEq, Prod.mk.injEq] at replayed
        obtain ⟨rfl, rfl⟩ := replayed
        have single : machine.RunWhile admits start ([] ++ [(event, output)]) next :=
          .snoc (.nil start) admitted stepped
        exact single.append (ih later replayedLater)

theorem guarded_of_forall (admitted : ∀ event ∈ events, ∀ state, admits state event) (start : σ) :
    machine.Guarded admits start events := by
  induction events generalizing start with
  | nil => trivial
  | cons event rest ih =>
    refine ⟨admitted event List.mem_cons_self start, ?_⟩
    split
    · trivial
    · exact ih (fun event member => admitted event (List.mem_cons_of_mem _ member)) _

theorem runWhile_of_replay (admitted : ∀ event ∈ events, ∀ state, admits state event)
    (replayed : machine.replay start events = some (final, trace)) :
    machine.RunWhile admits start trace final :=
  runWhile_of_guarded (guarded_of_forall admitted start) replayed

theorem run_of_replay (replayed : machine.replay start events = some (final, trace)) :
    machine.Run start trace final :=
  runWhile_of_replay (fun _ _ _ => trivial) replayed

end StateMachine
