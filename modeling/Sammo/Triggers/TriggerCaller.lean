import Mathlib
import Sammo.Lib.OrderedMap

/-! Triggers under priorities: what a caller built by adding and merging fires, and in which order. -/

namespace Sammo

/-- A trigger; its action may have effects of its own. -/
structure Trigger (m : Type → Type) (Context Env Arg : Type) where
  priority : ℚ
  uniqueId : String
  action : Context → Env → Option Arg → m Env

/-- The triggers to be fired, by priority and then by their id. -/
structure TriggerCaller (m : Type → Type) (Context Env Arg : Type) where
  triggersByPriority : OrderedMap ℚ (OrderedMap String (Trigger m Context Env Arg))

variable {m : Type → Type} {Context Env Arg : Type}

namespace TriggerCaller

/-- The caller without triggers. -/
def empty : TriggerCaller m Context Env Arg := ⟨.empty⟩

/-- Nothing has been added. -/
def isEmpty (caller : TriggerCaller m Context Env Arg) : Bool := caller.triggersByPriority.keys.isEmpty

/-- Adds a trigger; one with the same priority and id is replaced in its place. -/
def append (caller : TriggerCaller m Context Env Arg) (trigger : Trigger m Context Env Arg) :
    TriggerCaller m Context Env Arg :=
  let bucket := (caller.triggersByPriority.get? trigger.priority).getD .empty
  ⟨caller.triggersByPriority.set trigger.priority (bucket.set trigger.uniqueId trigger)⟩

/-- A caller with some triggers from the start. -/
def create (triggers : List (Trigger m Context Env Arg)) : TriggerCaller m Context Env Arg :=
  triggers.foldl append empty

/-- Takes over the triggers of another caller, priority by priority. -/
def merge (caller other : TriggerCaller m Context Env Arg) : TriggerCaller m Context Env Arg :=
  ⟨caller.triggersByPriority.mergeWith (fun bucket otherBucket => (bucket.getD .empty).merge otherBucket)
    other.triggersByPriority⟩

/-- Takes over the triggers of another caller, if there is one. -/
def mergeNullable (caller : TriggerCaller m Context Env Arg) (other : Option (TriggerCaller m Context Env Arg)) :
    TriggerCaller m Context Env Arg :=
  match other with
  | none => caller
  | some other => caller.merge other

/-- The priorities from low to high. -/
def priorities (caller : TriggerCaller m Context Env Arg) : List ℚ :=
  caller.triggersByPriority.keys.mergeSort fun left right => decide (left ≤ right)

/-- Fires all triggers, each on the environment the one before left. -/
def fire [Monad m] (caller : TriggerCaller m Context Env Arg) (context : Context) (env : Env) (arg : Option Arg) :
    m Env :=
  caller.priorities.foldlM (fun env priority =>
    match caller.triggersByPriority.get? priority with
    | none => pure env
    | some bucket => bucket.entries.foldlM (fun env entry => entry.2.action context env arg) env) env

/-- The triggers of one priority, in the order they are fired. -/
def bucket (caller : TriggerCaller m Context Env Arg) (priority : ℚ) : List (Trigger m Context Env Arg) :=
  match caller.triggersByPriority.get? priority with
  | none => []
  | some bucket => bucket.entries.map Prod.snd

/-- The triggers in the order they are fired. -/
def firingOrder (caller : TriggerCaller m Context Env Arg) : List (Trigger m Context Env Arg) :=
  caller.priorities.flatMap caller.bucket

theorem fire_eq [Monad m] [LawfulMonad m] (caller : TriggerCaller m Context Env Arg) (context : Context) (env : Env)
    (arg : Option Arg) :
    caller.fire context env arg = caller.firingOrder.foldlM (fun env trigger => trigger.action context env arg) env := by
  unfold fire firingOrder
  -- The induction is on the priorities that are still to come.
  induction caller.priorities generalizing env with
  | nil => rfl
  | cons priority rest ih =>
    have now : (match caller.triggersByPriority.get? priority with
        | none => pure env
        | some bucket => bucket.entries.foldlM (fun env entry => entry.2.action context env arg) env) =
        (caller.bucket priority).foldlM (fun env trigger => trigger.action context env arg) env := by
      unfold bucket
      cases caller.triggersByPriority.get? priority with
      | none => rfl
      | some bucket => rw [List.foldlM_map]
    rw [List.foldlM_cons, List.flatMap_cons, List.foldlM_append, now]
    exact bind_congr fun env => ih env

end TriggerCaller

/-- The calls that build a caller. -/
inductive TriggerBuild (m : Type → Type) (Context Env Arg : Type) where
  | create (triggers : List (Trigger m Context Env Arg))
  | append (build : TriggerBuild m Context Env Arg) (trigger : Trigger m Context Env Arg)
  | merge (build other : TriggerBuild m Context Env Arg)
  | mergeNothing (build : TriggerBuild m Context Env Arg)

namespace TriggerBuild

/-- The caller that is built. -/
def run : TriggerBuild m Context Env Arg → TriggerCaller m Context Env Arg
  | .create triggers => .create triggers
  | .append build trigger => build.run.append trigger
  | .merge build other => build.run.mergeNullable (some other.run)
  | .mergeNothing build => build.run.mergeNullable none

/-- The triggers that were added, in the order of their adding; a merged caller's come with the merge. -/
def history : TriggerBuild m Context Env Arg → List (Trigger m Context Env Arg)
  | .create triggers => triggers
  | .append build trigger => build.history ++ [trigger]
  | .merge build other => build.history ++ other.history
  | .mergeNothing build => build.history

end TriggerBuild

/-- What tells triggers apart. -/
def Trigger.key (trigger : Trigger m Context Env Arg) : ℚ × String := (trigger.priority, trigger.uniqueId)

/-- A firing order as the triggers that were added ask for. -/
structure FiresInOrder (history fired : List (Trigger m Context Env Arg)) : Prop where
  /-- No priority and id is fired twice. -/
  once : (fired.map Trigger.key).Nodup
  /-- Every priority and id that was added is fired, and no other. -/
  all : ∀ key, key ∈ fired.map Trigger.key ↔ key ∈ history.map Trigger.key
  /-- Lower priorities come first. -/
  increasing : fired.Pairwise fun left right => left.priority ≤ right.priority
  /-- Within a priority, what was added first comes first. -/
  firstAdded : fired.Pairwise fun left right => left.priority = right.priority →
    (history.map Trigger.key).idxOf left.key < (history.map Trigger.key).idxOf right.key
  /-- The trigger is the last one that was added under its priority and id. -/
  lastAdded : ∀ trigger ∈ fired, ∃ before later, history = before ++ trigger :: later ∧
    trigger.key ∉ later.map Trigger.key

end Sammo
