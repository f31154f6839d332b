import Mathlib.Algebra.Order.Field.Rat
import Sammo.Lib.StateMachine

/-! Counters that count charges in windows of time, up to a limit. -/

namespace FixedWindow

variable {κ : Type*} [DecidableEq κ]

/-- What has been charged to a counter in a window, and when the window ends. -/
structure Window where
  count : ℕ
  ends : Int
  deriving DecidableEq

/-- A charge to a counter, which opens a window where there is none. -/
structure Charge (κ : Type*) where
  key : κ
  limit : ℕ
  width : ℕ
  /-- Something may be charged. -/
  limit_pos : 0 < limit
  /-- A window lasts. -/
  width_pos : 0 < width

/-- The windows that have been opened, whether they have ended or not. -/
abbrev Windows (κ : Type*) := κ → Option Window

variable (live : Int → Int → Bool)

/-- The window of a counter, unless it has ended. -/
def current (windows : Windows κ) (now : Int) (key : κ) : Option Window :=
  (windows key).filter fun window => live now window.ends

/-- A counter of the list has reached its limit. -/
def refuses (windows : Windows κ) (now : Int) (charges : List (Charge κ)) : Bool :=
  charges.any fun charge => (current live windows now charge.key).any fun window => charge.limit ≤ window.count

/-- The window of a counter after a charge. -/
def charged (window : Option Window) (now : Int) (charge : Charge κ) : Window :=
  match window with
  | none => ⟨1, now + charge.width⟩
  | some window => ⟨window.count + 1, window.ends⟩

/-- The windows after a charge. -/
def put (now : Int) (windows : Windows κ) (charge : Charge κ) : Windows κ :=
  Function.update windows charge.key (some (charged (current live windows now charge.key) now charge))

/-- A list of charges at a time, which is accepted or not. -/
structure Attempt (κ : Type*) where
  now : Int
  charges : List (Charge κ)
  accepted : Bool

/-- All charges of a list are made or none, and none is made to a counter that has reached its limit. -/
def fixedWindow : StateMachine (Windows κ) (Attempt κ) Unit where
  step windows attempt :=
    if attempt.accepted then
      if refuses live windows attempt.now attempt.charges then none
      else some (attempt.charges.foldl (put live attempt.now) windows, ())
    else some (windows, ())

/-- What a list of charges adds to a counter. -/
def chargesIn (key : κ) (charges : List (Charge κ)) : ℕ := (charges.filter fun charge => charge.key = key).length

/-- What some attempts add to a counter. -/
def chargesTo (key : κ) (attempts : List (Attempt κ)) : ℕ :=
  (attempts.map fun attempt => if attempt.accepted then chargesIn key attempt.charges else 0).sum

variable {live} {windows : Windows κ} {now : Int} {key : κ}

theorem put_self (windows : Windows κ) (charge : Charge κ) :
    put live now windows charge charge.key = some (charged (current live windows now charge.key) now charge) :=
  Function.update_self ..

variable {charge : Charge κ} {charges : List (Charge κ)} {other : Int → Int → Bool} {window : Window}
  {start final : Windows κ}

theorem put_of_ne (windows : Windows κ) (apart : key ≠ charge.key) :
    put live now windows charge key = windows key :=
  Function.update_of_ne apart _ _

omit [DecidableEq κ] in
theorem charged_pos (window : Option Window) (now : Int) (charge : Charge κ) :
    0 < (charged window now charge).count := by
  cases window <;> exact Nat.succ_pos _

theorem foldl_put_of_notMem (absent : ∀ charge ∈ charges, charge.key ≠ key) :
    charges.foldl (put live now) windows key = windows key := by
  induction charges generalizing windows with
  | nil => rfl
  | cons first rest ih =>
    rw [List.foldl_cons, ih fun charge member => absent charge (List.mem_cons_of_mem _ member)]
    exact put_of_ne windows (absent first List.mem_cons_self).symm

omit [DecidableEq κ] in
theorem refuses_congr
    (same : ∀ charge ∈ charges, current live windows now charge.key = current other windows now charge.key) :
    refuses live windows now charges = refuses other windows now charges := by
  induction charges with
  | nil => rfl
  | cons first rest ih =>
    have later := ih fun charge member => same charge (List.mem_cons_of_mem _ member)
    rw [refuses, refuses, List.any_cons, List.any_cons, same first List.mem_cons_self]
    exact congrArg _ later

theorem foldl_put_congr
    (fresh : ∀ width : ℕ, 0 < width → live now (now + width) = true ∧ other now (now + width) = true)
    (same : ∀ charge ∈ charges, current live windows now charge.key = current other windows now charge.key) :
    charges.foldl (put live now) windows = charges.foldl (put other now) windows := by
  induction charges generalizing windows with
  | nil => rfl
  | cons first rest ih =>
    have now_ := same first List.mem_cons_self
    have step : put live now windows first = put other now windows first := by rw [put, put, now_]
    rw [List.foldl_cons, List.foldl_cons, ← step]
    refine ih fun charge member => ?_
    by_cases again : charge.key = first.key
    · -- The window that has just been charged is open for both.
      rw [current, current, again, put_self, Option.filter_some, Option.filter_some]
      cases found : current live windows now first.key with
      | none => rw [charged, (fresh first.width first.width_pos).1, (fresh first.width first.width_pos).2]
      | some window =>
        have open_ := (Option.filter_eq_some_iff.mp found).2
        have openOther := (Option.filter_eq_some_iff.mp (now_ ▸ found)).2
        rw [charged, open_, openOther]
    · have kept := same charge (List.mem_cons_of_mem _ member)
      rw [current, current] at kept ⊢
      rw [put_of_ne windows again]
      exact kept

theorem foldl_put (present : windows key = some window) (open_ : live now window.ends = true) :
    charges.foldl (put live now) windows key = some ⟨window.count + chargesIn key charges, window.ends⟩ := by
  induction charges generalizing windows window with
  | nil => exact present
  | cons first rest ih =>
    rw [List.foldl_cons]
    by_cases same : first.key = key
    · -- The window is still open, so the charge is added to it.
      have found : current live windows now first.key = some window := by
        rw [current, same, present, Option.filter_some, if_pos open_]
      have after : put live now windows first key = some ⟨window.count + 1, window.ends⟩ := by
        rw [← same, put_self, found]
        rfl
      rw [ih after open_, chargesIn, chargesIn, List.filter_cons_of_pos (by simpa using same), List.length_cons]
      rw [Nat.add_assoc, Nat.add_comm 1]
    · have kept : put live now windows first key = some window := by
        rw [put_of_ne windows (Ne.symm same), present]
      rw [ih kept open_, chargesIn, chargesIn, List.filter_cons_of_neg (by simpa using same)]

theorem chargesIn_le_one (key : κ) (distinct : (charges.map Charge.key).Nodup) : chargesIn key charges ≤ 1 := by
  induction charges with
  | nil => exact Nat.zero_le 1
  | cons first rest ih =>
    obtain ⟨fresh, distinctRest⟩ := List.nodup_cons.mp distinct
    by_cases same : first.key = key
    · -- The rest does not name the counter again.
      have none_ : rest.filter (fun charge => charge.key = key) = [] := by
        rw [List.filter_eq_nil_iff]
        intro charge member again
        exact fresh (List.mem_map.mpr ⟨charge, member, (of_decide_eq_true again).trans same.symm⟩)
      rw [chargesIn, List.filter_cons_of_pos (by simpa using same), none_]
      exact Nat.le_refl 1
    · rw [chargesIn, List.filter_cons_of_neg (by simpa using same)]
      exact ih distinctRest

theorem exists_charge (some_ : chargesIn key charges ≠ 0) : ∃ charge ∈ charges, charge.key = key := by
  obtain ⟨charge, member⟩ := List.exists_mem_of_ne_nil _ (List.ne_nil_of_length_pos (Nat.pos_of_ne_zero some_))
  obtain ⟨listed, same⟩ := List.mem_filter.mp member
  exact ⟨charge, listed, of_decide_eq_true same⟩

theorem chargesTo_append (first second : List (Attempt κ)) :
    chargesTo key (first ++ second) = chargesTo key first + chargesTo key second := by
  rw [chargesTo, List.map_append, List.sum_append]
  rfl

theorem step_cases {attempt : Attempt κ} {next : Windows κ} {output : Unit}
    (stepped : (fixedWindow live).step windows attempt = some (next, output)) :
    (attempt.accepted = false ∧ next = windows) ∨
    (attempt.accepted = true ∧ refuses live windows attempt.now attempt.charges = false ∧
      next = attempt.charges.foldl (put live attempt.now) windows) := by
  unfold fixedWindow at stepped
  dsimp only at stepped
  split at stepped
  · rename_i accepted
    split at stepped
    · cases stepped
    · rename_i free
      exact .inr ⟨accepted, Bool.eq_false_iff.mpr free, (congrArg Prod.fst (Option.some.inj stepped)).symm⟩
  · rename_i refused
    exact .inl ⟨Bool.eq_false_iff.mpr refused, (congrArg Prod.fst (Option.some.inj stepped)).symm⟩

omit [DecidableEq κ] in
theorem below_limit (free : refuses live windows now charges = false) (member : charge ∈ charges)
    (present : windows charge.key = some window) (open_ : live now window.ends = true) :
    window.count < charge.limit := by
  -- Otherwise this charge would have refused the list.
  by_contra full
  rw [refuses, List.any_eq_false] at free
  refine free charge member ?_
  rw [current, present, Option.filter_some, if_pos open_]
  simpa using full

theorem charges_le {trace : List (Attempt κ × Unit)} {limit : ℕ}
    (run : (fixedWindow live).Run start trace final) (present : start key = some window)
    (within : window.count ≤ limit) (inside : ∀ entry ∈ trace, live entry.1.now window.ends = true)
    (distinct : ∀ entry ∈ trace, (entry.1.charges.map Charge.key).Nodup)
    (limited : ∀ entry ∈ trace, ∀ charge ∈ entry.1.charges, charge.key = key → charge.limit ≤ limit) :
    window.count + chargesTo key (trace.map Prod.fst) ≤ limit ∧
      final key = some ⟨window.count + chargesTo key (trace.map Prod.fst), window.ends⟩ := by
  induction run with
  | nil => exact ⟨within, present⟩
  | @snoc middle final past attempt output _ _ stepped ih =>
    obtain ⟨below, counted⟩ := ih (fun entry member => inside entry (List.mem_append_left _ member))
      (fun entry member => distinct entry (List.mem_append_left _ member))
      (fun entry member => limited entry (List.mem_append_left _ member))
    have last : (attempt, output) ∈ past ++ [(attempt, output)] := List.mem_append_right _ List.mem_cons_self
    have open_ : live attempt.now window.ends = true := inside _ last
    rw [List.map_append, chargesTo_append]
    rcases step_cases stepped with ⟨refused, rfl⟩ | ⟨accepted, free, rfl⟩
    · have added : chargesTo key ([(attempt, output)].map Prod.fst) = 0 := by
        simp [chargesTo, refused]
      rw [added, Nat.add_zero]
      exact ⟨below, counted⟩
    · have added : chargesTo key ([(attempt, output)].map Prod.fst) = chargesIn key attempt.charges := by
        simp [chargesTo, accepted]
      rw [added, foldl_put counted open_, ← Nat.add_assoc]
      refine ⟨?_, rfl⟩
      by_cases none_ : chargesIn key attempt.charges = 0
      · omega
      · -- The counter had not reached the limit of the one charge that was made.
        obtain ⟨charge, member, same⟩ := exists_charge none_
        have once : chargesIn key attempt.charges ≤ 1 := chargesIn_le_one key (distinct _ last)
        have most : charge.limit ≤ limit := limited _ last charge member same
        have present : middle charge.key =
            some ⟨window.count + chargesTo key (past.map Prod.fst), window.ends⟩ := by
          rw [same]
          exact counted
        have room : window.count + chargesTo key (past.map Prod.fst) < charge.limit :=
          below_limit free member present open_
        omega

theorem foldl_put_opens (distinct : (charges.map Charge.key).Nodup) (member : charge ∈ charges)
    (none_ : current live windows now charge.key = none) :
    charges.foldl (put live now) windows charge.key = some ⟨1, now + charge.width⟩ := by
  induction charges generalizing windows with
  | nil => cases member
  | cons first rest ih =>
    obtain ⟨fresh, distinctRest⟩ := List.nodup_cons.mp distinct
    rw [List.foldl_cons]
    rcases List.mem_cons.mp member with rfl | later
    · rw [foldl_put_of_notMem fun other listed same => fresh (List.mem_map.mpr ⟨other, listed, same⟩), put, none_,
        Function.update_self]
      rfl
    · have apart : charge.key ≠ first.key := fun same => fresh (List.mem_map.mpr ⟨charge, later, same⟩)
      refine ih distinctRest later ?_
      rw [current, put_of_ne windows apart]
      exact none_

theorem opened_charges_le {opening : Attempt κ} {during : List (Attempt κ)} {limit : ℕ}
    (run : (fixedWindow live).Run start ((opening :: during).map fun attempt => (attempt, ())) final)
    (accepted : opening.accepted = true) (member : charge ∈ opening.charges)
    (none_ : current live start opening.now charge.key = none)
    (inside : ∀ attempt ∈ during, live attempt.now (opening.now + charge.width) = true)
    (distinct : ∀ attempt ∈ opening :: during, (attempt.charges.map Charge.key).Nodup)
    (limited : ∀ attempt ∈ opening :: during, ∀ other ∈ attempt.charges, other.key = charge.key →
      other.limit ≤ limit) : chargesTo charge.key (opening :: during) ≤ limit := by
  have split : [] ++ (opening, ()) :: during.map (fun attempt => (attempt, ())) =
      (opening :: during).map fun attempt => (attempt, ()) := rfl
  rw [← split] at run
  obtain ⟨before, after, began, -, stepped, rest⟩ := run.split_at
  obtain rfl := began.eq_of_nil
  rcases step_cases stepped with ⟨refused, -⟩ | ⟨-, -, rfl⟩
  · rw [accepted] at refused
    cases refused
  · have once := distinct _ List.mem_cons_self
    have opened := foldl_put_opens once member none_
    have most := limited _ List.mem_cons_self charge member rfl
    have positive := charge.limit_pos
    have below := (charges_le rest opened (show 1 ≤ limit by omega) (List.forall_mem_map.mpr inside)
      (List.forall_mem_map.mpr fun attempt later => distinct attempt (List.mem_cons_of_mem _ later))
      (List.forall_mem_map.mpr fun attempt later => limited attempt (List.mem_cons_of_mem _ later))).1
    have listed : (during.map fun attempt => (attempt, ())).map Prod.fst = during := by
      rw [List.map_map]
      exact List.map_id during
    have first : chargesTo charge.key (opening :: during) =
        chargesIn charge.key opening.charges + chargesTo charge.key during := by
      rw [chargesTo, List.map_cons, List.sum_cons, if_pos accepted]
      rfl
    have single : chargesIn charge.key opening.charges ≤ 1 := chargesIn_le_one charge.key once
    rw [listed] at below
    rw [first]
    dsimp only at below
    omega

end FixedWindow
