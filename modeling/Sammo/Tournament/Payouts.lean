import Sammo.Lib.ProRata
import Sammo.Tournament.Bracket

/-! What the bets on a tournament pay depends on the stakes alone, and shares out the whole pot. -/

namespace Sammo.Tournament

/-- What a general has staked on a target is what its bets on it add up to; so for any choice of generals and targets. -/
def staked (chosen : Int → Int → Bool) : List TournamentBet → Int
  | [] => 0
  | entry :: rest => (if chosen entry.generalId entry.targetId then entry.amount else 0) + staked chosen rest

/-- What a general has staked on a target. -/
def stake (generalId targetId : Int) (entries : List TournamentBet) : Int :=
  staked (fun general target => general = generalId ∧ target = targetId) entries

/-- What all have staked on a target. -/
def backing (targetId : Int) (entries : List TournamentBet) : Int := staked (fun _ target => target = targetId) entries

/-- What all have staked. -/
def pot (entries : List TournamentBet) : Int := staked (fun _ _ => true) entries

/-- Who has bet on whom. -/
def TournamentBet.pair (entry : TournamentBet) : Int × Int := (entry.generalId, entry.targetId)

variable {chosen : Int → Int → Bool} {entries : List TournamentBet} {winnerId : Int}

theorem staked_append (chosen : Int → Int → Bool) (entries more : List TournamentBet) :
    staked chosen (entries ++ more) = staked chosen entries + staked chosen more := by
  induction entries with
  | nil => simp [staked]
  | cons entry rest ih =>
    simp only [List.cons_append, staked, ih]
    omega

theorem staked_map_other {generalId targetId : Int} (amount : Int) (absent : (generalId, targetId) ∉ entries.map TournamentBet.pair) :
    staked chosen (entries.map fun other =>
      if other.generalId = generalId ∧ other.targetId = targetId then { other with amount := other.amount + amount }
      else other) = staked chosen entries := by
  induction entries with
  | nil => rfl
  | cons entry rest ih =>
    obtain ⟨notFirst, notLater⟩ := not_or.mp (List.mem_cons.not.mp absent)
    have other : ¬ (entry.generalId = generalId ∧ entry.targetId = targetId) := by
      rintro ⟨rfl, rfl⟩
      exact notFirst rfl
    simp only [List.map_cons, if_neg other, staked, ih notLater]

theorem staked_aggregateBet (once : (entries.map TournamentBet.pair).Nodup) (entry : TournamentBet) :
    staked chosen (aggregateBet entries entry) =
      staked chosen entries + if chosen entry.generalId entry.targetId then entry.amount else 0 := by
  unfold aggregateBet
  split
  · rename_i known
    simp only [List.any_eq_true, decide_eq_true_eq] at known
    induction entries with
    | nil =>
      obtain ⟨_, member, _⟩ := known
      cases member
    | cons first rest ih =>
      obtain ⟨fresh, onceLater⟩ := List.nodup_cons.mp once
      by_cases same : first.generalId = entry.generalId ∧ first.targetId = entry.targetId
      · -- No other bet is of this pair.
        have absent : (entry.generalId, entry.targetId) ∉ rest.map TournamentBet.pair := by
          rw [← same.1, ← same.2]
          exact fresh
        rw [List.map_cons, if_pos same]
        simp only [staked, staked_map_other entry.amount absent, same.1, same.2]
        split
        · ring
        · ring
      · have later : ∃ other ∈ rest, other.generalId = entry.generalId ∧ other.targetId = entry.targetId := by
          obtain ⟨other, member, meets⟩ := known
          rcases List.mem_cons.mp member with rfl | member
          · exact absurd meets same
          · exact ⟨other, member, meets⟩
        simp only [List.map_cons, if_neg same, staked, ih onceLater later]
        omega
  · rw [staked_append]
    simp only [staked]
    omega

theorem aggregateBet_once (once : (entries.map TournamentBet.pair).Nodup) (entry : TournamentBet) :
    ((aggregateBet entries entry).map TournamentBet.pair).Nodup ∧
      ∀ pair, pair ∈ (aggregateBet entries entry).map TournamentBet.pair ↔ pair ∈ entries.map TournamentBet.pair ∨ pair = entry.pair := by
  have kept : (entries.map fun other =>
      if other.generalId = entry.generalId ∧ other.targetId = entry.targetId then
        { other with amount := other.amount + entry.amount }
      else other).map TournamentBet.pair = entries.map TournamentBet.pair := by
    rw [List.map_map]
    apply List.map_congr_left
    intro other _
    simp only [Function.comp]
    split <;> rfl
  unfold aggregateBet
  split
  · rename_i known
    simp only [List.any_eq_true, decide_eq_true_eq] at known
    obtain ⟨other, member, general, target⟩ := known
    rw [kept]
    refine ⟨once, fun pair => ⟨.inl, ?_⟩⟩
    rintro (before | rfl)
    · exact before
    · exact List.mem_map.mpr ⟨other, member, Prod.ext general target⟩
  · rename_i unknown
    simp only [List.any_eq_true, decide_eq_true_eq] at unknown
    have fresh : entry.pair ∉ entries.map TournamentBet.pair := by
      intro member
      obtain ⟨other, among, same⟩ := List.mem_map.mp member
      exact unknown ⟨other, among, congrArg Prod.fst same, congrArg Prod.snd same⟩
    rw [List.map_append]
    refine ⟨List.nodup_append.mpr ⟨once, List.nodup_singleton _, ?_⟩, fun pair => by simp⟩
    intro pair before other isEntry same
    rw [List.map_singleton, List.mem_singleton] at isEntry
    exact fresh (isEntry ▸ same ▸ before)

/-- The bets added up by pairs: every pair once, with everything that was staked. -/
structure AddedUp (entries normalized : List TournamentBet) : Prop where
  once : (normalized.map TournamentBet.pair).Nodup
  pairs : ∀ pair, pair ∈ normalized.map TournamentBet.pair ↔ pair ∈ entries.map TournamentBet.pair
  stakes : ∀ chosen, staked chosen normalized = staked chosen entries

theorem foldl_aggregateBet (entries : List TournamentBet) : AddedUp entries (entries.foldl aggregateBet []) := by
  have general (more before normalized : List TournamentBet) (added : AddedUp before normalized) :
      AddedUp (before ++ more) (more.foldl aggregateBet normalized) := by
    induction more generalizing before normalized with
    | nil => simpa using added
    | cons entry more ih =>
      have next : AddedUp (before ++ [entry]) (aggregateBet normalized entry) := by
        obtain ⟨once, pairs⟩ := aggregateBet_once added.once entry
        refine ⟨once, fun pair => ?_, fun chosen => ?_⟩
        · rw [pairs, added.pairs]
          simp
        · rw [staked_aggregateBet added.once, added.stakes, staked_append]
          simp [staked]
      simpa using ih (before ++ [entry]) (aggregateBet normalized entry) next
  exact general entries [] [] ⟨List.nodup_nil, fun _ => Iff.rfl, fun _ => rfl⟩

/-- The pairs of the bets with what is staked on each. -/
def stakes (entries : List TournamentBet) : List ((Int × Int) × Int) :=
  (entries.foldl aggregateBet []).map fun entry => (entry.pair, entry.amount)

theorem staked_eq_sum (chosen : Int → Int → Bool) (entries : List TournamentBet) :
    staked chosen entries = ((entries.map fun entry => (entry.pair, entry.amount)).map fun one =>
      if chosen one.1.1 one.1.2 then one.2 else 0).sum := by
  induction entries with
  | nil => rfl
  | cons entry rest ih =>
    simp only [staked, ih, List.map_cons, List.sum_cons]
    rfl

theorem stake_cons (generalId targetId : Int) (entry : TournamentBet) (rest : List TournamentBet) :
    stake generalId targetId (entry :: rest) =
      (if entry.generalId = generalId ∧ entry.targetId = targetId then entry.amount else 0) +
        stake generalId targetId rest := by
  simp only [stake, staked, decide_eq_true_eq]

theorem stake_absent (pair : Int × Int) (missing : pair ∉ entries.map TournamentBet.pair) :
    stake pair.1 pair.2 entries = 0 := by
  induction entries with
  | nil => rfl
  | cons other rest ih =>
    obtain ⟨notFirst, notLater⟩ := not_or.mp (List.mem_cons.not.mp missing)
    have apart : ¬ (other.generalId = pair.1 ∧ other.targetId = pair.2) :=
      fun same => notFirst (Prod.ext same.1 same.2).symm
    rw [stake_cons, if_neg apart, ih notLater, add_zero]

theorem stake_of_once (once : (entries.map TournamentBet.pair).Nodup) {entry : TournamentBet} (among : entry ∈ entries) :
    stake entry.generalId entry.targetId entries = entry.amount := by
  induction entries with
  | nil => cases among
  | cons first rest ih =>
    obtain ⟨fresh, onceLater⟩ := List.nodup_cons.mp once
    rcases List.mem_cons.mp among with rfl | later
    · have nothing : stake entry.generalId entry.targetId rest = 0 := stake_absent entry.pair fresh
      rw [stake_cons, if_pos ⟨rfl, rfl⟩, nothing, add_zero]
    · have apart : ¬ (first.generalId = entry.generalId ∧ first.targetId = entry.targetId) := by
        intro same
        exact fresh (List.mem_map.mpr ⟨entry, later, Prod.ext same.1.symm same.2.symm⟩)
      rw [stake_cons, if_neg apart, ih onceLater later, zero_add]

/-- All bets are of something. -/
def Positive (entries : List TournamentBet) : Prop := ∀ entry ∈ entries, 0 < entry.amount

instance (entries : List TournamentBet) : Decidable (Positive entries) :=
  inferInstanceAs (Decidable (∀ entry ∈ entries, 0 < entry.amount))

theorem staked_mono (positive : Positive entries) {wider : Int → Int → Bool}
    (narrower : ∀ general target, chosen general target → wider general target) :
    0 ≤ staked chosen entries ∧ staked chosen entries ≤ staked wider entries := by
  induction entries with
  | nil => simp [staked]
  | cons entry rest ih =>
    obtain ⟨nonneg, below⟩ := ih fun other member => positive other (List.mem_cons_of_mem _ member)
    have amount := positive entry List.mem_cons_self
    simp only [staked]
    by_cases here : chosen entry.generalId entry.targetId
    · rw [if_pos here, if_pos (narrower _ _ here)]
      omega
    · rw [if_neg here]
      split <;> omega

theorem stake_pos_iff (positive : Positive entries) (pair : Int × Int) :
    0 < stake pair.1 pair.2 entries ↔ pair ∈ entries.map TournamentBet.pair := by
  induction entries with
  | nil => simp [stake, staked]
  | cons entry rest ih =>
    have laterPositive : Positive rest := fun other member => positive other (List.mem_cons_of_mem _ member)
    have later := ih laterPositive
    have amount := positive entry List.mem_cons_self
    have nonneg : 0 ≤ stake pair.1 pair.2 rest := (staked_mono laterPositive fun _ _ same => same).1
    rw [stake_cons, List.map_cons, List.mem_cons]
    by_cases here : entry.generalId = pair.1 ∧ entry.targetId = pair.2
    · have same : pair = entry.pair := Prod.ext here.1.symm here.2.symm
      rw [if_pos here]
      exact ⟨fun _ => .inl same, fun _ => by omega⟩
    · have other : pair ≠ entry.pair := fun same => here ⟨(congrArg Prod.fst same).symm, (congrArg Prod.snd same).symm⟩
      rw [if_neg here, zero_add, later]
      exact ⟨.inr, fun either => either.resolve_left other⟩

theorem mem_stakes (positive : Positive entries) (one : (Int × Int) × Int) :
    one ∈ stakes entries ↔ 0 < one.2 ∧ one.2 = stake one.1.1 one.1.2 entries := by
  have added := foldl_aggregateBet entries
  have whole (pair : Int × Int) : stake pair.1 pair.2 (entries.foldl aggregateBet []) = stake pair.1 pair.2 entries :=
    added.stakes _
  constructor
  · intro among
    obtain ⟨entry, member, rfl⟩ := List.mem_map.mp among
    have amount := stake_of_once added.once member
    have pair : entry.pair ∈ entries.map TournamentBet.pair := (added.pairs _).mp (List.mem_map_of_mem member)
    have staked_ := (stake_pos_iff positive entry.pair).mpr pair
    have total := whole entry.pair
    simp only [TournamentBet.pair] at staked_ total ⊢
    rw [amount] at total
    omega
  · rintro ⟨pos, amount⟩
    obtain ⟨pair, sum⟩ := one
    simp only at pos amount
    have among := (added.pairs pair).mpr ((stake_pos_iff positive pair).mp (amount ▸ pos))
    obtain ⟨entry, member, rfl⟩ := List.mem_map.mp among
    have whole_ := (stake_of_once added.once member).symm.trans (whole entry.pair)
    refine List.mem_map.mpr ⟨entry, member, Prod.ext rfl ?_⟩
    exact whole_.trans amount.symm

theorem stakes_once (entries : List TournamentBet) : (stakes entries).Nodup := by
  have once := (foldl_aggregateBet entries).once
  apply List.Nodup.of_map Prod.fst
  rw [stakes, List.map_map]
  exact once

theorem stakes_perm {others : List TournamentBet} (positive : Positive entries) (positiveOthers : Positive others)
    (same : ∀ general target, stake general target others = stake general target entries) :
    (stakes others).Perm (stakes entries) := by
  rw [List.perm_ext_iff_of_nodup (stakes_once others) (stakes_once entries)]
  intro one
  rw [mem_stakes positiveOthers, mem_stakes positive, same]

theorem staked_stakes (chosen : Int → Int → Bool) (entries : List TournamentBet) :
    staked chosen entries = ((stakes entries).map fun one => if chosen one.1.1 one.1.2 then one.2 else 0).sum := by
  rw [← (foldl_aggregateBet entries).stakes, staked_eq_sum]
  rfl

theorem staked_congr {others : List TournamentBet} (positive : Positive entries) (positiveOthers : Positive others)
    (same : ∀ general target, stake general target others = stake general target entries) (chosen : Int → Int → Bool) :
    staked chosen others = staked chosen entries := by
  rw [staked_stakes, staked_stakes]
  exact ((stakes_perm positive positiveOthers same).map _).sum_eq

/-! ### The payouts -/

theorem foldl_amount (entries : List TournamentBet) (start : Int) :
    entries.foldl (fun sum entry => sum + entry.amount) start = start + pot entries := by
  induction entries generalizing start with
  | nil => simp [pot, staked]
  | cons entry rest ih =>
    rw [List.foldl_cons, ih]
    simp only [pot, staked, if_true]
    omega

theorem pot_filter (targetId : Int) (entries : List TournamentBet) :
    pot (entries.filter fun entry => entry.targetId = targetId) = backing targetId entries := by
  induction entries with
  | nil => rfl
  | cons entry rest ih =>
    simp only [pot, backing] at ih ⊢
    by_cases here : entry.targetId = targetId
    · rw [List.filter_cons_of_pos (by simpa using here)]
      simp only [staked, if_true, ih, here, decide_true]
    · rw [List.filter_cons_of_neg (by simpa using here)]
      simp only [staked, ih, decide_eq_true_eq, if_neg here, zero_add]

/-- What a unit staked on the winner is worth. -/
def odds (winnerId : Int) (entries : List TournamentBet) : ℚ := pot entries / backing winnerId entries

theorem buildBettingPayouts_eq (winnerId : Int) (entries : List TournamentBet) :
    buildBettingPayouts winnerId entries =
      if pot entries ≤ 0 ∨ backing winnerId entries ≤ 0 then []
      else ((stakes entries).filter fun one => one.1.2 = winnerId).map fun one =>
        (one.1.1, ProRata.share (odds winnerId entries) one.2) := by
  have added := (foldl_aggregateBet entries).stakes
  have total : (entries.foldl aggregateBet []).foldl (fun sum entry => sum + entry.amount) 0 = pot entries := by
    rw [foldl_amount, zero_add]
    exact added _
  have won : ((entries.foldl aggregateBet []).filter fun entry => entry.targetId = winnerId).foldl
      (fun sum entry => sum + entry.amount) 0 = backing winnerId entries := by
    rw [foldl_amount, zero_add, pot_filter]
    exact added _
  simp only [buildBettingPayouts, total, won]
  split
  · rfl
  · rw [stakes, List.filter_map, List.map_map]
    rfl

theorem backing_le_pot (positive : Positive entries) (winnerId : Int) :
    0 ≤ backing winnerId entries ∧ backing winnerId entries ≤ pot entries :=
  staked_mono positive fun _ _ _ => rfl

theorem stake_le_backing (positive : Positive entries) (generalId winnerId : Int) :
    0 ≤ stake generalId winnerId entries ∧ stake generalId winnerId entries ≤ backing winnerId entries := by
  apply staked_mono positive
  intro general target same
  simp only [decide_eq_true_eq] at same ⊢
  exact same.2

theorem mem_payouts (positive : Positive entries) (paid : Int × Int) :
    paid ∈ buildBettingPayouts winnerId entries ↔ 0 < stake paid.1 winnerId entries ∧
      paid.2 = ProRata.share (odds winnerId entries) (stake paid.1 winnerId entries) := by
  obtain ⟨_, within⟩ := backing_le_pot positive winnerId
  obtain ⟨_, part⟩ := stake_le_backing positive paid.1 winnerId
  rw [buildBettingPayouts_eq]
  split
  · -- Nobody has staked anything on the winner.
    rename_i nothing
    have none_ : ¬ 0 < stake paid.1 winnerId entries := by omega
    simp [none_]
  · rw [List.mem_map]
    constructor
    · rintro ⟨one, among, rfl⟩
      obtain ⟨member, target⟩ := List.mem_filter.mp among
      have target : one.1.2 = winnerId := by simpa using target
      obtain ⟨pos, amount⟩ := (mem_stakes positive one).mp member
      rw [target] at amount
      exact ⟨amount ▸ pos, by rw [amount]⟩
    · rintro ⟨pos, amount⟩
      refine ⟨((paid.1, winnerId), stake paid.1 winnerId entries), List.mem_filter.mpr ⟨?_, by simp⟩, ?_⟩
      · exact (mem_stakes positive _).mpr ⟨pos, rfl⟩
      · exact Prod.ext rfl amount.symm

theorem payouts_once (winnerId : Int) (entries : List TournamentBet) :
    ((buildBettingPayouts winnerId entries).map Prod.fst).Nodup := by
  rw [buildBettingPayouts_eq]
  split
  · exact List.nodup_nil
  · rw [List.map_map]
    have once : ((stakes entries).map Prod.fst).Nodup := by
      rw [stakes, List.map_map]
      exact (foldl_aggregateBet entries).once
    -- Among the bets on one target a pair is known by its general.
    have pairs : (((stakes entries).filter fun one => one.1.2 = winnerId).map Prod.fst).Nodup :=
      once.sublist (List.filter_sublist.map _)
    have general (one other : (Int × Int) × Int)
        (among : one ∈ (stakes entries).filter fun one => one.1.2 = winnerId)
        (amongOther : other ∈ (stakes entries).filter fun one => one.1.2 = winnerId) (same : one.1.1 = other.1.1) :
        one = other := by
      have target := (List.mem_filter.mp among).2
      have targetOther := (List.mem_filter.mp amongOther).2
      simp only [decide_eq_true_eq] at target targetOther
      exact List.inj_on_of_nodup_map pairs among amongOther (Prod.ext same (target.trans targetOther.symm))
    exact List.Nodup.map_on (fun one among other amongOther same => general one other among amongOther same)
      (List.Nodup.of_map _ pairs)

/-- Payouts that are fair to everybody who bet on a winner. -/
structure FairPayouts (winnerId : Int) (entries : List TournamentBet) (payouts : List (Int × Int)) : Prop where
  backers : ∀ general, general ∈ payouts.map Prod.fst ↔ 0 < stake general winnerId entries
  once : (payouts.map Prod.fst).Nodup
  atLeastStake : ∀ paid ∈ payouts, stake paid.1 winnerId entries ≤ paid.2
  monotone : ∀ paid ∈ payouts, ∀ other ∈ payouts,
    stake paid.1 winnerId entries ≤ stake other.1 winnerId entries → paid.2 ≤ other.2
  wholePot : payouts ≠ [] → |((payouts.map Prod.snd).sum : ℚ) - pot entries| ≤ (payouts.length : ℚ) / 2
  nobody : backing winnerId entries = 0 → payouts = []

theorem one_le_odds (positive : Positive entries) (backed : 0 < backing winnerId entries) :
    1 ≤ odds winnerId entries := by
  have within : (backing winnerId entries : ℚ) ≤ pot entries := by exact_mod_cast (backing_le_pot positive winnerId).2
  have pos : (0 : ℚ) < backing winnerId entries := by exact_mod_cast backed
  rw [odds, le_div_iff₀ pos]
  linarith

theorem payouts_sum (paidSomebody : buildBettingPayouts winnerId entries ≠ []) :
    |(((buildBettingPayouts winnerId entries).map Prod.snd).sum : ℚ) - pot entries| ≤
      ((buildBettingPayouts winnerId entries).length : ℚ) / 2 := by
  rw [buildBettingPayouts_eq] at paidSomebody ⊢
  split at paidSomebody
  · exact absurd rfl paidSomebody
  · rename_i backed
    have near := ProRata.sum_share_near (odds winnerId entries) (fun one : (Int × Int) × Int => (one.2 : ℚ))
      ((stakes entries).filter fun one => one.1.2 = winnerId)
    -- The stakes on the winner add up to its backing.
    have sum : (((stakes entries).filter fun one => one.1.2 = winnerId).map fun one => one.2).sum =
        backing winnerId entries := by
      rw [backing, staked_stakes]
      generalize stakes entries = all
      induction all with
      | nil => rfl
      | cons one all ih =>
        by_cases here : one.1.2 = winnerId
        · rw [List.filter_cons_of_pos (by simpa using here)]
          simp [here, ih]
        · rw [List.filter_cons_of_neg (by simpa using here)]
          simp [here, ih]
    have exact_ : (((stakes entries).filter fun one => one.1.2 = winnerId).map fun one => (one.2 : ℚ)).sum =
        backing winnerId entries := by
      rw [← sum, Int.cast_list_sum, List.map_map]
      rfl
    have nonzero : (backing winnerId entries : ℚ) ≠ 0 := by
      have pos : 0 < backing winnerId entries := by omega
      exact_mod_cast pos.ne'
    rw [exact_, odds, mul_div_cancel₀ _ nonzero] at near
    rw [if_neg backed, List.map_map, List.length_map]
    exact near

theorem payouts_fair (positive : Positive entries) (winnerId : Int) :
    FairPayouts winnerId entries (buildBettingPayouts winnerId entries) where
  backers general := by
    rw [List.mem_map]
    constructor
    · rintro ⟨paid, among, rfl⟩
      exact ((mem_payouts positive paid).mp among).1
    · intro backed
      let amount := ProRata.share (odds winnerId entries) (stake general winnerId entries)
      exact ⟨(general, amount), (mem_payouts positive (general, amount)).mpr ⟨backed, rfl⟩, rfl⟩
  once := payouts_once winnerId entries
  atLeastStake paid among := by
    obtain ⟨backed, amount⟩ := (mem_payouts positive paid).mp among
    have part := (stake_le_backing positive paid.1 winnerId).2
    rw [amount]
    exact ProRata.le_share _ backed.le (one_le_odds positive (by omega))
  monotone paid among other amongOther smaller := by
    obtain ⟨backed, amount⟩ := (mem_payouts positive paid).mp among
    have amountOther := ((mem_payouts positive other).mp amongOther).2
    have part := (stake_le_backing positive paid.1 winnerId).2
    have even := one_le_odds positive (by omega : 0 < backing winnerId entries)
    rw [amount, amountOther]
    exact ProRata.share_mono (by linarith) (by exact_mod_cast smaller)
  wholePot := payouts_sum
  nobody nothing := by
    rw [buildBettingPayouts_eq, if_pos (.inr nothing.le)]

theorem payouts_perm {others : List TournamentBet} (positive : Positive entries) (positiveOthers : Positive others)
    (same : ∀ general target, stake general target others = stake general target entries) (winnerId : Int) :
    (buildBettingPayouts winnerId others).Perm (buildBettingPayouts winnerId entries) := by
  have distinct (entries : List TournamentBet) : (buildBettingPayouts winnerId entries).Nodup :=
    List.Nodup.of_map _ (payouts_once winnerId entries)
  have odds_ : odds winnerId others = odds winnerId entries := by
    have total : pot others = pot entries := staked_congr positive positiveOthers same _
    have won : backing winnerId others = backing winnerId entries := staked_congr positive positiveOthers same _
    rw [odds, odds, total, won]
  rw [List.perm_ext_iff_of_nodup (distinct others) (distinct entries)]
  intro paid
  rw [mem_payouts positiveOthers, mem_payouts positive, same, odds_]

theorem payouts_raised (positive : Positive entries) {bet : TournamentBet} (amount : 0 < bet.amount)
    (onWinner : bet.targetId = winnerId) {before after : Int}
    (paidBefore : (bet.generalId, before) ∈ buildBettingPayouts winnerId entries)
    (paidAfter : (bet.generalId, after) ∈ buildBettingPayouts winnerId (entries ++ [bet])) : before ≤ after := by
  have positiveAfter : Positive (entries ++ [bet]) := by
    intro entry among
    rcases List.mem_append.mp among with earlier | last
    · exact positive entry earlier
    · rw [List.mem_singleton.mp last]
      exact amount
  obtain ⟨backed, worthBefore⟩ := (mem_payouts positive _).mp paidBefore
  obtain ⟨-, worthAfter⟩ := (mem_payouts positiveAfter _).mp paidAfter
  -- The bet goes into the stake, into the winner's backing and into the pot.
  have stakeAfter : stake bet.generalId winnerId (entries ++ [bet]) =
      stake bet.generalId winnerId entries + bet.amount := by
    simp [stake, staked_append, staked, onWinner]
  have backingAfter : backing winnerId (entries ++ [bet]) = backing winnerId entries + bet.amount := by
    simp [backing, staked_append, staked, onWinner]
  have potAfter : pot (entries ++ [bet]) = pot entries + bet.amount := by
    simp [pot, staked_append, staked]
  have part := (stake_le_backing positive bet.generalId winnerId).2
  have within := (backing_le_pot positive winnerId).2
  rw [show before = _ from worthBefore, show after = _ from worthAfter]
  apply ProRata.share_le_share
  dsimp only at backed ⊢
  rw [odds, odds, stakeAfter, backingAfter, potAfter]
  generalize stake bet.generalId winnerId entries = mine at backed part ⊢
  generalize backing winnerId entries = won at part within ⊢
  generalize pot entries = total at within ⊢
  generalize bet.amount = more at amount ⊢
  have minePos : (0 : ℚ) < mine := by exact_mod_cast backed
  have mineWon : (mine : ℚ) ≤ won := by exact_mod_cast part
  have wonTotal : (won : ℚ) ≤ total := by exact_mod_cast within
  have morePos : (0 : ℚ) < more := by exact_mod_cast amount
  have wonPos : (0 : ℚ) < won := by linarith
  push_cast
  rw [← mul_div_assoc, ← mul_div_assoc, div_le_div_iff₀ wonPos (by linarith)]
  -- What is gained is the more staked by everybody else.
  have others : 0 ≤ (more : ℚ) * total * (won - mine) :=
    mul_nonneg (mul_nonneg morePos.le (by linarith)) (by linarith)
  have own : 0 ≤ (mine : ℚ) * more * won + more * more * won :=
    add_nonneg (mul_nonneg (mul_nonneg minePos.le morePos.le) wonPos.le)
      (mul_nonneg (mul_nonneg morePos.le morePos.le) wonPos.le)
  linarith [others, own]

/-- Stores a bet: it is added to one of the same general and user on the same target, if there is one. -/
def appendBettingEntry (entry : TournamentBet) : List TournamentBet → List TournamentBet
  | [] => [entry]
  | candidate :: rest =>
    if candidate.generalId = entry.generalId ∧ candidate.targetId = entry.targetId ∧ candidate.userId = entry.userId then
      { candidate with amount := candidate.amount + entry.amount } :: rest
    else candidate :: appendBettingEntry entry rest

theorem staked_appendBettingEntry (chosen : Int → Int → Bool) (entry : TournamentBet) (entries : List TournamentBet) :
    staked chosen (appendBettingEntry entry entries) = staked chosen (entries ++ [entry]) := by
  rw [staked_append]
  induction entries with
  | nil => simp [appendBettingEntry, staked]
  | cons candidate rest ih =>
    simp only [appendBettingEntry]
    split
    · rename_i same
      simp only [staked, same.1, same.2.1, add_zero]
      split <;> ring
    · simp only [staked, add_zero] at ih ⊢
      rw [ih]
      ring

theorem appendBettingEntry_positive {entry : TournamentBet} (amount : 0 < entry.amount) (positive : Positive entries) :
    Positive (appendBettingEntry entry entries) := by
  induction entries with
  | nil =>
    intro other among
    rw [List.mem_singleton.mp among]
    exact amount
  | cons candidate rest ih =>
    have first := positive candidate List.mem_cons_self
    have later : Positive rest := fun other among => positive other (List.mem_cons_of_mem _ among)
    simp only [appendBettingEntry]
    split
    · intro other among
      rcases List.mem_cons.mp among with rfl | among
      · exact add_pos first amount
      · exact later other among
    · intro other among
      rcases List.mem_cons.mp among with rfl | among
      · exact first
      · exact ih later other among

/-- What the bets on a tournament pay: fair shares, by the stakes alone, and more for more. -/
theorem betting_payouts (winnerId : Int) (entries : List TournamentBet) (positive : Positive entries) :
    FairPayouts winnerId entries (buildBettingPayouts winnerId entries) ∧
      (∀ others, Positive others → (∀ general target, stake general target others = stake general target entries) →
        (buildBettingPayouts winnerId others).Perm (buildBettingPayouts winnerId entries)) ∧
      (∀ bet : TournamentBet, 0 < bet.amount →
        (buildBettingPayouts winnerId (appendBettingEntry bet entries)).Perm
          (buildBettingPayouts winnerId (entries ++ [bet])) ∧
        (bet.targetId = winnerId → ∀ before after,
          (bet.generalId, before) ∈ buildBettingPayouts winnerId entries →
          (bet.generalId, after) ∈ buildBettingPayouts winnerId (entries ++ [bet]) → before ≤ after)) := by
  refine ⟨payouts_fair positive winnerId, fun others positiveOthers same =>
    payouts_perm positive positiveOthers same winnerId, fun bet amount => ⟨?_, fun onWinner before after =>
      payouts_raised positive amount onWinner⟩⟩
  apply payouts_perm _ (appendBettingEntry_positive amount positive)
  · intro general target
    exact staked_appendBettingEntry _ bet entries
  · intro entry among
    rcases List.mem_append.mp among with earlier | last
    · exact positive entry earlier
    · rw [List.mem_singleton.mp last]
      exact amount

/-- Three bets of two generals on a winner share a pot of ten. -/
theorem betting_payouts_split :
    buildBettingPayouts 7 [⟨1, none, 7, 2⟩, ⟨2, none, 7, 1⟩, ⟨3, none, 8, 6⟩, ⟨1, none, 7, 1⟩] = [(1, 8), (2, 3)] ∧
      FairPayouts 7 [⟨1, none, 7, 2⟩, ⟨2, none, 7, 1⟩, ⟨3, none, 8, 6⟩, ⟨1, none, 7, 1⟩] [(1, 8), (2, 3)] := by
  have paid : buildBettingPayouts 7 [⟨1, none, 7, 2⟩, ⟨2, none, 7, 1⟩, ⟨3, none, 8, 6⟩, ⟨1, none, 7, 1⟩] =
      [(1, 8), (2, 3)] := by decide +kernel
  exact ⟨paid, paid ▸ (betting_payouts 7 _ (by decide)).1⟩

end Sammo.Tournament
