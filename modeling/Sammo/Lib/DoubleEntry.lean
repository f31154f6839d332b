import Mathlib.Algebra.BigOperators.Group.Finset.Basic
import Mathlib.Algebra.Order.Group.Defs
import Mathlib.Data.Finset.Insert
import Mathlib.Tactic.Abel

/-! Double-entry books between one party and its opponents: every loss of one side is a gain of the other. -/

/-- What one party holds, what it has taken from the others and what it has lost to them. -/
structure Account (G : Type*) where
  stock : G
  taken : G
  lost : G

/-- An account after an exchange of losses. -/
def Account.after {G : Type*} [AddCommGroup G] (account : Account G) (gain loss : G) : Account G :=
  ⟨account.stock - loss, account.taken + gain, account.lost + loss⟩

namespace DoubleEntry

variable {ι G : Type*} [AddCommGroup G]

/-- The books of a hub and its opponents balance: nothing is lost that is not taken, and no stock changes otherwise. -/
structure Balanced (opening books : ι → Account G) (hub : ι) (opponents : Finset ι) : Prop where
  stock : ∀ party, (books party).stock = (opening party).stock - (books party).lost
  hubTaken : (books hub).taken = ∑ party ∈ opponents, (books party).lost
  hubLost : (books hub).lost = ∑ party ∈ opponents, (books party).taken

theorem Balanced.opening {opening : ι → Account G} (hub : ι) (opponents : Finset ι)
    (untouched : ∀ party, (opening party).taken = 0 ∧ (opening party).lost = 0) :
    Balanced opening opening hub opponents := by
  refine ⟨?_, ?_, ?_⟩
  · intro party
    rw [(untouched party).2, sub_zero]
  · rw [(untouched hub).1, Finset.sum_eq_zero fun party _ => (untouched party).2]
  · rw [(untouched hub).2, Finset.sum_eq_zero fun party _ => (untouched party).1]

section Exchange

variable [DecidableEq ι]

/-- The accounts after one exchange between two parties. -/
def exchange (books : ι → Account G) (first second : ι) (firstLoss secondLoss : G) : ι → Account G :=
  Function.update (Function.update books first ((books first).after secondLoss firstLoss)) second
    ((books second).after firstLoss secondLoss)

variable {opening books : ι → Account G} {hub opponent : ι} {opponents : Finset ι} (hubLoss opponentLoss : G)

theorem exchange_hub (distinct : hub ≠ opponent) :
    exchange books hub opponent hubLoss opponentLoss hub = (books hub).after opponentLoss hubLoss := by
  unfold exchange
  rw [Function.update_of_ne distinct, Function.update_self]

theorem exchange_opponent :
    exchange books hub opponent hubLoss opponentLoss opponent = (books opponent).after hubLoss opponentLoss :=
  Function.update_self ..

theorem exchange_other {party : ι} (notHub : party ≠ hub) (notOpponent : party ≠ opponent) :
    exchange books hub opponent hubLoss opponentLoss party = books party := by
  unfold exchange
  rw [Function.update_of_ne notOpponent, Function.update_of_ne notHub]

theorem sum_exchange (books : ι → Account G) (member : opponent ∈ opponents) (notHub : hub ∉ opponents)
    (column : Account G → G) (amount : G)
    (grows : column ((books opponent).after hubLoss opponentLoss) = column (books opponent) + amount) :
    ∑ party ∈ opponents, column (exchange books hub opponent hubLoss opponentLoss party) =
      (∑ party ∈ opponents, column (books party)) + amount := by
  rw [← Finset.add_sum_erase _ _ member, ← Finset.add_sum_erase opponents (fun party => column (books party)) member,
    exchange_opponent, grows]
  have rest : ∑ party ∈ opponents.erase opponent, column (exchange books hub opponent hubLoss opponentLoss party) =
      ∑ party ∈ opponents.erase opponent, column (books party) := by
    apply Finset.sum_congr rfl
    intro party inside
    obtain ⟨notOpponent, opposing⟩ := Finset.mem_erase.mp inside
    have other : party ≠ hub := fun same => notHub (same ▸ opposing)
    rw [exchange_other hubLoss opponentLoss other notOpponent]
  rw [rest]
  abel

theorem Balanced.exchange (balanced : Balanced opening books hub opponents) (member : opponent ∈ opponents)
    (notHub : hub ∉ opponents) :
    Balanced opening (exchange books hub opponent hubLoss opponentLoss) hub opponents := by
  have distinct : hub ≠ opponent := fun same => notHub (same ▸ member)
  refine ⟨?_, ?_, ?_⟩
  · intro party
    by_cases isOpponent : party = opponent
    · subst party
      rw [exchange_opponent]
      simp only [Account.after, balanced.stock opponent]
      abel
    by_cases isHub : party = hub
    · subst party
      rw [exchange_hub hubLoss opponentLoss distinct]
      simp only [Account.after, balanced.stock hub]
      abel
    · rw [exchange_other hubLoss opponentLoss isHub isOpponent]
      exact balanced.stock party
  · have grown := sum_exchange hubLoss opponentLoss books member notHub Account.lost opponentLoss rfl
    rw [grown, exchange_hub hubLoss opponentLoss distinct]
    simp only [Account.after, balanced.hubTaken]
  · have grown := sum_exchange hubLoss opponentLoss books member notHub Account.taken hubLoss rfl
    rw [grown, exchange_hub hubLoss opponentLoss distinct]
    simp only [Account.after, balanced.hubLost]

end Exchange

end DoubleEntry
