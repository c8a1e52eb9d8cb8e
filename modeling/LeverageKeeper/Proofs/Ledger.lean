import LeverageKeeper.Ledger
import LeverageKeeper.Proofs.Outcome

/-!
What an entry does to the book.
-/

namespace LeverageKeeper

namespace Book

/-- The balances that a book stands for. -/
def balances (k : Book) : Balances := ⟨k.collateral, k.debt⟩

variable {k k' : Book} {paid received : ℕ}

lemma sum_eq_error {a b : ℕ} {fault : LedgerFault} {r : Refusal}
    (h : sum a b fault = .error r) : r = .ledger fault := by
  unfold sum at h
  split at h <;> cases h
  rfl

lemma sum_eq_ok {a b c : ℕ} {fault : LedgerFault} (h : sum a b fault = .ok c) :
    c = a + b ∧ a + b < capacity := by
  unfold sum at h
  split at h
  next hlt =>
    cases h
    exact ⟨rfl, hlt⟩
  next => cases h

theorem lever_eq_ok (h : k.lever paid received = .ok k') :
    k' = { k with debt := k.debt + paid, collateral := k.collateral + received } ∧
      k.debt + paid < capacity ∧ k.collateral + received < capacity := by
  unfold lever at h
  simp only [bind_eq_ok, pure_eq_ok] at h
  obtain ⟨_, hd, _, hc, rfl⟩ := h
  obtain ⟨rfl, hlt⟩ := sum_eq_ok hd
  obtain ⟨rfl, hlt'⟩ := sum_eq_ok hc
  exact ⟨rfl, hlt, hlt'⟩

theorem delever_eq_ok {repaid : ℕ} (h : k.delever paid received = .ok (k', repaid)) :
    paid ≤ k.collateral ∧ repaid = Nat.min received k.debt ∧
      k' = { k with
        collateral := k.collateral - paid
        debt := k.debt - repaid
        idle := k.idle + (received - repaid) } ∧
      k.idle + (received - repaid) < capacity := by
  unfold delever at h
  split at h
  · cases h
  next hle =>
    simp only [bind_eq_ok, pure_eq_ok] at h
    obtain ⟨_, hi, h⟩ := h
    cases h
    obtain ⟨rfl, hlt⟩ := sum_eq_ok hi
    exact ⟨Nat.le_of_not_lt hle, rfl, rfl, hlt⟩

end Book

namespace Ledger

variable {l l' : Ledger} {paid received : ℕ}

/-- Balances that can be read at all are those of the book. -/
lemma balances_eq_ok {b : Balances} (h : l.balances = .ok b) : b = l.book.balances := by
  unfold balances unlessOut at h
  split at h
  · cases h
  · split at h <;> cases h
    rfl

/-- An entry is the book's, made under an outage that does not forbid it. -/
theorem commit_eq_ok {d : Direction} (h : l.commit d paid received = .ok l') :
    l.outage.commit = none ∧ ∃ k, l' = l.enter k ∧
      match d with
      | .lever => l.book.lever paid received = .ok k
      | .delever => ∃ repaid, l.book.delever paid received = .ok (k, repaid) := by
  unfold commit unlessOut at h
  split at h
  · cases h
  next ho =>
    cases d with
    | lever =>
      obtain ⟨k, hk, rfl⟩ := map_eq_ok.1 h
      exact ⟨ho, k, rfl, hk⟩
    | delever =>
      obtain ⟨⟨k, repaid⟩, hk, rfl⟩ := map_eq_ok.1 h
      exact ⟨ho, k, rfl, repaid, hk⟩

/-- An entry of a chunk pays no bounty. -/
lemma commit_rewards {d : Direction} (h : l.commit d paid received = .ok l') :
    l'.book.rewards = l.book.rewards := by
  obtain ⟨-, k, rfl, hk⟩ := commit_eq_ok h
  cases d with
  | lever =>
    obtain ⟨rfl, -, -⟩ := Book.lever_eq_ok hk
    rfl
  | delever =>
    obtain ⟨repaid, hk⟩ := hk
    obtain ⟨-, -, rfl, -⟩ := Book.delever_eq_ok hk
    rfl

lemma commit_outage {d : Direction} (h : l.commit d paid received = .ok l') :
    l'.outage = l.outage := by
  obtain ⟨-, k, rfl, -⟩ := commit_eq_ok h
  rfl

lemma payReward_eq_ok {payee : Address} {amount : Decimal} (h : l.payReward payee amount = .ok l') :
    l' = { l with book := l.book.reward payee amount } := by
  unfold payReward unlessOut at h
  split at h <;> cases h
  rfl

lemma payReward_of_none (h : l.outage.reward = none) (payee : Address) (amount : Decimal) :
    l.payReward payee amount = .ok { l with book := l.book.reward payee amount } := by
  unfold payReward unlessOut
  rw [h]

/-- A sale of what is held is entered, unless entries are out of order or there is no room for what
may lie idle. -/
theorem commit_of_held (ho : l.outage.commit = none) (hpaid : paid ≤ l.book.collateral)
    (hidle : l.book.idle + received < Book.capacity) :
    ∃ l', l.commit .delever paid received = .ok l' := by
  have hroom : l.book.idle + (received - Nat.min received l.book.debt) < Book.capacity :=
    Nat.lt_of_le_of_lt (Nat.add_le_add_left (Nat.sub_le _ _) _) hidle
  unfold commit unlessOut Book.delever Book.sum
  rw [ho]
  dsimp only
  rw [if_neg (Nat.not_lt.2 hpaid), if_pos hroom]
  exact ⟨_, rfl⟩

/-- An entry is refused for the ledger's own reasons, and a sale for want of collateral only if it
is larger than what is held. -/
theorem commit_eq_error {d : Direction} {r : Refusal} (h : l.commit d paid received = .error r) :
    ∃ fault, r = .ledger fault ∧
      ∀ sold held, fault = .notHeld sold held → d = .delever ∧ l.book.collateral < paid := by
  unfold commit unlessOut at h
  split at h
  · cases h
    exact ⟨_, rfl, nofun⟩
  · cases d with
    | lever =>
      simp only [map_eq_error, Book.lever, bind_eq_error] at h
      rcases h with h | ⟨_, -, h | ⟨_, -, h⟩⟩
      · exact ⟨_, Book.sum_eq_error h, nofun⟩
      · exact ⟨_, Book.sum_eq_error h, nofun⟩
      · cases h
    | delever =>
      rw [map_eq_error] at h
      unfold Book.delever at h
      split at h
      next hlt =>
        cases h
        exact ⟨_, rfl, fun _ _ _ => ⟨rfl, hlt⟩⟩
      next =>
        simp only [bind_eq_error] at h
        rcases h with h | ⟨_, -, h⟩
        · exact ⟨_, Book.sum_eq_error h, nofun⟩
        · cases h

/-- Whatever comes in shows in the book, as collateral, as debt repaid, or as an idle amount. -/
theorem book_ne_of_commit {d : Direction} (h : l.commit d paid received = .ok l')
    (hr : 0 < received) : l'.book ≠ l.book := by
  obtain ⟨-, k, rfl, hk⟩ := commit_eq_ok h
  intro he
  have he : k = l.book := he
  cases d with
  | lever =>
    obtain ⟨hk, -, -⟩ := Book.lever_eq_ok hk
    have hc := congrArg Book.collateral (hk.symm.trans he)
    simp only at hc
    omega
  | delever =>
    obtain ⟨repaid, hk⟩ := hk
    obtain ⟨-, hrep, hk, -⟩ := Book.delever_eq_ok hk
    have hd := congrArg Book.debt (hk.symm.trans he)
    have hi := congrArg Book.idle (hk.symm.trans he)
    have hrep : repaid = min received l.book.debt := hrep
    simp only at hd hi
    -- where nothing is owed all of it lies idle, and otherwise some debt is gone
    omega

end Ledger

end LeverageKeeper
