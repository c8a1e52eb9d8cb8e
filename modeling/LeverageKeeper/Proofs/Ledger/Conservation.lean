import LeverageKeeper.Proofs.Ledger
import Mathlib.Algebra.BigOperators.Group.List.Basic
import Mathlib.Algebra.Ring.Nat

/-!
What the book holds and owes after any number of entries.  Of the entries that go through a journal
is kept, with what each of them repaid.  By what the journal adds up to, nothing is ever lost: the
collateral is what was there and came in less what was sold, the debt is what was borrowed less what
was repaid, and idle is what came in for collateral less what of it repaid debt.  No amount wraps
around, and an entry that does not go through leaves the book as it is.
-/

namespace LeverageKeeper

/-! ### Entries -/

/-- An entry, with the amounts that it is made for. -/
inductive Entry where
  | lever (borrowed received : ℕ)
  | delever (sold received : ℕ)
  | deposit (amount : ℕ)
  | reward (payee : Address) (amount : Decimal)

namespace Entry

/-- Collateral that comes from outside. -/
@[simp] def supplied : Entry → ℕ
  | .deposit amount => amount
  | _ => 0

@[simp] def borrowed : Entry → ℕ
  | .lever borrowed _ => borrowed
  | _ => 0

/-- Collateral received for what is borrowed. -/
@[simp] def bought : Entry → ℕ
  | .lever _ received => received
  | _ => 0

@[simp] def sold : Entry → ℕ
  | .delever sold _ => sold
  | _ => 0

/-- What is received for the collateral sold. -/
@[simp] def earned : Entry → ℕ
  | .delever _ received => received
  | _ => 0

/-- The bounty that the entry pays, if it pays one. -/
@[simp] def bounties : Entry → List (Address × Decimal)
  | .reward payee amount => [(payee, amount)]
  | _ => []

end Entry

/-- Entries that went through, each with what it repaid. -/
abbrev Journal := List (Entry × ℕ)

namespace Journal

/-- What the entries come to in one respect. -/
def total (j : Journal) (part : Entry → ℕ) : ℕ := (j.map fun x => part x.1).sum

def repaid (j : Journal) : ℕ := (j.map (·.2)).sum

def bounties (j : Journal) : List (Address × Decimal) := j.flatMap (·.1.bounties)

variable (x : Entry × ℕ) (j : Journal) (part : Entry → ℕ)

@[simp] lemma total_nil : total [] part = 0 := rfl

@[simp] lemma total_cons : total (x :: j) part = part x.1 + j.total part := List.sum_cons

@[simp] lemma repaid_nil : repaid [] = 0 := rfl

@[simp] lemma repaid_cons : repaid (x :: j) = x.2 + j.repaid := List.sum_cons

@[simp] lemma bounties_nil : bounties [] = [] := rfl

@[simp] lemma bounties_cons : bounties (x :: j) = x.1.bounties ++ j.bounties := rfl

end Journal

namespace Book

/-- Makes an entry; what it repays comes with the book. -/
def post (k : Book) : Entry → Checked (Book × ℕ)
  | .lever borrowed received => (k.lever borrowed received).map (·, 0)
  | .delever sold received => k.delever sold received
  | .deposit amount => (k.deposit amount).map (·, 0)
  | .reward payee amount => .ok (k.reward payee amount, 0)

/-- The book once an entry has been tried. -/
def next (k : Book) (e : Entry) : Book :=
  match k.post e with
  | .ok (k', _) => k'
  | .error _ => k

/-- The book once some entries have been tried, one after the other. -/
def after (k : Book) (es : List Entry) : Book := es.foldl next k

/-- The journal of the entries that went through. -/
def journal (k : Book) : List Entry → Journal
  | [] => []
  | e :: es =>
    match k.post e with
    | .ok (k', repaid) => (e, repaid) :: k'.journal es
    | .error _ => k.journal es

/-- There is no room for what an entry would bring in, or less is held than it would sell. -/
def Refuses (k : Book) : Entry → Prop
  | .lever borrowed received =>
    capacity ≤ k.debt + borrowed ∨ capacity ≤ k.collateral + received
  | .delever sold received =>
    k.collateral < sold ∨ capacity ≤ k.idle + (received - min received k.debt)
  | .deposit amount => capacity ≤ k.collateral + amount
  | .reward .. => False

/-- Every amount is one that a book can hold. -/
structure Fits (k : Book) : Prop where
  collateral : k.collateral < capacity
  debt : k.debt < capacity
  idle : k.idle < capacity

/-- The book `k'` is what the entries of the journal make of `k`. -/
structure Follows (k : Book) (j : Journal) (k' : Book) : Prop where
  collateral : k'.collateral + j.total Entry.sold
    = k.collateral + j.total Entry.supplied + j.total Entry.bought
  debt : k'.debt + j.repaid = k.debt + j.total Entry.borrowed
  idle : k'.idle + j.repaid = k.idle + j.total Entry.earned
  rewards : k'.rewards = k.rewards ++ j.bounties

section

variable {k k' k'' : Book} {e : Entry} {repaid : ℕ}

/-! ### One entry -/

lemma deposit_eq_ok {amount : ℕ} (h : k.deposit amount = .ok k') :
    k' = { k with collateral := k.collateral + amount } ∧ k.collateral + amount < capacity := by
  unfold deposit at h
  simp only [bind_eq_ok, pure_eq_ok] at h
  obtain ⟨_, hc, rfl⟩ := h
  obtain ⟨rfl, hlt⟩ := sum_eq_ok hc
  exact ⟨rfl, hlt⟩

/-- **What an entry that goes through does to the book**, amount by amount. -/
theorem follows_of_post (h : k.post e = .ok (k', repaid)) : k.Follows [(e, repaid)] k' := by
  cases e with
  | lever borrowed received =>
    obtain ⟨_, hk, he⟩ := map_eq_ok.1 h
    cases he
    obtain ⟨rfl, -, -⟩ := lever_eq_ok hk
    constructor <;> simp
  | delever sold received =>
    obtain ⟨hheld, hrepaid, rfl, -⟩ := delever_eq_ok h
    -- no more is repaid than is owed, and no more than was received
    have hrepaid : repaid = min received k.debt := hrepaid
    constructor <;> simp <;> omega
  | deposit amount =>
    obtain ⟨_, hk, he⟩ := map_eq_ok.1 h
    cases he
    obtain ⟨rfl, -⟩ := deposit_eq_ok hk
    constructor <;> simp
  | reward payee amount =>
    cases h
    constructor <;> simp [Book.reward]

lemma Fits.post (hk : k.Fits) (h : k.post e = .ok (k', repaid)) : k'.Fits := by
  cases e with
  | lever borrowed received =>
    obtain ⟨_, hl, he⟩ := map_eq_ok.1 h
    cases he
    obtain ⟨rfl, hdebt, hcollateral⟩ := lever_eq_ok hl
    exact ⟨hcollateral, hdebt, hk.idle⟩
  | delever sold received =>
    obtain ⟨-, -, rfl, hidle⟩ := delever_eq_ok h
    exact ⟨Nat.lt_of_le_of_lt (Nat.sub_le _ _) hk.collateral,
      Nat.lt_of_le_of_lt (Nat.sub_le _ _) hk.debt, hidle⟩
  | deposit amount =>
    obtain ⟨_, hd, he⟩ := map_eq_ok.1 h
    cases he
    obtain ⟨rfl, hcollateral⟩ := deposit_eq_ok hd
    exact ⟨hcollateral, hk.debt, hk.idle⟩
  | reward payee amount =>
    cases h
    exact ⟨hk.collateral, hk.debt, hk.idle⟩

/-! ### When an entry does not go through -/

/-- A computation that begins with a sum fails if the sum is too large, or where it fails later. -/
lemma exists_sum_error {α : Type} {a b : ℕ} {fault : LedgerFault} {g : ℕ → Checked α} :
    (∃ r, (sum a b fault >>= g) = .error r) ↔ capacity ≤ a + b ∨ ∃ r, g (a + b) = .error r := by
  unfold sum
  split
  next hlt => rw [ok_bind, or_iff_right (Nat.not_le.2 hlt)]
  next hge => exact iff_of_true ⟨_, rfl⟩ (.inl (Nat.le_of_not_lt hge))

/-- **An entry does not go through just if the book refuses it.** -/
theorem exists_post_error : (∃ r, k.post e = .error r) ↔ k.Refuses e := by
  cases e with
  | lever borrowed received =>
    simp [post, map_eq_error, lever, exists_sum_error, Refuses, pure, Except.pure]
  | delever sold received =>
    unfold post delever Refuses
    dsimp only
    split
    next hlt => exact iff_of_true ⟨_, rfl⟩ (.inl hlt)
    next hge => simp [exists_sum_error, hge, pure, Except.pure]
  | deposit amount =>
    simp [post, map_eq_error, deposit, exists_sum_error, Refuses, pure, Except.pure]
  | reward payee amount => simp [post, Refuses]

lemma next_of_error {r : Refusal} (h : k.post e = .error r) : k.next e = k := by
  unfold next
  rw [h]

/-! ### Any number of entries -/

lemma Follows.refl (k : Book) : k.Follows [] k := by
  constructor <;> simp

lemma Follows.cons {x : Entry × ℕ} {j : Journal} (h : k.Follows [x] k') (h' : k'.Follows j k'') :
    k.Follows (x :: j) k'' := by
  obtain ⟨hcollateral, hdebt, hidle, hrewards⟩ := h
  obtain ⟨hcollateral', hdebt', hidle', hrewards'⟩ := h'
  constructor
  all_goals simp only [Journal.total_cons, Journal.total_nil, Journal.repaid_cons,
    Journal.repaid_nil, Journal.bounties_cons, Journal.bounties_nil, List.append_nil] at *
  · omega
  · omega
  · omega
  · rw [hrewards', hrewards, List.append_assoc]

/-- **What entries make of a book**: what the journal of those that went through says. -/
theorem follows_after (k : Book) (es : List Entry) : k.Follows (k.journal es) (k.after es) := by
  induction es generalizing k with
  | nil => exact .refl k
  | cons e es ih =>
    unfold journal after
    rw [List.foldl_cons]
    unfold next
    cases h : k.post e with
    | ok y => exact (follows_of_post h).cons (ih y.1)
    | error r => exact ih k

theorem Fits.after (hk : k.Fits) (es : List Entry) : (k.after es).Fits := by
  induction es generalizing k with
  | nil => exact hk
  | cons e es ih =>
    refine ih (k := k.next e) ?_
    unfold next
    split
    next h => exact hk.post h
    next => exact hk

end

/-- **Conservation.**  After any entries on a book that opened with some collateral, going by those
that went through, the collateral and all that was sold make up what the book opened with, what was
supplied and what was bought; debt and repayments make up what was borrowed, and idle amounts and
repayments what was earned; the bounties are those paid, in their order.  Every amount is one that a
book can hold, so nothing wraps around.  A sale repays what is owed as far as its receipts go.  An
entry fails just if there is no room for what it brings in or it sells more than is held, and then
the book stays as it is. -/
theorem conservation {collateral : ℕ} (h : collateral < capacity) (es : List Entry) :
    let k := (opening collateral).after es
    let j := (opening collateral).journal es
    k.collateral + j.total Entry.sold
        = collateral + j.total Entry.supplied + j.total Entry.bought ∧
      k.debt + j.repaid = j.total Entry.borrowed ∧
      k.idle + j.repaid = j.total Entry.earned ∧
      k.rewards = j.bounties ∧
      k.Fits ∧
      (∀ sold received k' repaid, k.post (.delever sold received) = .ok (k', repaid) →
        repaid = min received k.debt) ∧
      ∀ e, ((∃ r, k.post e = .error r) ↔ k.Refuses e) ∧ (k.Refuses e → k.next e = k) := by
  intro k j
  have hfollows : (opening collateral).Follows j k := follows_after _ es
  refine ⟨hfollows.collateral, ?_, ?_, hfollows.rewards, ?_, ?_, ?_⟩
  · exact hfollows.debt.trans (Nat.zero_add _)
  · exact hfollows.idle.trans (Nat.zero_add _)
  · have hpos : 0 < capacity := by decide
    have hopening : (opening collateral).Fits := ⟨h, hpos, hpos⟩
    exact hopening.after es
  · intro sold received k' repaid hpost
    exact (delever_eq_ok hpost).2.1
  · intro e
    refine ⟨exists_post_error, fun hrefuses => ?_⟩
    obtain ⟨r, hr⟩ := exists_post_error.2 hrefuses
    exact next_of_error hr

/-- A loan is repaid by a sale that earns more than is owed.  Neither a chunk upward that there is
no room for counts, nor a sale of more than is held, nor a deposit that there is no room for. -/
theorem conservation_repaid :
    let es :=
      [.lever 600 590, .lever 5 capacity, .delever 5000 1, .delever 300 700, .deposit capacity,
        .deposit 5]
    let k := (opening 1000).after es
    k.collateral + 300 = 1000 + 5 + 590 ∧ k.debt + 600 = 600 ∧ k.idle + 600 = 700 ∧
      k.next (.deposit capacity) = k := by
  intro es k
  have hroom : 1000 < capacity := by decide
  obtain ⟨hcollateral, hdebt, hidle, -, -, -, hfails⟩ := conservation hroom es
  have hrefuses : k.Refuses (.deposit capacity) := Nat.le_add_left _ _
  exact ⟨hcollateral, hdebt, hidle, (hfails _).2 hrefuses⟩

end Book

end LeverageKeeper
