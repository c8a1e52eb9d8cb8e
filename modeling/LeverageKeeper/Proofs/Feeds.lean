import LeverageKeeper.Proofs.Decimal.Sums
import LeverageKeeper.Proofs.Outcome
import LeverageKeeper.Feeds
import LeverageKeeper.Rounds.Poller

/-!
Which readings make a price.  A reading does just if it is positive, within the range of decimals
and not too old, and then the price is what it says, exactly.  A poll of the feeds comes down to
storing readings one after the other.
-/

namespace LeverageKeeper

open Decimal (bound maxScale)

/-! ### One reading -/

/-- The reading makes a price at the moment `now`.  A reading from the future has no age. -/
structure Reading.Valid (r : Reading) (now maxStaleness : UInt64) : Prop where
  positive : 0 < r.answer
  small : r.answer < 2 ^ 96
  decimals_le : r.decimals ≤ 28
  fresh : now.toNat - r.updatedAt.toNat ≤ maxStaleness.toNat

section Reading

variable {r : Reading} {feed : Address} {now maxStaleness : UInt64} {x : Decimal}

lemma Cooldown.toNat_since (earlier later : UInt64) :
    (since earlier later).toNat = later.toNat - earlier.toNat := by
  have hlt : later.toNat - earlier.toNat < 2 ^ 64 :=
    Nat.lt_of_le_of_lt (Nat.sub_le _ _) later.toNat_lt
  unfold since
  rw [UInt64.toNat_ofNat', Nat.mod_eq_of_lt hlt]

/-- A published answer is a price just if it is positive and in range, and then it is kept digit by
digit. -/
lemma Decimal.ofAnswer?_eq_some {answer : ℤ} {d : ℕ} :
    ofAnswer? answer d = some x ↔
      0 < answer ∧ ∃ h : answer.natAbs < bound ∧ d ≤ maxScale,
        x = ⟨false, answer.natAbs, d, h.1, h.2⟩ := by
  unfold ofAnswer? ofScaled? ofParts?
  by_cases hpos : answer ≤ 0
  · rw [if_pos hpos]
    simp only [reduceCtorEq, false_iff, not_and]
    intro h
    exact absurd hpos (Int.not_le.2 h)
  · have hsign : decide (answer < 0) = false := decide_eq_false (by omega)
    rw [if_neg hpos, hsign]
    by_cases h : answer.natAbs < bound ∧ d ≤ maxScale
    · rw [dif_pos h]
      constructor
      · intro hx
        exact ⟨Int.not_le.1 hpos, h, (Option.some.inj hx).symm⟩
      · rintro ⟨-, _, rfl⟩
        rfl
    · rw [dif_neg h]
      simp only [reduceCtorEq, h, IsEmpty.exists_iff, and_false]

/-- What a published answer is worth. -/
lemma Decimal.toRat_of_ofAnswer? {answer : ℤ} {d : ℕ} (h : ofAnswer? answer d = some x) :
    x.toRat = answer / 10 ^ d := by
  obtain ⟨hpos, _, rfl⟩ := ofAnswer?_eq_some.1 h
  have habs : ((answer.natAbs : ℕ) : ℤ) = answer := by omega
  rw [toRat_of_sign]
  simp only [Bool.false_eq_true, ↓reduceIte]
  rw [← Int.cast_natCast, habs]

/-- A reading that is not too old is a price or a number that is none. -/
lemma Reading.price_of_fresh (h : now.toNat - r.updatedAt.toNat ≤ maxStaleness.toNat) :
    r.price feed now maxStaleness
      = orRefuse (.invalidPrice feed (.notPositive r.answer r.decimals))
        (Decimal.ofAnswer? r.answer r.decimals) := by
  rw [← Cooldown.toNat_since, ← UInt64.le_iff_toNat_le] at h
  unfold price
  dsimp only
  rw [if_neg (UInt64.not_lt.2 h)]

lemma Reading.price_of_stale (h : maxStaleness.toNat < now.toNat - r.updatedAt.toNat) :
    r.price feed now maxStaleness
      = .error (.oracleStale feed (Cooldown.since r.updatedAt now) maxStaleness) := by
  rw [← Cooldown.toNat_since, ← UInt64.lt_iff_toNat_lt] at h
  unfold price
  dsimp only
  rw [if_pos h]

lemma Reading.price_eq_ok :
    r.price feed now maxStaleness = .ok x ↔
      now.toNat - r.updatedAt.toNat ≤ maxStaleness.toNat ∧
        Decimal.ofAnswer? r.answer r.decimals = some x := by
  rcases Nat.lt_or_ge maxStaleness.toNat (now.toNat - r.updatedAt.toNat) with hold | hfresh
  · simp only [price_of_stale hold, reduceCtorEq, Nat.not_le.2 hold, false_and]
  · simp only [price_of_fresh hfresh, orRefuse_eq_ok, hfresh, true_and]

/-- **A price is what a valid reading says, exactly.** -/
theorem Reading.valid_of_price (h : r.price feed now maxStaleness = .ok x) :
    r.Valid now maxStaleness ∧ x.toRat = r.answer / 10 ^ r.decimals := by
  obtain ⟨hfresh, hx⟩ := price_eq_ok.1 h
  obtain ⟨hpos, ⟨hlt, hd⟩, -⟩ := Decimal.ofAnswer?_eq_some.1 hx
  have habs : ((r.answer.natAbs : ℕ) : ℤ) = r.answer := by omega
  refine ⟨⟨hpos, ?_, hd, hfresh⟩, Decimal.toRat_of_ofAnswer? hx⟩
  rw [← habs]
  exact_mod_cast hlt

/-- Every valid reading makes a price. -/
theorem Reading.price_of_valid (h : r.Valid now maxStaleness) (feed : Address) :
    ∃ x, r.price feed now maxStaleness = .ok x := by
  have hpos := h.positive
  have hlt : r.answer.natAbs < bound := by
    have hsmall := h.small
    unfold bound
    omega
  exact ⟨_, price_eq_ok.2 ⟨h.fresh,
    Decimal.ofAnswer?_eq_some.2 ⟨hpos, ⟨hlt, h.decimals_le⟩, rfl⟩⟩⟩

end Reading

/-! ### The two prices -/

namespace Feeds

variable {f : Feeds} {a : Assets} {feed : Address} {now : UInt64} {p : Prices} {x : Decimal}

/-- The feed holds a valid reading. -/
def Fresh (f : Feeds) (feed : Address) (now maxStaleness : UInt64) : Prop :=
  ∃ r, f.get? feed = some r ∧ r.Valid now maxStaleness

/-- The feed holds a valid reading, and that says just the given price. -/
def Quotes (f : Feeds) (feed : Address) (now maxStaleness : UInt64) (x : Decimal) : Prop :=
  ∃ r, f.get? feed = some r ∧ r.Valid now maxStaleness ∧ x.toRat = r.answer / 10 ^ r.decimals

lemma Quotes.fresh {maxStaleness : UInt64} (h : f.Quotes feed now maxStaleness x) :
    f.Fresh feed now maxStaleness := by
  obtain ⟨r, hr, hv, -⟩ := h
  exact ⟨r, hr, hv⟩

lemma latest_eq_ok {r : Reading} : f.latest feed = .ok r ↔ f.get? feed = some r := orRefuse_eq_ok

/-- **The prices are those that valid readings of the two feeds say.** -/
theorem prices_eq_ok (h : f.prices a now = .ok p) :
    f.Quotes a.collateralFeed now a.maxStaleness p.collateral ∧
      f.Quotes a.borrowFeed now a.maxStaleness p.borrow := by
  unfold prices at h
  simp only [bind_eq_ok, latest_eq_ok, pure_eq_ok] at h
  obtain ⟨r, hr, x, hx, r', hr', y, hy, rfl⟩ := h
  exact ⟨⟨r, hr, Reading.valid_of_price hx⟩, ⟨r', hr', Reading.valid_of_price hy⟩⟩

/-- There are prices just if both feeds hold valid readings. -/
theorem exists_prices_iff :
    (∃ p, f.prices a now = .ok p) ↔
      f.Fresh a.collateralFeed now a.maxStaleness ∧ f.Fresh a.borrowFeed now a.maxStaleness := by
  constructor
  · rintro ⟨p, hp⟩
    obtain ⟨hc, hb⟩ := prices_eq_ok hp
    exact ⟨hc.fresh, hb.fresh⟩
  · rintro ⟨⟨r, hr, hv⟩, ⟨r', hr', hv'⟩⟩
    obtain ⟨x, hx⟩ := Reading.price_of_valid hv a.collateralFeed
    obtain ⟨y, hy⟩ := Reading.price_of_valid hv' a.borrowFeed
    refine ⟨⟨x, y⟩, ?_⟩
    unfold prices
    simp only [bind_eq_ok, latest_eq_ok, pure_eq_ok]
    exact ⟨r, hr, x, hx, r', hr', y, hy, rfl⟩

/-! ### Writing to the feeds -/

lemma setPrice_eq_ok {f' : Feeds} {price : Decimal} {d : ℕ} {time : UInt64}
    (h : f.setPrice feed price d time = .ok f') :
    ∃ n, price.toAnswer? d = some n ∧ f' = f.set feed ⟨n, d, time⟩ := by
  unfold setPrice at h
  split at h
  next n hn =>
    cases h
    exact ⟨n, hn, rfl⟩
  next => cases h

/-- A touch gives the reading of its feed a new time, if there is one. -/
lemma get?_touch (f : Feeds) (feed other : Address) (now : UInt64) :
    (f.touch feed now).1.get? other
      = (f.get? other).map fun r => if other = feed then { r with updatedAt := now } else r := by
  unfold touch
  by_cases he : other = feed
  · subst he
    cases hr : f.get? other with
    | none => simp [hr]
    | some r => simp [get?_set_self]
  · cases hr : f.get? feed with
    | none => simp [he]
    | some r => simp [get?_set_of_ne f _ he, he]

/-- The feeds once readings are stored one after the other. -/
def stored (f : Feeds) (readings : List (Address × Reading)) : Feeds :=
  readings.foldl (fun f e => f.set e.1 e.2) f

end Feeds

/-! ### Polls -/

namespace Poller

/-- Asking the feeds stores what is read, in the order of the feeds. -/
lemma pollAll_stored (decimals : ℕ) (feeds : List Address) (s : State) :
    ∃ readings, (pollAll decimals feeds s).1.readings = s.readings.stored readings := by
  induction feeds generalizing s with
  | nil => exact ⟨[], rfl⟩
  | cons feed feeds ih =>
    obtain ⟨readings, h⟩ := ih (read decimals s feed).1
    have hread : ∃ first, (read decimals s feed).1.readings = s.readings.stored first := by
      have hkept : s.next.2.readings = s.readings := by
        unfold State.next
        split <;> rfl
      unfold read
      dsimp only
      split
      next reading _ => exact ⟨[(feed, reading)], by rw [hkept]; rfl⟩
      next => exact ⟨[], hkept⟩
    obtain ⟨first, hfirst⟩ := hread
    refine ⟨first ++ readings, ?_⟩
    change (pollAll decimals feeds (read decimals s feed).1).1.readings = _
    rw [h, hfirst]
    exact (List.foldl_append ..).symm

/-- **A poll stores readings, one after the other, and does nothing else to the feeds.** -/
theorem poll_stored (p : Poller) (s : State) :
    ∃ readings, (p.poll s).1.readings = s.readings.stored readings :=
  pollAll_stored p.decimals p.feeds s

end Poller

end LeverageKeeper
