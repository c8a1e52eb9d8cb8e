import LeverageKeeper.Fund.Step
import LeverageKeeper.Proofs.Feeds
import LeverageKeeper.Proofs.Units

/-!
# Encoded prices

A feed publishes a price as a whole number of units of its decimals.  A number that is read as a
price is read digit by digit, so publishing that price gives the number back; a price is published
without what lies below one unit (`Decimal.toAnswer?_eq`).  Touches change stamps and nothing else
(`Feeds.get?_touched`), so a published price stands for as long as the last stamp counts.
-/

namespace LeverageKeeper

open Decimal (bound maxScale)

/-! ### Answers and prices -/

namespace Decimal

variable {answer : ℤ} {d : ℕ} {p : Decimal}

/-- The positive numbers in range are the prices that can be published. -/
lemma exists_ofAnswer?_iff (hd : d ≤ maxScale) :
    (∃ p, ofAnswer? answer d = some p) ↔ 0 < answer ∧ answer < 2 ^ 96 := by
  have hrange : 0 < answer → (answer.natAbs < bound ↔ answer < 2 ^ 96) := by
    unfold bound
    omega
  constructor
  · rintro ⟨p, hp⟩
    obtain ⟨hpos, ⟨hlt, -⟩, -⟩ := ofAnswer?_eq_some.1 hp
    exact ⟨hpos, (hrange hpos).1 hlt⟩
  · rintro ⟨hpos, hlt⟩
    exact ⟨_, ofAnswer?_eq_some.2 ⟨hpos, ⟨(hrange hpos).2 hlt, hd⟩, rfl⟩⟩

/-- A price that is not negative is published as the number of whole units in it. -/
lemma toAnswer?_of_nonneg (hd : d ≤ maxScale) (hp : 0 ≤ p.toRat) :
    p.toAnswer? d =
      if ⌊p.toRat * 10 ^ d⌋₊ < bound then some (⌊p.toRat * 10 ^ d⌋₊ : ℤ) else none := by
  rw [toAnswer?_eq, abs_of_nonneg hp, show Nat.min d maxScale = d from Nat.min_eq_left hd]
  simp only [hp.not_gt, ↓reduceIte]

/-- A published price is published as the same number again. -/
lemma toAnswer?_of_ofAnswer? (h : ofAnswer? answer d = some p) : p.toAnswer? d = some answer := by
  obtain ⟨hpos, ⟨hlt, hd⟩, -⟩ := ofAnswer?_eq_some.1 h
  obtain ⟨n, rfl⟩ := Int.eq_ofNat_of_zero_le hpos.le
  have hvalue := toRat_of_ofAnswer? h
  rw [Int.cast_natCast] at hvalue
  have hp : 0 ≤ p.toRat := by
    rw [hvalue]
    positivity
  rw [toAnswer?_of_nonneg hd hp, hvalue, div_mul_cancel₀ _ (by positivity), Nat.floor_natCast]
  exact if_pos hlt

/-- What is published is positive just if there is a whole unit in the price. -/
lemma toAnswer?_floor (hd : d ≤ maxScale) (h : p.toAnswer? d = some answer) :
    answer.natAbs < bound ∧ (0 < ⌊p.toRat * 10 ^ d⌋ → answer = ⌊p.toRat * 10 ^ d⌋) ∧
      (⌊p.toRat * 10 ^ d⌋ ≤ 0 → answer ≤ 0) := by
  rcases lt_or_ge p.toRat 0 with hneg | hp
  · have hfloor : ⌊p.toRat * 10 ^ d⌋ ≤ 0 :=
      Int.floor_nonpos (mul_nonpos_of_nonpos_of_nonneg hneg.le (by positivity))
    rw [toAnswer?_eq] at h
    simp only [hneg, ↓reduceIte] at h
    split at h
    next hlt =>
      cases h
      exact ⟨by omega, fun hpos => absurd hpos hfloor.not_gt, fun _ => by omega⟩
    next => cases h
  · rw [toAnswer?_of_nonneg hd hp] at h
    rw [← Int.natCast_floor_eq_floor (by positivity)]
    split at h
    next hlt =>
      cases h
      exact ⟨hlt, fun _ => rfl, id⟩
    next => cases h

end Decimal

/-- A change that is refused leaves the fund as it was. -/
lemma Fund.around_error {f : Fund} {change : Checked Fund} {e : Failure}
    (h : (f.around change).2 = .error e) : (f.around change).1 = f := by
  cases change with
  | ok g => cases h
  | error r => rfl

/-! ### Stamps -/

namespace Feeds

variable {f f' : Feeds} {feed : Address} {time now maxStaleness : UInt64} {p : Decimal} {d : ℕ}

/-- The feeds after touches, one after the other. -/
def touched (f : Feeds) (touches : List (Address × UInt64)) : Feeds :=
  touches.foldl (fun f e => (f.touch e.1 e.2).1) f

/-- The stamp that touches leave on a feed that had the given one. -/
def lastStamp (feed : Address) (time : UInt64) (touches : List (Address × UInt64)) : UInt64 :=
  touches.foldl (fun time e => if feed = e.1 then e.2 else time) time

/-- **Touches give the readings that there are a new stamp**, and change nothing else. -/
theorem get?_touched (f : Feeds) (feed : Address) (touches : List (Address × UInt64)) :
    (f.touched touches).get? feed = (f.get? feed).map fun r =>
      { r with updatedAt := lastStamp feed r.updatedAt touches } := by
  induction touches generalizing f with
  | nil => exact (congrFun Option.map_id _).symm
  | cons e touches ih =>
    have hstep := ih (f.touch e.1 e.2).1
    rw [get?_touch, Option.map_map] at hstep
    refine hstep.trans (congrArg (Option.map · (f.get? feed)) (funext fun r => ?_))
    unfold lastStamp
    rw [List.foldl_cons]
    by_cases he : feed = e.1
    · simp only [Function.comp_apply, he, ↓reduceIte]
    · simp only [Function.comp_apply, he, ↓reduceIte]

/-- What a published price is read as, for as long as the last stamp counts. -/
lemma price_touched (hd : d ≤ maxScale) (h : f.setPrice feed p d time = .ok f')
    (touches : List (Address × UInt64))
    (hfresh : now.toNat - (lastStamp feed time touches).toNat ≤ maxStaleness.toNat) :
    ∃ r, (f'.touched touches).latest feed = .ok r ∧
      (0 < ⌊p.toRat * 10 ^ d⌋ → ∃ x, r.price feed now maxStaleness = .ok x ∧
        x.toRat = ⌊p.toRat * 10 ^ d⌋ / 10 ^ d) ∧
      (⌊p.toRat * 10 ^ d⌋ ≤ 0 → r.price feed now maxStaleness
        = .error (.invalidPrice feed (.notPositive r.answer r.decimals))) := by
  obtain ⟨answer, hanswer, rfl⟩ := setPrice_eq_ok h
  obtain ⟨hlt, hpos, hnonpos⟩ := Decimal.toAnswer?_floor hd hanswer
  refine ⟨⟨answer, d, lastStamp feed time touches⟩, ?_, ?_, ?_⟩
  · rw [latest_eq_ok, get?_touched, get?_set_self, Option.map_some]
  · intro hunit
    obtain rfl := hpos hunit
    have hx := Decimal.ofAnswer?_eq_some.2 ⟨hunit, ⟨hlt, hd⟩, rfl⟩
    exact ⟨_, Reading.price_eq_ok.2 ⟨hfresh, hx⟩, Decimal.toRat_of_ofAnswer? hx⟩
  · intro hunit
    rw [Reading.price_of_fresh hfresh]
    unfold Decimal.ofAnswer?
    rw [if_pos (hnonpos hunit)]
    rfl

/-- **A published price stands.**  The numbers that are read as prices are the positive ones in
range, and they come back when the price is published; a price is published as the whole number of
units in it, if that is in range.  Once it is, and until its stamp is too old, the feed says just
that number of units, or is refused as no price if there is no unit in it, however often the feeds
are touched.  A touch gives a reading that there is a new stamp, and a price that cannot be
published changes nothing. -/
theorem encoded_prices_stand (hd : d ≤ maxScale) :
    (∀ answer, (∃ p, Decimal.ofAnswer? answer d = some p) ↔ 0 < answer ∧ answer < 2 ^ 96) ∧
      (∀ answer p, Decimal.ofAnswer? answer d = some p →
        p.toRat = answer / 10 ^ d ∧ p.toAnswer? d = some answer) ∧
      (∀ p : Decimal, 0 ≤ p.toRat → p.toAnswer? d =
        if ⌊p.toRat * 10 ^ d⌋₊ < bound then some (⌊p.toRat * 10 ^ d⌋₊ : ℤ) else none) ∧
      (∀ f f' feed p time touches now maxStaleness, setPrice f feed p d time = .ok f' →
        now.toNat - (lastStamp feed time touches).toNat ≤ maxStaleness.toNat →
        ∃ r, (f'.touched touches).latest feed = .ok r ∧
          (0 < ⌊p.toRat * 10 ^ d⌋ → ∃ x, r.price feed now maxStaleness = .ok x ∧
            x.toRat = ⌊p.toRat * 10 ^ d⌋ / 10 ^ d) ∧
          (⌊p.toRat * 10 ^ d⌋ ≤ 0 → r.price feed now maxStaleness
            = .error (.invalidPrice feed (.notPositive r.answer r.decimals)))) ∧
      (∀ (f : Feeds) feed time other, (f.touch feed time).1.get? other
        = (f.get? other).map fun r => if other = feed then { r with updatedAt := time } else r) ∧
      ∀ (f : Fund) feed p time e, (f.event (.setPrice feed p time)).2 = .error e →
        (f.event (.setPrice feed p time)).1 = f := by
  refine ⟨fun answer => Decimal.exists_ofAnswer?_iff hd,
    fun answer p h => ⟨Decimal.toRat_of_ofAnswer? h, Decimal.toAnswer?_of_ofAnswer? h⟩,
    fun p hp => Decimal.toAnswer?_of_nonneg hd hp,
    fun f f' feed p time touches now maxStaleness h hfresh => price_touched hd h touches hfresh,
    fun f feed time other => get?_touch f feed other time,
    fun f feed p time e h => Fund.around_error h⟩

/-- A price of 1999.5. -/
def samplePrice : Decimal := ⟨false, 19995, 1, by decide, by decide⟩

/-- Published with eight decimals and touched once, it is read as it was. -/
theorem encoded_prices_stand_touched :
    8 ≤ maxScale ∧ ∃ f' r x, Feeds.empty.setPrice ⟨1⟩ samplePrice 8 42 = .ok f' ∧
      (f'.touched [(⟨1⟩, 100)]).latest ⟨1⟩ = .ok r ∧ r.price ⟨1⟩ 200 100 = .ok x ∧
      x.toRat = 1999 + 1 / 2 := by
  have hd : 8 ≤ maxScale := by decide
  have hfloor : ⌊samplePrice.toRat * 10 ^ 8⌋ = 199950000000 := by decide +kernel
  obtain ⟨f', hset⟩ : ∃ f', Feeds.empty.setPrice ⟨1⟩ samplePrice 8 42 = .ok f' := ⟨_, rfl⟩
  obtain ⟨-, -, -, hstands, -⟩ := encoded_prices_stand hd
  obtain ⟨r, hr, hread, -⟩ :=
    hstands Feeds.empty f' ⟨1⟩ samplePrice 42 [(⟨1⟩, 100)] 200 100 hset (by decide)
  obtain ⟨x, hx, hvalue⟩ := hread (by rw [hfloor]; norm_num)
  refine ⟨hd, f', r, x, hset, hr, hx, ?_⟩
  rw [hvalue, hfloor]
  norm_num

end Feeds

end LeverageKeeper
