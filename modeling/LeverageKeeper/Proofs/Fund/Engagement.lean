import LeverageKeeper.Proofs.Fund.Loss
import LeverageKeeper.Proofs.Leverage

/-!
An engagement never crashes on paper.  Wherever its computations could leave the range of decimals
they are checked, apart from a few: differences of amounts that are not negative, and products with
a part of one.  These stay in range by themselves.
-/

namespace LeverageKeeper

open Decimal (maxScale)

/-! ### Arithmetic -/

namespace Decimal

variable {a b : Decimal}

lemma minus_steady (ha : 0 ≤ a.toRat) (hb : 0 ≤ b.toRat) : Steady (a.minus b) :=
  steady_of_ok (minus_ok ha hb)

/-- A product with a part of one is in range. -/
lemma times_steady (a : Decimal) (hb : |b.toRat| ≤ 1) : Steady (a.times b) := by
  cases h : a.mul? b with
  | some c => exact steady_of_ok ⟨c, orCrash_eq_ok.2 h⟩
  | none =>
    have hnone := mul?_eq_none h
    have hsmall := a.abs_toRat_le
    have hle : |a.toRat * b.toRat| ≤ |a.toRat| := by
      rw [abs_mul]
      exact mul_le_of_le_one_right (abs_nonneg _) hb
    linarith

lemma ofUnits_steady (n d : ℕ) : Steady (ofUnits n d) := by
  rcases Nat.lt_or_ge n bound with h | h
  · obtain ⟨x, hx, -⟩ := ofUnits_of_lt h d
    exact steady_of_ok ⟨x, hx⟩
  · rw [ofUnits_of_ge h]
    exact steady_refused _

/-- What is left of one when a part is taken from it. -/
lemma one_minus_bounds {x : Decimal} (h0 : 0 ≤ a.toRat) (h1 : a.toRat ≤ 1)
    (hx : one.minus a = .ok x) : 0 ≤ x.toRat ∧ x.toRat ≤ 1 := by
  obtain ⟨y, hy, hvalue⟩ := one_minus_exact h0 h1
  obtain rfl : y = x := Except.ok.inj (hy.symm.trans hx)
  exact ⟨by linarith, by linarith⟩

lemma one_minus_steady (h0 : 0 ≤ a.toRat) : Steady (one.minus a) :=
  minus_steady (by rw [toRat_one]; exact zero_le_one) h0

end Decimal

/-! ### The position -/

lemma leverageRatio_steady {c d : Decimal} (hd : 0 ≤ d.toRat) : Steady (leverageRatio c d) := by
  rcases leverageRatio_cases (c := c) hd with ⟨-, h⟩ | ⟨-, h⟩ | ⟨-, r, h⟩
  · rw [h]
    exact steady_refused _
  · rw [h]
    exact steady_refused _
  · exact steady_of_ok ⟨r, h⟩

/-- **A position is derived or refused.** -/
lemma Balances.position_steady {b : Balances} {p : Prices} {a : Assets}
    (hb : 0 < p.borrow.toRat) : Steady (b.position p a) := by
  unfold position
  refine steady_bind (Decimal.ofUnits_steady _ _) fun cu _ => ?_
  refine steady_bind (Decimal.ofUnits_steady _ _) fun du hdu => ?_
  refine steady_lift_bind fun cv _ => ?_
  refine steady_lift_bind fun dv hdv => ?_
  have hd := worth_nonneg hdu hb.le (orRefuse_eq_ok.1 hdv)
  exact steady_bind (leverageRatio_steady hd) fun _ _ => steady_ok _

lemma Fund.position_steady (f : Fund) : Steady f.position := by
  unfold position
  refine steady_lift_bind fun p hp => ?_
  refine steady_lift_bind fun b _ => ?_
  exact Balances.position_steady (Feeds.prices_pos hp).2

/-! ### Sizes -/

namespace Sizing

variable {target current units : Decimal} {p : Position} {limits : LendingLimits} {e : Execution}

lemma totalNotional_steady (ht : 0 ≤ target.toRat) :
    Steady (totalNotional target current units) := by
  unfold totalNotional
  split
  · exact steady_refused _
  next hge =>
    have h1 := Decimal.le_iff_toRat.1 (Decimal.not_lt.1 hge)
    rw [Decimal.toRat_one] at h1
    exact steady_bind (Decimal.minus_steady ht (by linarith)) fun _ _ => steady_lift _

/-- The room for a loan. -/
lemma headroom_lever_steady (hp : 0 ≤ p.collateralValue.toRat) (hd : 0 ≤ p.debtValue.toRat)
    (hl0 : 0 ≤ limits.maxLtv.toRat) (hl1 : limits.maxLtv.toRat ≤ 1) (he : e.unutilized.IsFraction) :
    Steady (headroom p limits e .lever) := by
  obtain ⟨he0, he1⟩ := he.bounds
  unfold headroom
  refine steady_bind (Decimal.one_minus_steady he0) fun use huse => ?_
  obtain ⟨huse0, huse1⟩ := Decimal.one_minus_bounds he0 he1.le huse
  have hltv : |limits.maxLtv.toRat| ≤ 1 := by rwa [abs_of_nonneg hl0]
  refine steady_bind (Decimal.times_steady _ hltv) fun loan hloan => ?_
  have hloan0 : 0 ≤ loan.toRat :=
    (Decimal.rounds_mul? (orCrash_eq_ok.1 hloan)).nonneg (by positivity)
  have habs : |use.toRat| ≤ 1 := by rwa [abs_of_nonneg huse0]
  refine steady_bind (Decimal.times_steady _ habs) fun borrowable hborrowable => ?_
  have hborrowable0 : 0 ≤ borrowable.toRat :=
    (Decimal.rounds_mul? (orCrash_eq_ok.1 hborrowable)).nonneg (by positivity)
  exact steady_bind (Decimal.minus_steady hborrowable0 hd) fun _ _ => steady_ok _

lemma minOut_steady (amount : Decimal) {slippage : Decimal} (hs : slippage.IsFraction) :
    Steady (minOut amount slippage) := by
  obtain ⟨hs0, hs1⟩ := hs.bounds
  unfold minOut
  refine steady_bind (Decimal.one_minus_steady hs0) fun rest hrest => ?_
  obtain ⟨hrest0, hrest1⟩ := Decimal.one_minus_bounds hs0 hs1.le hrest
  exact Decimal.times_steady _ (by rwa [abs_of_nonneg hrest0])

end Sizing

/-! ### Venues that trade on paper -/

namespace Venue

variable {name : String} {a : Assets} {feeds : Feeds} {o : Order} {bps : UInt32}

/-- A fee of at most ten thousand basis points is a part of one. -/
lemma ofBasisPoints_le_one (h : bps ≤ 10000) : (Decimal.ofBasisPoints bps).toRat ≤ 1 := by
  have hn : bps.toNat ≤ 10000 := by simpa using UInt32.le_iff_toNat_le.1 h
  unfold Decimal.ofBasisPoints
  cases hx : (Decimal.ofScaled? bps.toNat 0).bind fun n => n.div? (Decimal.pow10 4) with
  | none =>
    rw [Option.getD_none, Decimal.toRat_zero]
    exact zero_le_one
  | some fee =>
    obtain ⟨n, hn', hfee⟩ := Option.bind_eq_some_iff.1 hx
    have hvalue : n.toRat = bps.toNat := by
      obtain ⟨hneg, hdigits, hscale⟩ := Decimal.ofParts?_eq_some hn'
      rw [Decimal.toRat_of_sign, hneg, hdigits, hscale]
      simp
    have hle := (Decimal.rounds_div? hfee).le (y := Decimal.one) (by
      rw [hvalue, Decimal.toRat_pow10, Decimal.toRat_one, div_le_one (by positivity)]
      have : (bps.toNat : ℚ) ≤ 10000 := by exact_mod_cast hn
      simpa [maxScale] using (this.trans (by norm_num)))
    rwa [Decimal.toRat_one] at hle

lemma quote_steady {fee amountIn priceIn priceOut : Decimal} (h0 : 0 ≤ fee.toRat)
    (h1 : fee.toRat ≤ 1) : Steady (quote name fee amountIn priceIn priceOut) := by
  unfold quote
  refine steady_lift_bind fun gross _ => ?_
  refine steady_bind (Decimal.one_minus_steady h0) fun rest hrest => ?_
  obtain ⟨hrest0, hrest1⟩ := Decimal.one_minus_bounds h0 h1 hrest
  exact Decimal.times_steady _ (by rwa [abs_of_nonneg hrest0])

lemma fill_steady {fee priceIn priceOut : Decimal} (h0 : 0 ≤ fee.toRat) (h1 : fee.toRat ≤ 1) :
    Steady (fill name fee a priceIn priceOut o) := by
  unfold fill
  refine steady_bind (Decimal.ofUnits_steady _ _) fun _ _ => ?_
  refine steady_bind (quote_steady h0 h1) fun _ _ => ?_
  refine steady_lift_bind fun units _ => ?_
  split
  · exact steady_bind (Decimal.ofUnits_steady _ _) fun _ _ => steady_refused _
  · exact steady_ok _

/-- **A venue on paper fills an order or refuses it.** -/
theorem paper_steady (h : bps ≤ 10000) : Steady ((paper name a bps).answer feeds o) := by
  have h0 := ofBasisPoints_nonneg bps
  have h1 := ofBasisPoints_le_one h
  unfold paper
  dsimp only
  split <;> exact steady_lift_bind fun _ _ => steady_lift_bind fun _ _ => fill_steady h0 h1

end Venue

/-! ### The call -/

namespace Fund

variable {f : Fund} {t : Trade}

lemma attempt_steady {α β : Type} {x : Outcome α} {act : α → Fund × Outcome β} (hx : Steady x)
    (hact : ∀ a, x = .ok a → Steady (act a).2) : Steady (f.attempt x act).2 := by
  cases x with
  | ok a => exact hact a rfl
  | error e => exact fun c hc => hx c (congrArg Except.error (Except.error.inj hc))

lemma Trade.fill_steady (h : ∀ o, Steady (t.listing.venue.answer f.feeds o)) :
    Steady (t.fill f.assets f.feeds) := by
  unfold Trade.fill
  refine steady_lift_bind fun o _ => ?_
  refine steady_bind (h o) fun received _ => ?_
  split
  · exact steady_bind (Decimal.ofUnits_steady _ _) fun _ _ => steady_refused _
  · exact steady_ok _

lemma amounts_steady (x : Fill) (a : Assets) : Steady (x.amounts a) := by
  unfold Fill.amounts
  split <;>
    exact steady_bind (Decimal.ofUnits_steady _ _) fun _ _ =>
      steady_bind (Decimal.ofUnits_steady _ _) fun _ _ => steady_ok _

/-- A trade is settled or refused if the venue's answer does not crash. -/
lemma settle_steady (h : ∀ o, Steady (t.listing.venue.answer f.feeds o)) :
    Steady (f.settle t).2 := by
  unfold settle
  refine attempt_steady (Trade.fill_steady h) fun x _ => ?_
  refine attempt_steady (steady_lift _) fun l _ => ?_
  exact attempt_steady (amounts_steady _ _) fun _ _ => steady_ok _

/-- What can be relied on when a fund trades on paper. -/
structure OnPaper (f : Fund) : Prop where
  sound : f.Sound
  limits : ∀ l, f.ledger.lendingLimits = .ok l → 0 ≤ l.maxLtv.toRat ∧ l.maxLtv.toRat ≤ 1
  venues : ∀ name l, f.strategy.venues.find? name = some l →
    ∃ bps, bps ≤ 10000 ∧ l.venue = Venue.paper l.venue.name f.assets bps

lemma nextChunk_steady (h : f.OnPaper) {p : Position} {target cap : Decimal}
    (hp : f.position = .ok p) (ht : 0 ≤ target.toRat) :
    Steady (f.nextChunk p target .lever cap) := by
  unfold nextChunk
  refine steady_bind (Sizing.totalNotional_steady ht) fun total _ => ?_
  refine steady_lift_bind fun limits hl => ?_
  obtain ⟨hl0, hl1⟩ := h.limits limits hl
  have hvalues : 0 ≤ p.collateralValue.toRat ∧ 0 ≤ p.debtValue.toRat := by
    unfold position at hp
    simp only [bind_eq_ok, lift_eq_ok] at hp
    obtain ⟨prices, hprices, b, -, hp⟩ := hp
    obtain ⟨hc, hb⟩ := Feeds.prices_pos hprices
    exact (Balances.position_eq_ok hp).values_nonneg hc hb
  have he := (Execution.violations_eq_nil.1 (Settings.valid_iff.1 h.sound.settings).2.1).1
  refine steady_bind (Sizing.headroom_lever_steady hvalues.1 hvalues.2 hl0 hl1 he) fun _ _ => ?_
  exact steady_lift _

lemma decideEngage_steady (h : f.OnPaper) (caller : Address) (venue : String) :
    Steady (f.decideEngage caller venue) := by
  unfold decideEngage
  refine steady_lift_bind fun _ _ => ?_
  refine steady_lift_bind fun _ _ => ?_
  refine steady_lift_bind fun listing _ => ?_
  refine steady_lift_bind fun b _ => ?_
  refine steady_lift_bind fun _ _ => ?_
  refine steady_bind f.position_steady fun p hp => ?_
  have htarget : 0 ≤ f.strategy.settings.methodology.target.toRat := by
    obtain ⟨h1, h2, -⟩ := h.sound.band
    have h1 := Decimal.lt_iff_toRat.1 h1
    have h2 := Decimal.le_iff_toRat.1 h2
    rw [Decimal.toRat_one] at h1
    linarith
  unfold prepare
  refine steady_bind (nextChunk_steady h hp htarget) fun chunk _ => ?_
  refine steady_bind ?_ fun _ _ => steady_ok _
  unfold Plan.ofChunk
  refine steady_lift_bind fun worth _ => ?_
  exact steady_bind (Sizing.minOut_steady _ h.sound.slippage_isFraction) fun _ _ => steady_ok _

/-- **An engagement on paper succeeds or is refused.** -/
theorem engage_steady (h : f.OnPaper) (caller : Address) (venue : String) :
    Steady (f.engage caller venue).2 := by
  unfold engage
  refine attempt_steady (decideEngage_steady h caller venue) fun t ht => ?_
  obtain ⟨bps, hbps, hvenue⟩ := h.venues venue t.listing (decideEngage_eq_ok ht).listed
  have hsettle : Steady (f.settle t).2 := settle_steady fun o => by
    rw [hvenue]
    exact Venue.paper_steady hbps
  unfold settleThen
  split
  next g r _ => exact steady_ok _
  next g e he =>
    rw [he] at hsettle
    exact hsettle

end Fund

end LeverageKeeper
