import LeverageKeeper.Proofs.Fund.Reachable
import LeverageKeeper.Proofs.Fund.Refusals
import LeverageKeeper.Proofs.Position

/-!
How much a chunk may trade.  Whatever the call, an order keeps to the venue's cap, to the room that
the lending venue leaves and, if it sells collateral, to what is held: the sizes are cut to these
limits, rounding does not carry them across, and cutting to native units only makes them smaller.
So no sale is ever refused for want of collateral.
-/

namespace LeverageKeeper.Fund

open Decimal (maxScale)

/-- The largest chunk that a call may trade on a venue. -/
def capFor (t : Terms) : Call → Decimal
  | .ripcord .. => t.incentivizedCap
  | _ => t.cap

/-- An order keeps to the limits of a chunk: a sale to the cap, the room and the collateral held,
in native units, and a purchase to what some size within the cap and the room is worth. -/
def WithinLimits (f : Fund) (cap : Decimal) (p : Position) (o : Order) : Prop :=
  ∃ limits room, f.ledger.lendingLimits = .ok limits ∧
    Sizing.headroom p limits f.strategy.settings.execution o.direction = .ok room ∧
    match o.direction with
    | .delever =>
      o.amountIn ≤ ⌊((cap.min room).min p.collateralUnits).toRat
        * 10 ^ f.assets.collateralDecimals⌋₊
    | .lever => ∃ n borrow, Decimal.zero < n ∧ n ≤ cap.min room ∧
      Sizing.toBorrow n p.prices = .ok borrow ∧
      borrow.toUnits f.assets.borrowDecimals = .ok o.amountIn

section

variable {f : Fund} {t : Trade} {x : Fill} {c : Call}

lemma Sound.collateralDecimals_le (h : f.Sound) :
    Nat.min f.assets.collateralDecimals maxScale = f.assets.collateralDecimals :=
  Nat.min_eq_left (Assets.violations_eq_nil.1 h.assets).2.2.2.1

/-- The position is the book's, at the prices of the feeds. -/
lemma derives_of_position {p : Position} (h : f.position = .ok p) :
    ∃ prices, f.feeds.prices f.assets f.now = .ok prices ∧
      f.ledger.book.balances.Derives prices f.assets p := by
  unfold position at h
  simp only [bind_eq_ok, lift_eq_ok] at h
  obtain ⟨prices, hprices, b, hb, h⟩ := h
  refine ⟨prices, hprices, ?_⟩
  rw [← Ledger.balances_eq_ok hb]
  exact Balances.position_eq_ok h

/-- The position's collateral is what the book holds. -/
lemma collateralUnits_eq {p : Position} (h : f.position = .ok p) :
    p.collateralUnits.toRat
      = f.ledger.book.collateral / 10 ^ Nat.min f.assets.collateralDecimals maxScale := by
  obtain ⟨_, -, hb⟩ := derives_of_position h
  exact (ofUnits_eq_ok hb.collateralUnits).2

/-- A sale of no more than three limits, in native units. -/
lemma amountIn_le (hs : f.Sound) {cap room units : Decimal} (hx : t.fill f.assets f.feeds = .ok x)
    (hd : t.plan.direction = .delever) (hcap : t.plan.amountIn.toRat ≤ cap.toRat)
    (hroom : t.plan.amountIn.toRat ≤ room.toRat) (hunits : t.plan.amountIn.toRat ≤ units.toRat) :
    x.order.amountIn ≤ ⌊((cap.min room).min units).toRat * 10 ^ f.assets.collateralDecimals⌋₊ := by
  obtain ⟨-, -, hin, -⟩ := Plan.order_eq_ok (Trade.fill_eq_ok hx).1
  rw [hd] at hin
  obtain ⟨-, hn, -⟩ := Decimal.toUnits_eq_ok.1 hin
  rw [hn]
  change ⌊_ * 10 ^ Nat.min f.assets.collateralDecimals maxScale⌋₊ ≤ _
  rw [hs.collateralDecimals_le, Decimal.toRat_min, Decimal.toRat_min]
  refine Nat.floor_le_floor (mul_le_mul_of_nonneg_right ?_ (by positivity))
  exact le_min (le_min hcap hroom) hunits

/-- The order of a planned chunk, in either direction. -/
lemma within_of_chunk (hs : f.Sound) (hp : f.position = .ok t.position)
    {target cap slippage : Decimal} {d : Direction} {k : Chunk}
    (hk : f.nextChunk t.position target d cap = .ok k)
    (hplan : Plan.ofChunk d k.notional t.position.prices slippage = .ok t.plan)
    (hx : t.fill f.assets f.feeds = .ok x)
    (hdown : d = .delever → 0 ≤ target.toRat ∧
      (1 ≤ t.position.leverage.toRat → target.toRat ≤ t.position.leverage.toRat)) :
    f.WithinLimits cap t.position x.order := by
  obtain ⟨total, room, hsized⟩ := nextChunk_eq_ok hk
  obtain ⟨limits, hlimits, hroom⟩ := hsized.room_eq
  obtain ⟨hpos, htotal, hcap, hle⟩ := Sizing.chunk_bounds hsized.chunk_eq
  obtain ⟨hdir, -, hin, -⟩ := Plan.order_eq_ok (Trade.fill_eq_ok hx).1
  have hplan_d : t.plan.direction = d := Plan.ofChunk_direction hplan
  refine ⟨limits, room, hlimits, by rw [hdir, hplan_d]; exact hroom, ?_⟩
  rw [hdir, hplan_d]
  cases d with
  | lever =>
    refine ⟨k.notional, t.plan.amountIn, ?_, ?_, Plan.amountIn_of_lever hplan, ?_⟩
    · rw [Decimal.lt_iff_toRat, Decimal.toRat_zero]
      exact hpos
    · rw [Decimal.le_iff_toRat, Decimal.toRat_min]
      exact le_min hcap hle
    · rw [hplan_d] at hin
      exact hin
  | delever =>
    have hamount := Plan.amountIn_of_delever hplan
    obtain ⟨h0, hdown⟩ := hdown rfl
    obtain ⟨hone, -⟩ := Sizing.totalNotional_eq_ok hsized.total_eq
    have hunits : 0 ≤ t.position.collateralUnits.toRat := by
      rw [collateralUnits_eq hp]
      positivity
    have hheld := Sizing.totalNotional_le hsized.total_eq h0 (hdown hone) hunits
    exact amountIn_le hs hx hplan_d (by rw [hamount]; exact hcap) (by rw [hamount]; exact hle)
      (by rw [hamount]; exact htotal.trans hheld)

/-- **The order of every trade that a call has decided on keeps to the limits of a chunk.** -/
theorem within_of_decides (hs : f.Sound) (hd : f.Decides t c)
    (hx : t.fill f.assets f.feeds = .ok x) :
    f.WithinLimits (capFor t.listing.terms c) t.position x.order := by
  obtain ⟨hleast, hmid, htop⟩ := hs.band
  rw [Decimal.lt_iff_toRat, Decimal.toRat_one] at hleast
  rw [Decimal.le_iff_toRat] at hmid htop
  cases c with
  | engage caller venue =>
    exact within_of_chunk hs hd.position hd.prepared.chunk hd.prepared.plan hx nofun
  | rebalance caller venue =>
    obtain ⟨hl, -⟩ := hs.target_mem (c := .rebalance caller venue) hd fun _ _ => ⟨nofun, nofun⟩
    rw [Decimal.le_iff_toRat] at hl
    refine within_of_chunk hs hd.position hd.prepared.chunk hd.prepared.plan hx fun he => ?_
    have hdir := hd.direction
    rw [he] at hdir
    exact ⟨by linarith, fun _ => Sizing.direction?_delever hdir⟩
  | iterate caller venue =>
    obtain ⟨hl, -⟩ := hs.target_mem (c := .iterate caller venue) hd fun _ _ => ⟨nofun, nofun⟩
    rw [Decimal.le_iff_toRat] at hl
    refine within_of_chunk hs hd.position hd.prepared.chunk hd.prepared.plan hx fun he => ?_
    have hopen := hd.unreached
    rw [he] at hopen
    exact ⟨by linarith, fun _ => Sizing.reached_delever hopen⟩
  | ripcord caller venue =>
    refine within_of_chunk hs hd.position hd.prepared.chunk hd.prepared.plan hx fun _ => ?_
    have hratio := Decimal.lt_iff_toRat.1 hs.most_lt_ratio
    have hdanger := Decimal.le_iff_toRat.1 hd.danger
    rw [hd.target_eq]
    exact ⟨by linarith, fun _ => by linarith⟩
  | disengage caller venue =>
    rcases hd.sale with hu | ⟨k, -, hk, hplan⟩
    · obtain ⟨limits, room, hlimits, hroom, hle⟩ := hu.within
      rw [Decimal.le_iff_toRat, Decimal.toRat_min, Decimal.toRat_min, le_min_iff, le_min_iff] at hle
      have hplan_d : t.plan.direction = .delever := by rw [hu.plan]
      obtain ⟨hdir, -⟩ := Plan.order_eq_ok (Trade.fill_eq_ok hx).1
      refine ⟨limits, room, hlimits, by rw [hdir, hplan_d]; exact hroom, ?_⟩
      rw [hdir, hplan_d]
      exact amountIn_le hs hx hplan_d hle.1.2 hle.2 hle.1.1
    · refine within_of_chunk hs hd.position hk hplan hx fun _ => ?_
      rw [Decimal.toRat_one]
      exact ⟨by norm_num, fun h => h⟩
  | _ => exact hd.elim

/-- The ledger holds whatever a decided trade sells. -/
lemma sold_le_held (hs : f.Sound) (hd : f.Decides t c) (hx : t.fill f.assets f.feeds = .ok x)
    (hdir : x.order.direction = .delever) : x.order.amountIn ≤ f.ledger.book.collateral := by
  obtain ⟨_, _, -, -, h⟩ := within_of_decides hs hd hx
  obtain ⟨_, _, hg⟩ := grounds_of_decides hd
  rw [hdir] at h
  dsimp only at h
  refine h.trans (Nat.floor_le_of_le ?_)
  have hc := collateralUnits_eq hg.position
  rw [hs.collateralDecimals_le] at hc
  have hp : (0 : ℚ) < 10 ^ f.assets.collateralDecimals := by positivity
  rw [Decimal.toRat_min]
  calc min _ t.position.collateralUnits.toRat * 10 ^ f.assets.collateralDecimals
      ≤ t.position.collateralUnits.toRat * 10 ^ f.assets.collateralDecimals :=
        mul_le_mul_of_nonneg_right (min_le_right _ _) hp.le
    _ = f.ledger.book.collateral := by rw [hc, div_mul_cancel₀ _ hp.ne']

/-- A call is refused for want of collateral only by a venue that gives this as its own reason. -/
lemma venueRefuses_of_notHeld (hs : f.Sound) {sold held : ℕ}
    (h : (f.call c).2 = .error (.refused (.ledger (.notHeld sold held)))) :
    ∃ t, f.tradeOf? c = some t ∧ f.VenueRefuses t (.ledger (.notHeld sold held)) := by
  cases ht : f.tradeOf? c with
  | none => exact (early_of_no_trade ht _ h).elim
  | some t =>
    refine ⟨t, rfl, ?_⟩
    rcases call_refuses ht _ h with hz | ⟨_, hv⟩ | hv | ⟨x, hx, hl⟩
    · exact hz.elim
    · cases hv
    · exact hv
    · obtain ⟨fault, hf, hheld⟩ := Ledger.commit_eq_error hl
      cases hf
      obtain ⟨hdir, hlt⟩ := hheld sold held rfl
      exact absurd (sold_le_held hs (decides_of_tradeOf? ht) hx hdir) (Nat.not_le.2 hlt)

end

/-- **The limits of a chunk hold for every chunk.**  A call that reports one has sent an order
within the cap of its venue, the room and the collateral of the position before the trade; and no
call is refused for want of collateral, unless its venue gives this as a reason of its own. -/
theorem chunk_within_limits {f : Fund} (hf : f.Reachable) (c : Call) :
    (∀ a r, (f.call c).2 = .ok a → reportOf? a = some r →
      ∃ t x l, f.Executes c t x l r ∧ f.position = .ok t.position ∧
        f.strategy.venues.find? r.venue = some t.listing ∧
        f.WithinLimits (capFor t.listing.terms c) t.position x.order) ∧
      ∀ sold held, (f.call c).2 = .error (.refused (.ledger (.notHeld sold held))) →
        ∃ t, f.tradeOf? c = some t ∧ f.VenueRefuses t (.ledger (.notHeld sold held)) := by
  have hs := hf.sound
  refine ⟨fun a r ha hr => ?_, fun _ _ => venueRefuses_of_notHeld hs⟩
  obtain ⟨t, x, l, hx⟩ := executes_of_report ha hr
  have hd := decides_of_tradeOf? hx.decided
  obtain ⟨_, _, hg⟩ := grounds_of_decides hd
  obtain ⟨_, _, -, hreport⟩ := hx.report_eq
  refine ⟨t, x, l, hx, hg.position, ?_, within_of_decides hs hd hx.enters.fill⟩
  rw [hreport]
  change f.strategy.venues.find? t.venue = _
  rw [hg.venue_eq]
  exact hg.listed

/-- A venue that turns every order down, in the words of the ledger. -/
def Trial.mimic : Venue := ⟨"dex", fun _ _ => .error (.refused (.ledger (.notHeld 1 0)))⟩

/-- A ripcord sells within the larger cap; and a venue may say what the ledger never does. -/
theorem chunk_within_limits_ripcord :
    (∃ t x l r, (Trial.inDanger 1800).Executes (.ripcord Trial.operator "dex") t x l r ∧
      (Trial.inDanger 1800).WithinLimits t.listing.terms.incentivizedCap t.position x.order) ∧
      ∃ t, (Trial.fund Trial.mimic).tradeOf? (.engage Trial.operator "dex") = some t ∧
        (Trial.fund Trial.mimic).VenueRefuses t (.ledger (.notHeld 1 0)) := by
  have hr : (((Trial.inDanger 1800).call (.ripcord Trial.operator "dex")).2.toOption.bind
      reportOf?).isSome = true := by decide +kernel
  have hm : ((Trial.fund Trial.mimic).call (.engage Trial.operator "dex")).2
      = .error (.refused (.ledger (.notHeld 1 0))) := by rfl
  obtain ⟨r, hr⟩ := Option.isSome_iff_exists.1 hr
  obtain ⟨a, ha, hr⟩ := Option.bind_eq_some_iff.1 hr
  obtain ⟨t, x, l, hx, -, -, hw⟩ := (chunk_within_limits (Trial.inDanger_reachable 1800)
    (.ripcord Trial.operator "dex")).1 a r (toOption_eq_some.1 ha) hr
  exact ⟨⟨t, x, l, r, hx, hw⟩, (chunk_within_limits (Trial.reachable _)
    (.engage Trial.operator "dex")).2 1 0 hm⟩

end LeverageKeeper.Fund
