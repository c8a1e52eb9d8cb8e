import LeverageKeeper.Proofs.Fund.Agreement
import LeverageKeeper.Proofs.Fund.LifeCycle
import LeverageKeeper.Proofs.Fund.Plans

/-!
The preview of the next chunk, and the call that is to trade it.  The preview derives target, cap
and direction from the phase; the calls take them from their own conditions.  They come to the same
chunk, with three exceptions: a trade under way whose target has been reached from the other side is
previewed as a way back, but going on with it only ends it; a ripcord close to the top of the band
sells, but is not previewed; and a previewed chunk may be too large or too small for its order to be
made out.
-/

namespace LeverageKeeper

open Decimal (Rounds limit)

namespace Fund

/-- A trade is under way and has not reached its target. -/
def OnTheWay (f : Fund) (p : Position) : Prop :=
  ∃ target d rest, f.strategy.twap = .under target d rest ∧
    Sizing.reached target p.leverage d = .ok false

/-- The ratio lies above the band by more than the tolerance. -/
def AboveBand (f : Fund) (p : Position) : Prop :=
  Direction.delever.Short f.strategy.settings.methodology.most p.leverage

section

variable {f : Fund} {p : Position} {l : Listing} {a : Action} {c : Call} {t : Trade} {k : Chunk}
  {d : Direction} {plan : Plan} {caller : Address} {venue : String}

/-! ### Targets -/

/-- The target and the cap of a preview, phase by phase. -/
lemma nextTarget_rebalance (h : f.circumstances.phase p.leverage = .rebalanceDue)
    {target cap : Decimal} :
    f.nextTarget l.terms p.leverage = .ok (target, cap) ↔
      Sizing.recentered p.leverage f.strategy.settings.methodology = .ok target ∧
        cap = l.terms.cap := by
  unfold nextTarget
  dsimp only
  rw [h]
  simp only [bind_eq_ok, pure_eq_ok, Prod.mk.injEq]
  constructor
  · rintro ⟨x, hx, rfl, rfl⟩
    exact ⟨hx, rfl⟩
  · rintro ⟨hx, rfl⟩
    exact ⟨target, hx, rfl, rfl⟩

lemma nextTarget_iterate (h : f.circumstances.phase p.leverage = .twapInProgress)
    {target rest : Decimal} (hw : f.strategy.twap = .under target d rest) :
    f.nextTarget l.terms p.leverage = .ok (target, l.terms.cap) := by
  unfold nextTarget
  dsimp only
  rw [h, hw]
  rfl

lemma nextTarget_ripcord (h : f.circumstances.phase p.leverage = .ripcordEligible) :
    f.nextTarget l.terms p.leverage
      = .ok (f.strategy.settings.methodology.most, l.terms.incentivizedCap) := by
  unfold nextTarget
  dsimp only
  rw [h]
  rfl

lemma prepare_ok {kind : TradeKind} {target cap slippage : Decimal}
    (hk : f.nextChunk p target d cap = .ok k)
    (hplan : Plan.ofChunk d k.notional p.prices slippage = .ok plan) :
    f.prepare kind venue l p target d cap slippage
      = .ok ⟨kind, venue, l, target, p, k, plan⟩ := by
  unfold prepare
  rw [hk, ok_bind, hplan, ok_bind]
  rfl

lemma Sound.one_lt_most (h : f.Sound) : 1 < f.strategy.settings.methodology.most.toRat := by
  obtain ⟨hleast, hmid, htop⟩ := h.band
  rw [Decimal.lt_iff_toRat, Decimal.toRat_one] at hleast
  rw [Decimal.le_iff_toRat] at hmid htop
  linarith

lemma Sound.one_lt_target {target rest : Decimal} (h : f.Sound)
    (hw : f.strategy.twap = .under target d rest) : 1 < target.toRat := by
  have hmem := h.twap
  rw [hw] at hmem
  have hleast := h.band.1
  rw [Decimal.lt_iff_toRat, Decimal.toRat_one] at hleast
  exact hleast.trans_le (Decimal.le_iff_toRat.1 hmem.1)

/-- In an emergency the way to the top of the band does not lead upward. -/
lemma Sound.not_short_of_danger (h : f.Sound)
    (hdanger : f.strategy.settings.incentive.ratio ≤ p.leverage) :
    f.strategy.settings.methodology.most.toRat < p.leverage.toRat ∧
      ¬ Direction.lever.Short f.strategy.settings.methodology.most p.leverage := by
  have habove := (Decimal.lt_iff_toRat.1 h.most_lt_ratio).trans_le (Decimal.le_iff_toRat.1 hdanger)
  refine ⟨habove, fun hshort => ?_⟩
  change p.leverage.toRat + Sizing.tolerance.toRat < _ at hshort
  rw [Sizing.tolerance_toRat] at hshort
  linarith

/-- A chunk toward a target starts from a ratio of at least one. -/
lemma one_le_of_nextChunk {target cap : Decimal} (h : f.nextChunk p target d cap = .ok k) :
    1 ≤ p.leverage.toRat := by
  obtain ⟨_, _, hsized⟩ := nextChunk_eq_ok h
  exact (Sizing.totalNotional_eq_ok hsized.total_eq).1

lemma sends_of_callFor {o : Order} (hc : callFor caller venue a = some c)
    (ht : f.tradeOf? c = some t) (ho : t.plan.order f.assets t.listing.terms = .ok o) :
    f.Sends c venue t o := by
  obtain ⟨kind, rfl⟩ := call_of_callFor hc
  exact sends_of_order ht ho

/-! ### The preview and the trade -/

section Listed

variable (hlive : f.halted = false) (hp : f.position = .ok p)
  (hl : f.strategy.venues.find? venue = some l)

include hlive hp hl

lemma preview_eq :
    f.preview venue = (do
      let (target, cap) ← f.nextTarget l.terms p.leverage
      let direction ← directionTo target p.leverage
      return (← f.nextChunk p target direction cap, direction)) := by
  unfold preview
  simp only [(requireLive_eq_ok (u := ())).2 hlive, Registry.get_eq_ok.2 hl, hp, lift_ok, ok_bind]
  unfold directionTo
  simp only [bind_assoc]

lemma preview_eq_ok :
    f.preview venue = .ok (k, d) ↔
      ∃ target cap, f.nextTarget l.terms p.leverage = .ok (target, cap) ∧
      Sizing.direction? target p.leverage = .ok (some d) ∧ f.nextChunk p target d cap = .ok k := by
  rw [preview_eq hlive hp hl]
  simp only [bind_eq_ok, pure_eq_ok, directionTo_eq_ok, Prod.exists, Prod.mk.injEq]
  constructor
  · rintro ⟨target, cap, ht, d', hd, k', hk, rfl, rfl⟩
    exact ⟨target, cap, ht, hd, hk⟩
  · rintro ⟨target, cap, ht, hd, hk⟩
    exact ⟨target, cap, ht, d, hd, k, hk, rfl, rfl⟩

/-- **What the named call has decided to trade is what the preview shows**, unless a ripcord is
close to the top of the band. -/
theorem preview_of_trade (hs : f.Sound) (hc : callFor caller venue a = some c)
    (hfar : a = .ripcord → f.AboveBand p) (ht : f.tradeOf? c = some t) :
    f.preview venue = .ok (t.chunk, t.plan.direction) ∧ (a = .iterate → f.OnTheWay p) ∧
      Plan.ofChunk t.plan.direction t.chunk.notional p.prices (f.slippageFor c) = .ok t.plan := by
  have hd := decides_of_tradeOf? ht
  cases a with
  | none => cases hc
  | rebalance =>
    cases hc
    have hg : f.RebalanceGrounds caller venue t := hd
    obtain rfl : t.position = p := Except.ok.inj (hg.position.symm.trans hp)
    obtain rfl : t.listing = l := Option.some.inj (hg.listed.symm.trans hl)
    refine ⟨(preview_eq_ok hlive hp hl).2 ⟨t.target, t.listing.terms.cap, ?_, hg.direction,
      hg.prepared.chunk⟩, nofun, hg.prepared.plan⟩
    exact (nextTarget_rebalance hg.due).2 ⟨hg.target_eq, rfl⟩
  | iterate =>
    cases hc
    have hg : f.IterateGrounds caller venue t := hd
    obtain rfl : t.position = p := Except.ok.inj (hg.position.symm.trans hp)
    obtain rfl : t.listing = l := Option.some.inj (hg.listed.symm.trans hl)
    obtain ⟨rest, hw⟩ := hg.underWay
    have htarget := hs.one_lt_target hw
    have hone := one_le_of_nextChunk hg.prepared.chunk
    have hphase := phase_of_underWay hg.below (by rw [hw]; rfl)
    refine ⟨(preview_eq_ok hlive hp hl).2 ⟨t.target, t.listing.terms.cap,
      nextTarget_iterate hphase hw, ?_, hg.prepared.chunk⟩,
      fun _ => ⟨_, _, rest, hw, hg.unreached⟩, hg.prepared.plan⟩
    exact Sizing.direction?_of_short (by linarith) (by linarith)
      (Sizing.short_of_unreached hg.unreached)
  | ripcord =>
    cases hc
    have hg : f.RipcordGrounds venue t := hd
    obtain rfl : t.position = p := Except.ok.inj (hg.position.symm.trans hp)
    obtain rfl : t.listing = l := Option.some.inj (hg.listed.symm.trans hl)
    have hchunk := hg.prepared.chunk
    have hone := one_le_of_nextChunk hchunk
    have hmost := hs.one_lt_most
    rw [hg.target_eq] at hchunk
    rw [hg.prepared.direction_eq]
    refine ⟨(preview_eq_ok hlive hp hl).2 ⟨_, _, nextTarget_ripcord (phase_of_danger hg.danger), ?_,
      hchunk⟩, nofun, hg.prepared.plan⟩
    exact Sizing.direction?_of_short (by linarith) (by linarith) (hfar rfl)

/-- **What the preview shows is what the named call decides to trade**, unless the trade under way
has reached its target. -/
theorem trade_of_preview (hs : f.Sound) (ha : f.actionFor p l.terms = a)
    (hc : callFor caller venue a = some c)
    (hcaller : a = .ripcord ∨ f.guard.list.isAllowed caller = true)
    (hway : a = .iterate → f.OnTheWay p) (h : f.preview venue = .ok (k, d))
    (hplan : Plan.ofChunk d k.notional p.prices (f.slippageFor c) = .ok plan) :
    (∃ t, f.tradeOf? c = some t ∧ t.listing = l ∧ t.chunk = k ∧ t.plan = plan) ∧
      (a = .ripcord → f.AboveBand p) := by
  obtain ⟨target, cap, ht, hd, hk⟩ := (preview_eq_ok hlive hp hl).1 h
  have hone := one_le_of_nextChunk hk
  cases a with
  | none => cases hc
  | rebalance =>
    cases hc
    obtain ⟨-, hphase, -⟩ := (actionFor_eq (a := .rebalance) nofun).1 ha
    obtain ⟨htarget, rfl⟩ := (nextTarget_rebalance hphase).1 ht
    have hdecide : f.decideRebalance caller venue
        = .ok ⟨.rebalance, venue, l, target, p, k, plan⟩ := by
      rw [decideRebalance_named hlive hp hl ha (hcaller.resolve_left nofun), htarget, ok_bind,
        directionTo_eq_ok.2 hd, ok_bind]
      exact prepare_ok hk hplan
    exact ⟨⟨_, toOption_eq_some.2 hdecide, rfl, rfl, rfl⟩, nofun⟩
  | iterate =>
    cases hc
    obtain ⟨-, hphase, -⟩ := (actionFor_eq (a := .iterate) nofun).1 ha
    obtain ⟨target', d', rest, hw, hunreached⟩ := hway rfl
    obtain ⟨target'', d'', rest', hw', hdecide⟩ :=
      decideIterate_named hlive hp hl ha (hcaller.resolve_left nofun)
    cases hw.symm.trans hw'
    cases ht.symm.trans (nextTarget_iterate hphase hw)
    have htarget := hs.one_lt_target hw
    cases hd.symm.trans (Sizing.direction?_of_short (by linarith) (by linarith)
      (Sizing.short_of_unreached hunreached))
    have hprepare : f.prepare .iterate venue l p target d l.terms.cap
        f.strategy.settings.execution.slippage
          = .ok ⟨.iterate, venue, l, target, p, k, plan⟩ := prepare_ok hk hplan
    rw [hunreached, ok_bind, if_neg (by decide), hprepare, ok_bind] at hdecide
    refine ⟨⟨⟨.iterate, venue, l, target, p, k, plan⟩, ?_, rfl, rfl, rfl⟩, nofun⟩
    unfold tradeOf?
    dsimp only
    rw [hdecide]
    rfl
  | ripcord =>
    cases hc
    obtain ⟨-, hphase, -⟩ := (actionFor_eq (a := .ripcord) nofun).1 ha
    cases ht.symm.trans (nextTarget_ripcord hphase)
    have hmost := hs.one_lt_most
    have hshort := (Sizing.direction?_eq_some_iff (by linarith) (by linarith)).1 hd
    cases d with
    | lever => exact absurd hshort (hs.not_short_of_danger (of_phase_eq.1 hphase)).2
    | delever =>
      have hdecide : f.decideRipcord venue = .ok ⟨.ripcord, venue, l, _, p, k, plan⟩ :=
        (decideRipcord_named hlive hp hl ha).trans (prepare_ok hk hplan)
      exact ⟨⟨_, toOption_eq_some.2 hdecide, rfl, rfl, rfl⟩, fun _ => hshort⟩

/-- A trade under way that has reached its target is ended by the call that goes on with it. -/
lemma iterate_clears (hs : f.Sound) (ha : f.actionFor p l.terms = .iterate)
    (hcaller : f.guard.list.isAllowed caller = true) (hway : ¬ f.OnTheWay p) :
    ∃ target, f.call (.iterate caller venue)
      = (f.withTwap .idle, .ok (.iteration (.cleared target p.leverage))) := by
  obtain ⟨target, d, rest, hw, hdecide⟩ := decideIterate_named hlive hp hl ha hcaller
  have htarget := hs.one_lt_target hw
  have hreached : ∃ b, Sizing.reached target p.leverage d = .ok b :=
    Sizing.reached_ok (by linarith)
  obtain ⟨b, hb⟩ := hreached
  cases b with
  | false => exact absurd ⟨target, d, rest, hw, hb⟩ hway
  | true =>
    refine ⟨target, ?_⟩
    rw [hb, ok_bind, if_pos rfl] at hdecide
    rw [call, iterate, hdecide]
    rfl

/-- A ripcord close to the top of the band is not previewed. -/
lemma preview_refused (hs : f.Sound) (ha : f.actionFor p l.terms = .ripcord)
    (hnear : ¬ f.AboveBand p) :
    f.preview venue = .error (.refused (.noRebalanceNeeded (.atTarget p.leverage))) := by
  obtain ⟨-, hphase, -⟩ := (actionFor_eq (a := .ripcord) nofun).1 ha
  obtain ⟨habove, hup⟩ := hs.not_short_of_danger (of_phase_eq.1 hphase)
  have hmost := hs.one_lt_most
  have hnone : directionTo f.strategy.settings.methodology.most p.leverage
      = .error (.refused (.noRebalanceNeeded (.atTarget p.leverage))) := by
    unfold directionTo
    rw [Sizing.direction?_of_near (by linarith) (by linarith) fun d => ?_]
    · rfl
    · cases d with
      | lever => exact hup
      | delever => exact hnear
  rw [preview_eq hlive hp hl, nextTarget_ripcord hphase, ok_bind]
  dsimp only
  rw [hnone]
  rfl

end Listed

end

/-- **The preview and the call that it is about.**  On a venue on which the question what to call
names a call, the preview shows a chunk and a direction, and its order can be made out, just if the
named call, made by a caller who may make it, sends this order: in the previewed direction, sized
from the previewed chunk, with its flag.  Two exceptions stand on either side.  Going on with a
trade whose target is reached sends nothing and ends the trade, whatever the preview shows; and a
ripcord at most a tolerance above the band sends its order although the preview is refused. -/
theorem preview_iff_sends {f : Fund} (hf : f.Reachable) {xs : List (String × Action)}
    (h : f.actions = .ok xs) {v : String} {a : Action} (hmem : (v, a) ∈ xs) {caller : Address}
    {c : Call} (hc : callFor caller v a = some c)
    (hcaller : a = .ripcord ∨ f.guard.list.isAllowed caller = true) :
    ∃ p l, f.position = .ok p ∧ f.strategy.venues.find? v = some l ∧
      (∀ k d o,
        (f.preview v = .ok (k, d) ∧ (a = .iterate → f.OnTheWay p) ∧
            ∃ plan, Plan.ofChunk d k.notional p.prices (f.slippageFor c) = .ok plan ∧
              plan.order f.assets l.terms = .ok o) ↔
          (a = .ripcord → f.AboveBand p) ∧ ∃ t, f.Sends c v t o ∧ o.direction = d ∧ t.chunk = k ∧
            Plan.ofChunk d k.notional p.prices (f.slippageFor c) = .ok t.plan) ∧
      (a = .iterate → ¬ f.OnTheWay p → ∃ target,
        f.call c = (f.withTwap .idle, .ok (.iteration (.cleared target p.leverage)))) ∧
      (a = .ripcord → ¬ f.AboveBand p →
        f.preview v = .error (.refused (.noRebalanceNeeded (.atTarget p.leverage)))) := by
  have hs := hf.sound
  obtain ⟨hlive, p, hp, rfl⟩ := actions_eq_ok h
  obtain ⟨⟨v, l⟩, he, heq⟩ := List.mem_map.1 hmem
  obtain ⟨rfl, ha⟩ := Prod.mk.inj heq
  have hl : f.strategy.venues.find? v = some l := hs.venues.find?_of_mem he
  refine ⟨p, l, hp, hl, fun k d o => ⟨?_, ?_⟩, ?_, ?_⟩
  · rintro ⟨hpreview, hway, plan, hplan, ho⟩
    obtain ⟨⟨t, ht, rfl, rfl, rfl⟩, habove⟩ :=
      trade_of_preview hlive hp hl hs ha hc hcaller hway hpreview hplan
    have hd : o.direction = d :=
      (Plan.order_eq_ok ho).1.trans (Plan.ofChunk_direction hplan)
    exact ⟨habove, t, sends_of_callFor hc ht ho, hd, rfl, hplan⟩
  · rintro ⟨habove, t, hsends, rfl, rfl, hplan⟩
    obtain ⟨hpreview, hway, -⟩ := preview_of_trade hlive hp hl hs hc habove hsends.decided
    rw [hsends.direction] at hplan ⊢
    obtain rfl : l = t.listing := Option.some.inj (hl.symm.trans hsends.listed)
    exact ⟨hpreview, hway, t.plan, hplan, hsends.order⟩
  · rintro rfl hway
    cases hc
    exact iterate_clears hlive hp hl hs ha (hcaller.resolve_left nofun) hway
  · rintro rfl hnear
    exact preview_refused hlive hp hl hs ha hnear

/-- The second chunk of the levered fund is previewed as it is sent. -/
theorem preview_iff_sends_levered :
    ∃ t o, Trial.levered.Sends (.iterate Trial.operator "dex") "dex" t o ∧
      Trial.levered.preview "dex" = .ok (t.chunk, o.direction) := by
  have hf : Trial.levered.Reachable := Trial.levered_reachable
  have hactions : Trial.levered.actions = .ok [("dex", .iterate)] := by decide +kernel
  have hcaller : Trial.levered.guard.list.isAllowed Trial.operator = true := by decide +kernel
  have horder : ((Trial.levered.tradeOf? (.iterate Trial.operator "dex")).bind fun t =>
      (t.plan.order Trial.levered.assets t.listing.terms).toOption).isSome = true := by
    decide +kernel
  obtain ⟨o, ho⟩ := Option.isSome_iff_exists.1 horder
  obtain ⟨t, ht, ho⟩ := Option.bind_eq_some_iff.1 ho
  have hsends : Trial.levered.Sends (.iterate Trial.operator "dex") "dex" t o :=
    sends_of_callFor (a := .iterate) rfl ht (toOption_eq_some.1 ho)
  have hd : Trial.levered.IterateGrounds Trial.operator "dex" t := decides_of_tradeOf? ht
  obtain ⟨p, l, hp, -, hiff, -⟩ := preview_iff_sends hf hactions List.mem_cons_self
    (c := .iterate Trial.operator "dex") rfl (.inr hcaller)
  obtain rfl : t.position = p := Except.ok.inj (hd.position.symm.trans hp)
  have hplan := hd.prepared.plan
  rw [← hsends.direction] at hplan
  exact ⟨t, o, hsends, ((hiff _ _ _).2 ⟨nofun, t, hsends, rfl, rfl, hplan⟩).1⟩

namespace Trial

/-- The levered fund, with prices at which the ratio has passed the target of its trade. -/
def crossed : Fund := levered.after [collateralPrice 40 1700]

/-- A fund whose emergency begins right above the band, with a ratio in between that and a tolerance
above the band. -/
def brink : Fund :=
  (fund (Venue.exact "dex")).after
    [.call (.setIncentive operator
        { settings.incentive with ratio := ⟨false, 23000000001, 10, by decide, by decide⟩ }),
      .call (.engage operator "dex"), .event (.advance 700), .event (.deposit 1000000000000),
      .event (.setReading assets.collateralFeed ⟨530769161998944, 22, 1700⟩)]

end Trial

/-- A chunk is previewed that the named call does not send, and one is sent that is not
previewed. -/
theorem preview_misses :
    (Trial.crossed.Reachable ∧ Trial.crossed.actions = .ok [("dex", .iterate)] ∧
      (∃ k, Trial.crossed.preview "dex" = .ok (k, .delever)) ∧
      (Trial.crossed.dialogue (.iterate Trial.operator "dex")).questions
        (fun name => Trial.crossed.answers name Trial.crossed.feeds) = []) ∧
    Trial.brink.Reachable ∧ Trial.brink.actions = .ok [("dex", .ripcord)] ∧
      (Trial.brink.preview "dex").toOption = none ∧
      (Trial.brink.dialogue (.ripcord Trial.operator "dex")).questions
        (fun name => Trial.brink.answers name Trial.brink.feeds)
        = [("dex", ⟨.delever, 217, 0, []⟩)] := by
  refine ⟨⟨Trial.levered_reachable.after _, by decide +kernel, ?_, by decide +kernel⟩,
    (Trial.reachable _).after _, by decide +kernel, by decide +kernel, by decide +kernel⟩
  have hpreview : (Trial.crossed.preview "dex").toOption.any (·.2 = .delever) = true := by
    decide +kernel
  obtain ⟨⟨k, d⟩, hk, hd⟩ := (Option.any_eq_true _ _).1 hpreview
  obtain rfl : d = .delever := of_decide_eq_true hd
  exact ⟨k, toOption_eq_some.1 hk⟩

end Fund

end LeverageKeeper
