import LeverageKeeper.Proofs.Fund.Plans
import LeverageKeeper.Proofs.Fund.Rescue

/-!
Chunks of which nothing is sent.  A chunk is positive, but what goes into its order is cut to native
units afterwards.  So a call may go through with an order for nothing, namely if what goes in is
less than one native unit; for a sale this means that the way to the target, the cap or the room is.
What a ripcord pays its caller has nothing to do with it.
-/

namespace LeverageKeeper

open Decimal (maxScale)

section

variable {a b : Decimal} {d n : ℕ}

/-- The amount makes at least one native unit of a token of `d` decimals. -/
def Decimal.MakesUnit (a : Decimal) (d : ℕ) : Prop := 1 ≤ a.toRat * 10 ^ Nat.min d maxScale

lemma Decimal.toUnits_pos_iff (h : a.toUnits d = .ok n) : 0 < n ↔ a.MakesUnit d := by
  obtain ⟨-, rfl, -⟩ := toUnits_eq_ok.1 h
  exact Nat.floor_pos

lemma Decimal.makesUnit_min_iff : (a.min b).MakesUnit d ↔ a.MakesUnit d ∧ b.MakesUnit d := by
  have hp : (0 : ℚ) ≤ 10 ^ Nat.min d maxScale := by positivity
  unfold MakesUnit
  rw [toRat_min, min_mul_of_nonneg _ _ hp, le_min_iff]

end

lemma Ledger.outage_of_commit {l l' : Ledger} {d : Direction} {paid received : ℕ}
    (h : l.commit d paid received = .ok l') : l'.outage = l.outage := by
  obtain ⟨-, k, rfl, -⟩ := commit_eq_ok h
  rfl

namespace Fund

/-- What a ripcord pays: the bounty, unless there is none or the ledger cannot pay it. -/
def payable (f : Fund) : Decimal :=
  if Decimal.zero < f.bounty ∧ f.ledger.outage.reward = none then f.bounty else Decimal.zero

section

variable {f : Fund} {t : Trade} {c : Call} {x : Fill} {l : Ledger} {r : Report}

lemma payBounty_snd (payee : Address) : (f.payBounty payee).2 = f.payable := by
  unfold payBounty payable
  by_cases hb : f.bounty ≤ Decimal.zero
  · rw [if_pos hb, if_neg fun h => Decimal.not_lt.2 hb h.1]
  · rw [if_neg hb]
    unfold Ledger.payReward Ledger.unlessOut
    cases f.ledger.outage.reward with
    | none => rw [if_pos ⟨Decimal.not_le.1 hb, rfl⟩]
    | some reason => rw [if_neg fun h => nomatch h.2]; rfl

/-- The bounty of a ripcord is settled before its trade. -/
lemma Executes.rewardPaid_eq (h : f.Executes c t x l r) {y : Rescue}
    (hy : (f.call c).2 = .ok (.rescue y)) : y.rewardPaid = f.payable := by
  rw [h.call_eq] at hy
  cases c with
  | ripcord caller venue =>
    rw [finish_ripcord] at hy
    cases hy
    change (((f.settled t l).withTwap .idle).payBounty caller).2 = _
    rw [payBounty_snd]
    unfold payable
    change (if _ < f.bounty ∧ l.outage.reward = none then f.bounty else Decimal.zero) = _
    rw [Ledger.outage_of_commit h.enters.commit]
  | _ => cases hy

/-- The order of a sale has something to sell just if none of the three limits of its chunk lies
below a native unit. -/
lemma PlansChunk.sells_iff (h : f.PlansChunk c t) (hd : t.plan.direction = .delever) {o : Order}
    (ho : t.plan.order f.assets t.listing.terms = .ok o) :
    ∃ limits room, f.ledger.lendingLimits = .ok limits ∧
      Sizing.headroom t.position limits f.strategy.settings.execution .delever = .ok room ∧
      (0 < o.amountIn ↔ ∀ y ∈ [t.chunk.total, capFor t.listing.terms c, room],
        y.MakesUnit f.assets.collateralDecimals) := by
  obtain ⟨k, hk, hn, ht⟩ := h.chunk
  have hplan := h.plan
  rw [hd] at hk hplan
  obtain ⟨total, room, hsized⟩ := nextChunk_eq_ok hk
  obtain ⟨limits, hlimits, hroom⟩ := hsized.room_eq
  obtain ⟨-, rfl⟩ := Sizing.chunk_eq_ok hsized.chunk_eq
  obtain ⟨-, -, hin, -⟩ := Plan.order_eq_ok ho
  rw [hd, Plan.amountIn_of_delever hplan, hn] at hin
  refine ⟨limits, room, hlimits, hroom, ?_⟩
  rw [Decimal.toUnits_pos_iff hin, Decimal.makesUnit_min_iff, Decimal.makesUnit_min_iff, ht]
  simp only [List.forall_mem_cons, List.not_mem_nil, IsEmpty.forall_iff, implies_true, and_true,
    and_assoc]
  rfl

end

/-- **When a chunk sends anything.**  A call that reports a chunk has sent something to its venue
just if what goes into the order makes a native unit.  The chunk itself is positive; upward, what
goes in is what the chunk is worth, and downward something is sold just if the way to the target,
the cap and the room each make a native unit of the collateral.  A ripcord pays its bounty however
much it has sold. -/
theorem chunk_sends_iff {f : Fund} {c : Call} {a : Answer} {r : Report}
    (h : (f.call c).2 = .ok a) (hr : reportOf? a = some r) :
    ∃ t x l, f.Executes c t x l r ∧
      (0 < x.order.amountIn ↔
        t.plan.amountIn.MakesUnit (f.assets.decimalsIn t.plan.direction)) ∧
      (f.PlansChunk c t →
        0 < t.chunk.notional.toRat ∧
        (t.plan.direction = .lever →
          Sizing.toBorrow t.chunk.notional t.position.prices = .ok t.plan.amountIn) ∧
        (t.plan.direction = .delever → ∃ limits room, f.ledger.lendingLimits = .ok limits ∧
          Sizing.headroom t.position limits f.strategy.settings.execution .delever = .ok room ∧
          (0 < x.order.amountIn ↔ ∀ y ∈ [t.chunk.total, capFor t.listing.terms c, room],
            y.MakesUnit f.assets.collateralDecimals))) ∧
      (¬ f.PlansChunk c t → t.kind = .disengage ∧ f.Unwinds t) ∧
      ∀ y, a = .rescue y → y.rewardPaid = f.payable := by
  obtain ⟨t, x, l, hx⟩ := executes_of_report h hr
  have ho := (Trade.fill_eq_ok hx.enters.fill).1
  obtain ⟨-, -, hin, -⟩ := Plan.order_eq_ok ho
  refine ⟨t, x, l, hx, Decimal.toUnits_pos_iff hin, fun hp => ⟨?_, ?_, ?_⟩, ?_, ?_⟩
  · obtain ⟨k, hk, hn, -⟩ := hp.chunk
    obtain ⟨_, _, hsized⟩ := nextChunk_eq_ok hk
    rw [hn]
    exact (Sizing.chunk_bounds hsized.chunk_eq).1
  · intro hd
    have hplan := hp.plan
    rw [hd] at hplan
    exact Plan.amountIn_of_lever hplan
  · intro hd
    exact hp.sells_iff hd ho
  · exact (plans_of_decides (decides_of_tradeOf? hx.decided)).resolve_left
  · rintro y rfl
    exact hx.rewardPaid_eq h

/-- The levered fund sells 182.88 tokens in an emergency: each of the three limits makes a unit. -/
theorem chunk_sends_iff_inDanger :
    ∃ t x l r, (Trial.inDanger 1800).Executes (.ripcord Trial.operator "dex") t x l r ∧
      x.order.amountIn = 18288 ∧ t.chunk.total.MakesUnit 2 ∧
      t.listing.terms.incentivizedCap.MakesUnit 2 := by
  have hreport : (((Trial.inDanger 1800).call (.ripcord Trial.operator "dex")).2.toOption.bind
      reportOf?).isSome = true := by decide +kernel
  have hasks : ((Trial.inDanger 1800).dialogue (.ripcord Trial.operator "dex")).questions
      (fun name => (Trial.inDanger 1800).answers name (Trial.inDanger 1800).feeds)
      = [("dex", ⟨.delever, 18288, 5212, []⟩)] := by decide +kernel
  obtain ⟨r, hr⟩ := Option.isSome_iff_exists.1 hreport
  obtain ⟨a, ha, hr⟩ := Option.bind_eq_some_iff.1 hr
  obtain ⟨t, x, l, hx, -, hchunk, -⟩ := chunk_sends_iff (toOption_eq_some.1 ha) hr
  have hd : (Trial.inDanger 1800).RipcordGrounds "dex" t := decides_of_tradeOf? hx.decided
  rw [dialogue_of_order hx.decided (Trade.fill_eq_ok hx.enters.fill).1] at hasks
  have horder : x.order = ⟨.delever, 18288, 5212, []⟩ := congrArg Prod.snd (List.cons.inj hasks).1
  have hin : x.order.amountIn = 18288 := by rw [horder]
  obtain ⟨-, -, hsale⟩ := hchunk (Prepared.plansChunk hd.prepared)
  obtain ⟨limits, room, -, -, hiff⟩ := hsale hd.prepared.direction_eq
  have hunits := hiff.1 (by rw [hin]; decide)
  simp only [List.forall_mem_cons] at hunits
  exact ⟨t, x, l, r, hx, hin, hunits.1, hunits.2.1⟩

namespace Trial

/-- Half a native unit of a token of two decimals. -/
def crumb : Decimal := ⟨false, 5, 3, by decide, by decide⟩

/-- A fund in an emergency, with a reward set aside, that may be left by a venue on which no chunk
makes a native unit. -/
def dusty : Fund :=
  (endangered (number 2 2) (number 5 2) (Venue.exact "exit") crumb 30 2).after
    [.call (.depositReward Decimal.one)]

end Trial

/-- A ripcord sells nothing for nothing and pays its bounty. -/
theorem ripcord_of_nothing_paid :
    Trial.dusty.Reachable ∧
      (Trial.dusty.dialogue (.ripcord Trial.operator "exit")).questions
        (fun name => Trial.dusty.answers name Trial.dusty.feeds)
        = [("exit", ⟨.delever, 0, 0, []⟩)] ∧
      ∃ y, (Trial.dusty.call (.ripcord Trial.operator "exit")).2 = .ok (.rescue y) ∧
        y.report.collateralAmount.isZero = true ∧ y.rewardPaid = Decimal.one := by
  refine ⟨(Trial.endangered_reachable _ _ _ _ _ _).after _, by decide +kernel, ?_⟩
  have hreport : ((Trial.dusty.call (.ripcord Trial.operator "exit")).2.toOption.bind
      reportOf?).any (·.collateralAmount.isZero) = true := by decide +kernel
  have hpayable : Trial.dusty.payable = Decimal.one := by decide +kernel
  obtain ⟨r, hr, hnothing⟩ := (Option.any_eq_true _ _).1 hreport
  obtain ⟨t, x, l, hx⟩ := executes_of_reported hr
  have hanswer := congrArg Prod.snd hx.call_eq
  exact ⟨_, hanswer, hnothing, (hx.rewardPaid_eq hanswer).trans hpayable⟩

end Fund

end LeverageKeeper
