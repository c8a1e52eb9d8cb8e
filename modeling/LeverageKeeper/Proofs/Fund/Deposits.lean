import LeverageKeeper.Proofs.Decimal.Range
import LeverageKeeper.Proofs.Fund.Bounties
import LeverageKeeper.Proofs.Fund.Halting

/-!
Deposits into the reserve.  Anyone may make one, of any amount.  A deposit of nothing is refused;
any other is added to the reserve, and rounded if need be.  The sum is not checked: where it is out
of range the deposit crashes, and halts the fund for everyone.  Deposits that stay well below the
range are harmless; two that do not are enough to halt any fund.
-/

namespace LeverageKeeper

open Decimal (InRange Rounds limit maxScale)

namespace Decimal

/-- The largest decimal. -/
def largest : Decimal :=
  ⟨false, bound - 1, 0, Nat.sub_one_lt_of_lt one.digits_lt, one.scale_le⟩

lemma toRat_largest : largest.toRat = limit - 1 := by
  rw [toRat_eq, limit_eq]
  norm_num [largest, coeff]

/-- Rounding a sum takes or adds less than eight. -/
lemma Rounds.within_eight {x : ℚ} {c : Decimal} (h : Rounds x c) (hx : 0 ≤ x) :
    x - 8 ≤ c.toRat ∧ c.toRat ≤ x + 8 := by
  have hlt := (le_abs_self x).trans_lt h.abs_lt
  obtain ⟨hlow, hup⟩ := h.within hx (by linarith : x ≤ limit)
  have height : (limit + 1) / 10 ^ maxScale ≤ 8 := by norm_num [limit_eq]
  constructor
  · linarith
  · linarith

end Decimal

namespace Fund

section Deposit

variable {f : Fund} {amount : Decimal}

/-! ### One deposit -/

/-- A deposit of nothing is refused. -/
lemma call_deposit_of_not_pos (h : ¬ Decimal.zero < amount) :
    f.call (.depositReward amount)
      = (f, .error (.refused (.invalidSettings (.notPositive amount)))) :=
  attempt_refused (if_neg h)

lemma decideDeposit_of_pos (hlive : f.halted = false) (h : Decimal.zero < amount) :
    f.decideDeposit amount = f.strategy.reserve.plus amount := by
  have hallowed : f.requireLive = .ok () := requireLive_eq_ok.2 hlive
  unfold decideDeposit demand
  rw [if_pos h, lift_ok, ok_bind, hallowed, lift_ok, ok_bind]

/-- **A deposit is added to the reserve**, and rounded if need be. -/
lemma call_deposit_of_inRange (hlive : f.halted = false) (h : Decimal.zero < amount)
    (hin : InRange (f.strategy.reserve.toRat + amount.toRat)) :
    ∃ r, f.call (.depositReward amount) = (f.withReserve r, .ok (.decimal r)) ∧
      Rounds (f.strategy.reserve.toRat + amount.toRat) r := by
  obtain ⟨r, hr, hrounds⟩ := (Decimal.plus_computes f.strategy.reserve amount).ok hin
  refine ⟨r, ?_, hrounds⟩
  rw [call, depositReward, decideDeposit_of_pos hlive h, hr]
  rfl

/-- **A deposit out of range halts the fund.** -/
lemma call_deposit_of_not_inRange (hlive : f.halted = false) (h : Decimal.zero < amount)
    (hout : ¬ InRange (f.strategy.reserve.toRat + amount.toRat)) :
    f.call (.depositReward amount) = (f.halt, .error (.crashed .addition)) := by
  have hcrash := (Decimal.plus_computes f.strategy.reserve amount).crash hout
  rw [call, depositReward, decideDeposit_of_pos hlive h, hcrash]
  rfl

end Deposit

/-! ### Many deposits -/

/-- A history of deposits. -/
def funding (amounts : List Decimal) : List Step := amounts.map fun a => .call (.depositReward a)

section Funding

variable {f : Fund} {amount : Decimal} {amounts : List Decimal}

lemma after_funding_cons :
    f.after (funding (amount :: amounts))
      = (f.call (.depositReward amount)).1.after (funding amounts) := rfl

/-- **Deposits well below the range do no harm.**  They leave the fund as it is, but for the
reserve, which holds all of them but for less than eight in rounding each. -/
lemma after_funding (hlive : f.halted = false) (h0 : 0 ≤ f.strategy.reserve.toRat)
    (hpos : ∀ a ∈ amounts, Decimal.zero < a)
    (hsum : f.strategy.reserve.toRat + Decimal.total amounts + 8 * amounts.length ≤ limit - 1) :
    ∃ r, f.after (funding amounts) = f.withReserve r ∧
      |r.toRat - (f.strategy.reserve.toRat + Decimal.total amounts)| ≤ 8 * amounts.length := by
  induction amounts generalizing f with
  | nil =>
    refine ⟨f.strategy.reserve, rfl, ?_⟩
    simp [Decimal.total]
  | cons a as ih =>
    have ha := hpos a List.mem_cons_self
    have hpos0 : ∀ b ∈ a :: as, 0 < b.toRat := by
      intro b hb
      simpa using Decimal.lt_iff_toRat.1 (hpos b hb)
    have ha0 := hpos0 a List.mem_cons_self
    have hpos' : ∀ b ∈ as, Decimal.zero < b := fun b hb => hpos b (List.mem_cons_of_mem a hb)
    have hlength : ((a :: as).length : ℚ) = as.length + 1 := by
      rw [List.length_cons, Nat.cast_succ]
    have hrest := Decimal.total_nonneg fun b hb => hpos0 b (List.mem_cons_of_mem a hb)
    have hcount : (0 : ℚ) ≤ as.length := Nat.cast_nonneg _
    rw [Decimal.total_cons, hlength] at hsum ⊢
    have hx0 : 0 ≤ f.strategy.reserve.toRat + a.toRat := by linarith
    have hin : InRange (f.strategy.reserve.toRat + a.toRat) := by
      unfold InRange
      rw [abs_of_nonneg hx0]
      linarith
    obtain ⟨r, hr, hrounds⟩ := call_deposit_of_inRange hlive ha hin
    obtain ⟨hlow, hup⟩ := hrounds.within_eight hx0
    obtain ⟨r', hafter, hoff⟩ := ih (f := f.withReserve r) hlive (hrounds.nonneg hx0) hpos' (by
      change r.toRat + _ + _ ≤ _
      linarith)
    refine ⟨r', ?_, ?_⟩
    · rw [after_funding_cons, hr]
      exact hafter
    · change |r'.toRat - (r.toRat + Decimal.total as)| ≤ 8 * as.length at hoff
      obtain ⟨hoff0, hoff1⟩ := abs_le.1 hoff
      exact abs_le.2 ⟨by linarith, by linarith⟩

/-- A halted fund stays as it is, whatever is deposited. -/
lemma after_funding_of_halted (hf : f.halted = true) : f.after (funding amounts) = f := by
  induction amounts with
  | nil => rfl
  | cons a as ih => rw [after_funding_cons, call_of_halted hf rfl, ih]

/-- **Two deposits halt any fund.** -/
lemma after_funding_largest (hlive : f.halted = false) (h0 : 0 ≤ f.strategy.reserve.toRat) :
    ∃ r, f.after (funding [Decimal.largest, Decimal.largest]) = (f.withReserve r).halt := by
  have hpos : Decimal.zero < Decimal.largest := by decide
  have hlarge := Decimal.toRat_largest
  by_cases hin : InRange (f.strategy.reserve.toRat + Decimal.largest.toRat)
  · obtain ⟨r, hr, hrounds⟩ := call_deposit_of_inRange hlive hpos hin
    have hge : Decimal.largest.toRat ≤ r.toRat := hrounds.ge (by linarith)
    have hout : ¬ InRange ((f.withReserve r).strategy.reserve.toRat + Decimal.largest.toRat) := by
      intro hlt
      have hlt := (le_abs_self _).trans_lt hlt
      change r.toRat + _ < _ at hlt
      have hone : (2 : ℚ) ≤ limit := by norm_num [Decimal.limit_eq]
      linarith
    have hcrash := call_deposit_of_not_inRange (f := f.withReserve r) hlive hpos hout
    refine ⟨r, ?_⟩
    rw [after_funding_cons, hr, after_funding_cons, hcrash]
    rfl
  · have hcrash := call_deposit_of_not_inRange hlive hpos hin
    refine ⟨f.strategy.reserve, ?_⟩
    rw [after_funding_cons, hcrash]
    exact after_funding_of_halted rfl

end Funding

/-- **What deposits do to a fund.**  A deposit of nothing is refused.  Any other is added to the
reserve as long as the sum is in range, exactly if the sum is a decimal, and nothing else changes;
where the sum is out of range the fund is halted.  So deposits well below the range leave a fund in
use; but from every state two deposits of the largest decimal halt it, and then every step that
needs the strategy is refused. -/
theorem deposits_halt_out_of_range {f : Fund} (hf : f.Reachable) (hlive : f.halted = false) :
    (∀ amount,
      (¬ Decimal.zero < amount → f.call (.depositReward amount)
        = (f, .error (.refused (.invalidSettings (.notPositive amount))))) ∧
      (Decimal.zero < amount → InRange (f.strategy.reserve.toRat + amount.toRat) →
        ∃ r, f.call (.depositReward amount) = (f.withReserve r, .ok (.decimal r)) ∧
          Rounds (f.strategy.reserve.toRat + amount.toRat) r ∧
          ((∃ z : Decimal, z.toRat = f.strategy.reserve.toRat + amount.toRat) ↔
            r.toRat = f.strategy.reserve.toRat + amount.toRat)) ∧
      (Decimal.zero < amount → ¬ InRange (f.strategy.reserve.toRat + amount.toRat) →
        f.call (.depositReward amount) = (f.halt, .error (.crashed .addition)))) ∧
      (∀ amounts, (∀ a ∈ amounts, Decimal.zero < a) →
        f.strategy.reserve.toRat + Decimal.total amounts + 8 * amounts.length ≤ limit - 1 →
        ∃ r, f.after (funding amounts) = f.withReserve r ∧
          |r.toRat - (f.strategy.reserve.toRat + Decimal.total amounts)| ≤ 8 * amounts.length) ∧
      ∃ r, f.after (funding [Decimal.largest, Decimal.largest]) = (f.withReserve r).halt ∧
        ∀ s : Step, s.needsStrategy = true →
          (f.withReserve r).halt.step s
            = ((f.withReserve r).halt, .error (.refused (s.refusedFor f.guard))) := by
  have h0 := hf.sound.reserve_nonneg
  refine ⟨fun amount => ⟨call_deposit_of_not_pos, ?_, call_deposit_of_not_inRange hlive⟩,
    fun amounts => after_funding hlive h0, ?_⟩
  · intro hpos hin
    obtain ⟨r, hr, hrounds⟩ := call_deposit_of_inRange hlive hpos hin
    refine ⟨r, hr, hrounds, ?_, fun heq => ⟨r, heq⟩⟩
    rintro ⟨z, hz⟩
    exact hrounds.eq hz.symm
  · obtain ⟨r, hr⟩ := after_funding_largest hlive h0
    exact ⟨r, hr, fun s hs => step_of_halted rfl hs⟩

/-- The fund at hand takes a deposit of one, and is halted by two of the largest decimal. -/
theorem deposits_halt_out_of_range_trial :
    (∃ r, (Trial.fund (Venue.exact "dex")).call (.depositReward Decimal.one)
        = ((Trial.fund (Venue.exact "dex")).withReserve r, .ok (.decimal r)) ∧ r.toRat = 1) ∧
      ((Trial.fund (Venue.exact "dex")).after
        (funding [Decimal.largest, Decimal.largest])).halted = true := by
  have hzero : (Trial.fund (Venue.exact "dex")).strategy.reserve.toRat = 0 := by decide +kernel
  obtain ⟨hone, -, r, hhalts, -⟩ :=
    deposits_halt_out_of_range (Trial.reachable (Venue.exact "dex")) (by rfl)
  have hin : InRange ((Trial.fund (Venue.exact "dex")).strategy.reserve.toRat
      + Decimal.one.toRat) := by
    rw [hzero, zero_add]
    exact Decimal.inRange_toRat _
  constructor
  · obtain ⟨r, hr, -, hexact⟩ := (hone Decimal.one).2.1 (by decide) hin
    rw [hzero, zero_add, Decimal.toRat_one] at hexact
    exact ⟨r, hr, hexact.1 ⟨Decimal.one, Decimal.toRat_one⟩⟩
  · rw [hhalts]
    rfl

/-- The fund at hand after a deposit of the largest decimal. -/
def Trial.brimming : Fund := (fund (Venue.exact "dex")).after (funding [Decimal.largest])

/-- **A deposit can crash**, and then nobody can use the fund; and a deposit can be accepted without
being added. -/
theorem deposit_of_brimming :
    Trial.brimming.Reachable ∧ Trial.brimming.halted = false ∧
      Trial.brimming.call (.depositReward Decimal.one)
        = (Trial.brimming.halt, .error (.crashed .addition)) ∧
      (Trial.brimming.halt.step (.ask .settings)).2 = .error (.refused .halted) ∧
      Trial.brimming.call (.depositReward (Trial.number 1 1))
        = (Trial.brimming, .ok (.decimal Decimal.largest)) := by
  refine ⟨(Trial.reachable _).after _, by rfl, by rfl, by rfl, by rfl⟩

end Fund

end LeverageKeeper
