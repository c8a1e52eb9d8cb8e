import LeverageKeeper.Proofs.Fund.Authority
import LeverageKeeper.Proofs.Fund.LifeCycle

/-!
Where the money for bounties goes.  Anyone may add to the reserve; a ripcord pays its caller what
is promised, as far as the reserve goes, and a withdrawal pays the operator all of it.  Nothing else
touches the reserve or pays a bounty.  So as long as bounties can be paid and no sum is rounded,
everything that was ever added is in the reserve or has been paid out.
-/

namespace LeverageKeeper

namespace Decimal

/-- The exact sum of some amounts. -/
def total (amounts : List Decimal) : ℚ := (amounts.map toRat).sum

lemma nonneg_of_zero_le {x : Decimal} (h : zero ≤ x) : 0 ≤ x.toRat := by
  have hle := le_iff_toRat.1 h
  rwa [toRat_zero] at hle

lemma eq_zero_of_not_pos {x : Decimal} (h : ¬ zero < x) (hx : 0 ≤ x.toRat) : x.toRat = 0 := by
  have hle := le_iff_toRat.1 (not_lt.1 h)
  rw [toRat_zero] at hle
  exact le_antisymm hle hx

lemma total_append (xs ys : List Decimal) : total (xs ++ ys) = total xs + total ys := by
  unfold total
  rw [List.map_append, List.sum_append]

lemma total_cons (x : Decimal) (xs : List Decimal) : total (x :: xs) = x.toRat + total xs := rfl

lemma total_nonneg {xs : List Decimal} (h : ∀ x ∈ xs, 0 < x.toRat) : 0 ≤ total xs := by
  apply List.sum_nonneg
  intro q hq
  obtain ⟨x, hx, rfl⟩ := List.mem_map.1 hq
  exact (h x hx).le

lemma total_pos {xs : List Decimal} (hne : xs ≠ []) (h : ∀ x ∈ xs, 0 < x.toRat) : 0 < total xs := by
  cases xs with
  | nil => exact absurd rfl hne
  | cons x xs =>
    have hx := h x List.mem_cons_self
    have hrest := total_nonneg fun y hy => h y (List.mem_cons_of_mem x hy)
    rw [total_cons]
    linarith

end Decimal

/-- Whether a call has to do with the reserve. -/
def Call.reachesReserve : Call → Bool
  | .ripcord .. | .depositReward _ | .withdrawReward _ => true
  | _ => false

namespace Fund

/-! ### Calls that pay nothing -/

/-- The reserve and the bounties are the same. -/
structure Keeps (f g : Fund) : Prop where
  reserve : g.strategy.reserve = f.strategy.reserve
  rewards : g.ledger.book.rewards = f.ledger.book.rewards

/-- The amount goes from the reserve to the payee, and is entered unless it is zero. -/
structure Pays (f g : Fund) (payee : Address) (amount : Decimal) : Prop where
  reserve : g.strategy.reserve.toRat = f.strategy.reserve.toRat - amount.toRat
  rewards : g.ledger.book.rewards
    = f.ledger.book.rewards ++ if Decimal.zero < amount then [(payee, amount)] else []

section Calls

variable {f : Fund} {c : Call} {a : Answer}

lemma keeps_afterFailure (e : Failure) : f.Keeps (f.afterFailure e) := by
  cases e <;> exact ⟨rfl, rfl⟩

/-- A call that neither goes through with its trade nor changes something else pays nothing, even if
the ledger has its trade. -/
lemma keeps_or_executes (f : Fund) (c : Call) :
    f.Keeps (f.call c).1 ∨ (∃ t x l r, f.Executes c t x l r) ∨
      ∃ g a, f.Changes g a ∧ f.call c = (g, .ok a) := by
  rcases call_cases f c with ⟨e, he⟩ | ⟨t, x, l, ho⟩ | hx | hg
  · rw [he]
    exact .inl (keeps_afterFailure e)
  · rw [ho.call_eq]
    exact .inl ⟨rfl, Ledger.commit_rewards ho.enters.commit⟩
  · exact .inr (.inl hx)
  · exact .inr (.inr hg)

/-- **A call that fails pays nothing.** -/
theorem keeps_of_error {e : Failure} (h : (f.call c).2 = .error e) : f.Keeps (f.call c).1 := by
  rcases keeps_or_executes f c with hkeeps | ⟨t, x, l, r, hx⟩ | ⟨g, a, -, he⟩
  · exact hkeeps
  · obtain ⟨a, ha, -⟩ := hx.report_of_call
    rw [ha] at h
    cases h
  · rw [he] at h
    cases h

/-- A call that changes something replies with an amount only if it reaches the reserve. -/
lemma keeps_of_changes {g : Fund} (hc : c.reachesReserve = false) (h : f.Changes g a)
    (he : f.call c = (g, .ok a)) : f.Keeps g := by
  have hdecimal : ∀ d, a ≠ .decimal d := by
    rintro d rfl
    have hreply : (f.call c).2 = .ok (.decimal d) := congrArg Prod.snd he
    cases c with
    | ripcord | depositReward | withdrawReward => cases hc
    | _ =>
      obtain ⟨_, -, hd⟩ := map_eq_ok.1 hreply
      cases hd
  -- what changes the reserve answers with an amount
  cases h with
  | deposited | kept | withdrawn => exact absurd rfl (hdecimal _)
  | _ => exact ⟨rfl, rfl⟩

/-- **Most calls pay nothing**: all but ripcords, deposits and withdrawals. -/
theorem keeps_of_call (hc : c.reachesReserve = false) : f.Keeps (f.call c).1 := by
  rcases keeps_or_executes f c with hkeeps | ⟨t, x, l, r, hx⟩ | ⟨g, a, hg, he⟩
  · exact hkeeps
  · rw [hx.call_eq]
    have hrewards := Ledger.commit_rewards hx.enters.commit
    cases c with
    | ripcord | depositReward | withdrawReward => cases hc
    | _ => exact ⟨rfl, hrewards⟩
  · rw [he]
    exact keeps_of_changes hc hg he

/-! ### Calls that reach the reserve -/

lemma Sound.reserve_nonneg (hs : f.Sound) : 0 ≤ f.strategy.reserve.toRat :=
  Decimal.nonneg_of_zero_le hs.reserve

/-- What is promised is not negative, and neither is the reserve. -/
lemma Sound.bounty_nonneg (hs : f.Sound) : 0 ≤ f.bounty.toRat := by
  obtain ⟨-, -, -, -, hreward⟩ :=
    Incentive.violations_eq_nil.1 (Settings.valid_iff.1 hs.settings).2.2
  unfold bounty
  rcases Decimal.min_eq_or f.strategy.settings.incentive.reward f.strategy.reserve with h | h
  · rw [h]
    exact Decimal.nonneg_of_zero_le hreward
  · rw [h]
    exact hs.reserve_nonneg

/-- What is taken for a bounty leaves the exact rest of the reserve. -/
def TakesExactly (f : Fund) : Prop :=
  ∀ c ∈ f.strategy.reserve.sub? f.bounty,
    c.toRat = f.strategy.reserve.toRat - f.bounty.toRat

/-- What is added makes an exact sum with the reserve. -/
def AddsExactly (f : Fund) (amount : Decimal) : Prop :=
  ∀ c ∈ f.strategy.reserve.add? amount, c.toRat = f.strategy.reserve.toRat + amount.toRat

instance (f : Fund) : Decidable f.TakesExactly := by
  unfold TakesExactly
  infer_instance

instance (f : Fund) (amount : Decimal) : Decidable (f.AddsExactly amount) := by
  unfold AddsExactly
  infer_instance

lemma payBounty_pays (hs : f.Sound) (hout : f.ledger.outage.reward = none)
    (hexact : f.TakesExactly) (payee : Address) :
    f.Pays (f.payBounty payee).1 payee f.bounty ∧
      (f.payBounty payee).2 = if Decimal.zero < f.bounty then f.bounty else Decimal.zero := by
  unfold payBounty
  by_cases hb : Decimal.zero < f.bounty
  · rw [if_neg (Decimal.not_le.2 hb), Ledger.payReward_of_none hout, if_pos hb]
    -- the bounty can always be taken, so the rest is never the default
    obtain ⟨c, hc⟩ := Decimal.minus_ok hs.reserve_nonneg hs.bounty_nonneg
    have hsub := orCrash_eq_ok.1 hc
    refine ⟨⟨?_, ?_⟩, rfl⟩
    · rw [← hexact c hsub]
      simp only [hsub, Option.getD_some]
    · rw [if_pos hb]
      rfl
  · rw [if_pos (Decimal.not_lt.1 hb), if_neg hb]
    refine ⟨⟨?_, ?_⟩, rfl⟩
    · rw [Decimal.eq_zero_of_not_pos hb hs.bounty_nonneg, sub_zero]
    · rw [if_neg hb, List.append_nil]

/-- What a call that goes through does to the reserve and the bounties, and what its reply says of
it. -/
def Settles (f g : Fund) : Call → Answer → Prop
  | .ripcord caller _, a =>
    f.Pays g caller f.bounty ∧
      ∃ r, a = .rescue ⟨r, caller, if Decimal.zero < f.bounty then f.bounty else Decimal.zero⟩
  | .depositReward amount, a =>
    g.strategy.reserve.toRat = f.strategy.reserve.toRat + amount.toRat ∧
      g.ledger.book.rewards = f.ledger.book.rewards ∧ a = .decimal g.strategy.reserve
  | .withdrawReward caller, a =>
    f.Pays g caller f.strategy.reserve ∧ caller = f.guard.operator ∧
      a = .decimal f.strategy.reserve
  | _, _ => f.Keeps g

/-- **A ripcord pays its caller** what is promised, as far as the reserve goes. -/
theorem ripcord_settles {caller : Address} {venue : String} (hs : f.Sound)
    (hout : f.ledger.outage.reward = none) (hexact : f.TakesExactly)
    (h : (f.call (.ripcord caller venue)).2 = .ok a) :
    f.Settles (f.call (.ripcord caller venue)).1 (.ripcord caller venue) a := by
  obtain ⟨x, -, rfl⟩ := map_eq_ok.1 h
  obtain ⟨t, fill, l, hx⟩ := executes_of_report h rfl
  have hcommit := hx.enters.commit
  -- the bounty is paid after the trade, out of a reserve that the trade leaves alone
  have hsettled : ((f.settled t l).withTwap .idle).Sound :=
    (hs.settled t l).withTwap (w := .idle) trivial
  obtain ⟨hpays, hpaid⟩ := payBounty_pays hsettled
    ((congrArg Outage.reward (Ledger.commit_outage hcommit)).trans hout) hexact caller
  rw [hx.call_eq, finish_ripcord] at h ⊢
  have hreply := Except.ok.inj h
  rw [hpaid] at hreply
  refine ⟨⟨hpays.reserve, ?_⟩, x.report, hreply.symm⟩
  rw [← Ledger.commit_rewards hcommit]
  exact hpays.rewards

/-- **A deposit adds its amount to the reserve.** -/
theorem depositReward_settles {amount : Decimal} (hexact : f.AddsExactly amount)
    (h : (f.call (.depositReward amount)).2 = .ok a) :
    f.Settles (f.call (.depositReward amount)).1 (.depositReward amount) a := by
  cases hd : f.decideDeposit amount with
  | error e =>
    rw [call, depositReward, hd] at h
    cases h
  | ok reserve =>
    rw [call, depositReward, hd] at h ⊢
    cases h
    unfold decideDeposit at hd
    simp only [bind_eq_ok, lift_eq_ok] at hd
    obtain ⟨_, -, _, -, hsum⟩ := hd
    exact ⟨hexact reserve (orCrash_eq_ok.1 hsum), rfl, rfl⟩

lemma decideWithdrawal_eq_ok {caller : Address} {l : Ledger}
    (h : f.decideWithdrawal caller = .ok l) :
    caller = f.guard.operator ∧
      if Decimal.zero < f.strategy.reserve then
        l = { f.ledger with book := f.ledger.book.reward caller f.strategy.reserve }
      else l = f.ledger := by
  unfold decideWithdrawal at h
  simp only [bind_eq_ok, lift_eq_ok, Guard.requireOperator_eq_ok] at h
  obtain ⟨_, hop, _, -, h⟩ := h
  refine ⟨hop, ?_⟩
  by_cases hz : Decimal.zero < f.strategy.reserve
  · rw [if_pos hz] at h ⊢
    exact Ledger.payReward_eq_ok (lift_eq_ok.1 h)
  · rw [if_neg hz] at h ⊢
    exact (pure_eq_ok.1 h).symm

/-- **A withdrawal pays the whole reserve to the operator.** -/
theorem withdrawReward_settles {caller : Address} (hs : f.Sound)
    (h : (f.call (.withdrawReward caller)).2 = .ok a) :
    f.Settles (f.call (.withdrawReward caller)).1 (.withdrawReward caller) a := by
  cases hd : f.decideWithdrawal caller with
  | error e =>
    rw [call, withdrawReward, hd] at h
    cases h
  | ok l =>
    obtain ⟨hop, hl⟩ := decideWithdrawal_eq_ok hd
    rw [call, withdrawReward, hd, attempt_ok] at h ⊢
    by_cases hz : Decimal.zero < f.strategy.reserve
    · rw [if_pos hz] at h hl ⊢
      cases h
      refine ⟨⟨?_, ?_⟩, hop, rfl⟩
      · exact Decimal.toRat_zero.trans (sub_self _).symm
      · rw [if_pos hz, hl]
        rfl
    · rw [if_neg hz] at h hl ⊢
      cases h
      refine ⟨⟨?_, ?_⟩, hop, rfl⟩
      · rw [Decimal.eq_zero_of_not_pos hz hs.reserve_nonneg, sub_zero]
        exact Decimal.eq_zero_of_not_pos hz hs.reserve_nonneg
      · rw [if_neg hz, List.append_nil]
        rfl

end Calls

/-! ### Histories -/

/-- Each step of a history has a property in the fund that takes it. -/
def EachStep (p : Fund → Step → Prop) : Fund → List Step → Prop
  | _, [] => True
  | f, s :: ss => p f s ∧ EachStep p (f.step s).1 ss

instance decidableEachStep {p : Fund → Step → Prop} [∀ f s, Decidable (p f s)] :
    ∀ (f : Fund) (ss : List Step), Decidable (EachStep p f ss)
  | _, [] => inferInstanceAs (Decidable True)
  | f, s :: ss =>
    have := decidableEachStep (p := p) (f.step s).1 ss
    inferInstanceAs (Decidable (p f s ∧ EachStep p (f.step s).1 ss))

/-- The step rounds nothing when it adds to the reserve or takes from it. -/
def Unrounded (f : Fund) (s : Step) : Prop :=
  match f.callOf? s with
  | some (.depositReward amount) => f.AddsExactly amount
  | some (.ripcord ..) => f.TakesExactly
  | _ => True

instance (f : Fund) (s : Step) : Decidable (f.Unrounded s) := by
  unfold Unrounded
  split <;> infer_instance

/-- The reply of a step's call accounts for the reserve and the bounties, and without one they stay
as they are. -/
structure Accounts (f : Fund) (s : Step) : Prop where
  settles : ∀ c a, f.callOf? s = some c → f.replyTo? s = some a → f.Settles (f.step s).1 c a
  keeps : f.replyTo? s = none → f.Keeps (f.step s).1

/-- What a step adds to the reserve, if it does. -/
def depositOf? (f : Fund) (s : Step) : Option Decimal :=
  match f.callOf? s, f.replyTo? s with
  | some (.depositReward amount), some _ => some amount
  | _, _ => none

/-- What the steps of a history add to the reserve. -/
def deposits (f : Fund) : List Step → List Decimal
  | [] => []
  | s :: ss => (f.depositOf? s).toList ++ (f.step s).1.deposits ss

section Histories

variable {f : Fund} {s : Step}

/-- **A step that makes no call pays nothing.** -/
lemma keeps_of_no_call (h : f.callOf? s = none) : f.Keeps (f.step s).1 := by
  rcases idle_cases h with ⟨e, rfl⟩ | he | ⟨e, he⟩
  · obtain ⟨now, feeds, outage, blind, he⟩ := event_eq (f := f) e
    change f.Keeps (f.event e).1
    rw [he]
    exact ⟨rfl, rfl⟩
  · rw [he]
    exact ⟨rfl, rfl⟩
  · rw [he]
    exact keeps_afterFailure e

/-- **Every step accounts for the reserve and the bounties.** -/
theorem step_accounts (hs : f.Sound) (hout : f.ledger.outage.reward = none)
    (hexact : f.Unrounded s) : f.Accounts s := by
  unfold Unrounded at hexact
  cases hc : f.callOf? s with
  | none =>
    refine ⟨fun c a h => ?_, fun _ => keeps_of_no_call hc⟩
    rw [hc] at h
    cases h
  | some c =>
    rw [hc] at hexact
    constructor
    · intro c' a hc' ha
      obtain rfl : c = c' := Option.some.inj (hc.symm.trans hc')
      rw [replyTo?_of_callOf? hc] at ha
      have ha := toOption_eq_some.1 ha
      rw [step_of_callOf? hc]
      cases c with
      | ripcord caller venue => exact ripcord_settles hs hout hexact ha
      | depositReward amount => exact depositReward_settles hexact ha
      | withdrawReward caller => exact withdrawReward_settles hs ha
      | _ => exact keeps_of_call rfl
    · intro hnone
      rw [replyTo?_of_callOf? hc] at hnone
      rw [step_of_callOf? hc]
      cases he : (f.call c).2 with
      | ok a =>
        rw [he] at hnone
        cases hnone
      | error e => exact keeps_of_error he

/-- Bounties are paid on top of earlier ones, and what is added makes up for them. -/
structure AddsUp (f g : Fund) (deposits : List Decimal) (paid : List (Address × Decimal)) :
    Prop where
  rewards : g.ledger.book.rewards = f.ledger.book.rewards ++ paid
  reserve : f.strategy.reserve.toRat + Decimal.total deposits
    = g.strategy.reserve.toRat + Decimal.total (paid.map (·.2))

lemma Keeps.addsUp {g : Fund} (h : f.Keeps g) : f.AddsUp g [] [] :=
  ⟨by rw [h.rewards, List.append_nil], by rw [h.reserve]; rfl⟩

lemma Pays.addsUp {g : Fund} {payee : Address} {amount : Decimal} (h : f.Pays g payee amount)
    (ha : 0 ≤ amount.toRat) : ∃ paid, f.AddsUp g [] paid := by
  refine ⟨_, h.rewards, ?_⟩
  rw [h.reserve]
  by_cases hp : Decimal.zero < amount
  · rw [if_pos hp]
    simp [Decimal.total]
  · rw [if_neg hp, Decimal.eq_zero_of_not_pos hp ha]
    simp [Decimal.total]

lemma AddsUp.trans {g h : Fund} {xs ys : List Decimal} {paid paid' : List (Address × Decimal)}
    (hf : f.AddsUp g xs paid) (hg : g.AddsUp h ys paid') :
    f.AddsUp h (xs ++ ys) (paid ++ paid') := by
  constructor
  · rw [hg.rewards, hf.rewards, List.append_assoc]
  · have h1 := hf.reserve
    have h2 := hg.reserve
    rw [Decimal.total_append, List.map_append, Decimal.total_append]
    linarith

/-- **What is added in a step is in the reserve or paid out.** -/
theorem Accounts.addsUp (h : f.Accounts s) (hs : f.Sound) :
    ∃ paid, f.AddsUp (f.step s).1 (f.depositOf? s).toList paid := by
  unfold depositOf?
  cases ha : f.replyTo? s with
  | none =>
    refine ⟨[], ?_⟩
    have hk := (h.keeps ha).addsUp
    cases f.callOf? s with
    | none => exact hk
    | some c => cases c <;> exact hk
  | some a =>
    cases hc : f.callOf? s with
    | none =>
      unfold replyTo? at ha
      rw [hc] at ha
      cases ha
    | some c =>
      have hsettles := h.settles c a hc ha
      cases c with
      | ripcord caller venue => exact hsettles.1.addsUp hs.bounty_nonneg
      | withdrawReward caller => exact hsettles.1.addsUp hs.reserve_nonneg
      | depositReward amount =>
        obtain ⟨hsum, hrewards, -⟩ := hsettles
        refine ⟨[], by rw [hrewards, List.append_nil], ?_⟩
        rw [hsum]
        simp [Decimal.total]
      | _ => exact ⟨[], hsettles.addsUp⟩

/-- **What is added in a history is in the reserve or paid out.** -/
theorem addsUp_after (hs : f.Sound) {ss : List Step}
    (hout : Throughout (fun g => g.ledger.outage.reward = none) f ss)
    (hexact : EachStep Unrounded f ss) :
    (∃ paid, f.AddsUp (f.after ss) (f.deposits ss) paid) ∧ EachStep Accounts f ss := by
  induction ss generalizing f with
  | nil => exact ⟨⟨[], Keeps.addsUp ⟨rfl, rfl⟩⟩, trivial⟩
  | cons s ss ih =>
    obtain ⟨hnow, hlater⟩ := throughout_cons.1 hout
    have hstep := step_accounts hs hnow hexact.1
    obtain ⟨paid, hpaid⟩ := hstep.addsUp hs
    obtain ⟨⟨paid', hpaid'⟩, hrest⟩ := ih (hs.step s) hlater hexact.2
    exact ⟨⟨paid ++ paid', hpaid.trans hpaid'⟩, hstep, hrest⟩

end Histories

/-- **Bounty accounting.**  As long as bounties can be paid and nothing is rounded that is added to
the reserve or taken from it, all that was ever added to the reserve of a fund is in it or has been
paid out.  Each step accounts for its part: a ripcord that goes through pays its caller what is
promised or what is left, whichever is less, enters it once if it is positive, reports it, and takes
it from the reserve; a withdrawal pays all of the reserve to the operator; a deposit adds its
amount; and no other step, and no call that fails, pays a bounty or changes the reserve. -/
theorem bounties_add_up {assets : Assets} {settings : Settings} {ledger : Ledger} {feeds : Feeds}
    {now : UInt64} {guard : Guard} {f : Fund} {ss : List Step}
    (hf : create assets settings ledger feeds now guard = .ok f)
    (hout : Throughout (fun g => g.ledger.outage.reward = none) f ss)
    (hexact : EachStep Unrounded f ss) :
    (∃ paid, (f.after ss).ledger.book.rewards = ledger.book.rewards ++ paid ∧
      Decimal.total (f.deposits ss)
        = (f.after ss).strategy.reserve.toRat + Decimal.total (paid.map (·.2))) ∧
      EachStep Accounts f ss := by
  have hs : f.Sound := create_sound hf
  obtain ⟨⟨paid, hrewards, hreserve⟩, haccounts⟩ := addsUp_after hs hout hexact
  unfold create at hf
  simp only [bind_eq_ok, pure_eq_ok] at hf
  obtain ⟨_, -, rfl⟩ := hf
  refine ⟨⟨paid, hrewards, ?_⟩, haccounts⟩
  rw [← hreserve, Decimal.toRat_zero, zero_add]

/-- A history in which one token is set aside, a stranger earns it with a ripcord, half a token is
set aside after that, and the operator takes it out. -/
def Trial.rewarding : List Step :=
  [.call (.addVenue operator "dex" (Venue.exact "dex") terms), .call (.depositReward Decimal.one),
    .call (.engage operator "dex"), .event (.setTime 1800), collateralPrice 30 1800,
    .event (.setReading assets.borrowFeed ⟨100, 2, 1800⟩), .tick stranger,
    .call (.depositReward (number 5 1)), .call (.withdrawReward operator)]

theorem bounties_add_up_rewarding :
    let g := Trial.opening.after Trial.rewarding
    let paid := [(Trial.stranger, Decimal.one), (Trial.operator, Trial.number 5 1)]
    g.ledger.book.rewards = paid ∧
      Decimal.total (Trial.opening.deposits Trial.rewarding)
        = g.strategy.reserve.toRat + Decimal.total (paid.map (·.2)) := by
  intro g paid
  have hcreate : create Trial.assets Trial.settings Trial.opening.ledger Trial.feeds 1000
      Trial.opening.guard = .ok Trial.opening := rfl
  have hout : Throughout (fun g => g.ledger.outage.reward = none) Trial.opening
      Trial.rewarding := by decide +kernel
  have hexact : EachStep Unrounded Trial.opening Trial.rewarding := by decide +kernel
  obtain ⟨⟨paid', hpaid, htotal⟩, -⟩ := bounties_add_up hcreate hout hexact
  have hrewards : g.ledger.book.rewards = paid := by decide +kernel
  obtain rfl : paid' = paid := hpaid.symm.trans hrewards
  exact ⟨hrewards, htotal⟩

end Fund

end LeverageKeeper
