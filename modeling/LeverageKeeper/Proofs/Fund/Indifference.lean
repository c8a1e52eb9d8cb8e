import LeverageKeeper.Proofs.Fund.Bounties

/-!
Money for bounties has nothing to do with trading.  Seen without the reserve and the bounties paid,
a fund goes through every step but a deposit of rewards as it would with an empty reserve, and its
outcome is the same but for the amounts that were paid; a deposit leaves it where it is.  So two
histories that differ in nothing but such deposits cannot be told apart by anything else.
-/

namespace LeverageKeeper

/-! ### Without the money for bounties -/

def Book.unfunded (k : Book) : Book := { k with rewards := [] }

def Ledger.unfunded (l : Ledger) : Ledger := { l with book := l.book.unfunded }

def Strategy.unfunded (s : Strategy) : Strategy := { s with reserve := Decimal.zero }

/-- The fund with an empty reserve, and without the bounties it has paid. -/
def Fund.unfunded (f : Fund) : Fund :=
  { f with strategy := f.strategy.unfunded, ledger := f.ledger.unfunded }

def Rescue.unpaid (x : Rescue) : Rescue := { x with rewardPaid := Decimal.zero }

namespace Step

/-- The step adds to the reserve, or tries to. -/
def isDeposit : Step → Bool
  | .call (.depositReward _) => true
  | _ => false

/-- The answer to a step, but for the amount of a bounty or of a withdrawal. -/
def unpaid : Step → Answer → Answer
  | .call (.withdrawReward _), .decimal _ => .decimal Decimal.zero
  | _, .rescue x => .rescue x.unpaid
  | _, a => a

end Step

namespace Fund

/-- The same result without the money for bounties. -/
def withoutMoney {α β : Type} (i : α → β) (y : Fund × Outcome α) : Fund × Outcome β :=
  (y.1.unfunded, y.2.map i)

section Parts

variable {f : Fund} {α α' β β' : Type}

/-- Attempts that go on alike from decisions that are alike. -/
lemma attempt_unfunded {x : Outcome α} {x' : Outcome α'} {act : α → Fund × Outcome β}
    {act' : α' → Fund × Outcome β'} {j : α → α'} {i : β → β'} (hx : x' = x.map j)
    (h : ∀ a, act' (j a) = withoutMoney i (act a)) :
    f.unfunded.attempt x' act' = withoutMoney i (f.attempt x act) := by
  subst hx
  cases x with
  | ok a => exact h a
  | error e => cases e <;> rfl

lemma attempt_unfunded_same {x : Outcome α} {act : α → Fund × Outcome β}
    {act' : α → Fund × Outcome β'} {i : β → β'} (h : ∀ a, act' a = withoutMoney i (act a)) :
    f.unfunded.attempt x act' = withoutMoney i (f.attempt x act) :=
  attempt_unfunded (j := id) (by cases x <;> rfl) h

lemma answering_unfunded {into : α → Answer} {into' : β → Answer} {i : α → β} {s : Step}
    {y : Fund × Outcome α} {y' : Fund × Outcome β} (hy : y' = withoutMoney i y)
    (h : ∀ a, into' (i a) = s.unpaid (into a)) :
    answering into' y' = withoutMoney s.unpaid (answering into y) := by
  subst hy
  obtain ⟨g, e | a⟩ := y
  · rfl
  · exact congrArg (fun b => (g.unfunded, Except.ok b)) (h a)

end Parts

end Fund

/-! ### The ledger -/

section Ledger

variable {paid received : ℕ}

lemma lift_map {α β : Type} {x : Checked α} {x' : Checked β} {j : α → β} (h : x' = x.map j) :
    (liftM x' : Outcome β) = (liftM x : Outcome α).map j := by
  subst h
  cases x <;> rfl

lemma Book.lever_unfunded (k : Book) :
    k.unfunded.lever paid received = (k.lever paid received).map unfunded :=
  bind_eq_map fun _ => bind_eq_map fun _ => rfl

lemma Book.delever_unfunded (k : Book) :
    k.unfunded.delever paid received
      = (k.delever paid received).map fun y => (y.1.unfunded, y.2) := by
  have hsame : k.unfunded.collateral < paid ↔ k.collateral < paid := Iff.rfl
  unfold delever
  by_cases hheld : k.collateral < paid
  · rw [if_pos hheld, if_pos (hsame.2 hheld)]
    rfl
  · rw [if_neg hheld, if_neg (mt hsame.1 hheld)]
    exact bind_eq_map fun _ => rfl

lemma Ledger.unlessOut_map {α β : Type} {outage : Option String} {x : Checked α} {j : α → β} :
    unlessOut outage (x.map j) = (unlessOut outage x).map j := by
  cases outage <;> rfl

lemma Ledger.commit_unfunded {l : Ledger} {d : Direction} :
    l.unfunded.commit d paid received = (l.commit d paid received).map unfunded := by
  unfold commit
  rw [← unlessOut_map]
  refine congrArg (unlessOut l.outage.commit) ?_
  cases d with
  | lever =>
    change (l.book.unfunded.lever paid received).map _ = _
    rw [Book.lever_unfunded]
    cases l.book.lever paid received <;> rfl
  | delever =>
    change (l.book.unfunded.delever paid received).map _ = _
    rw [Book.delever_unfunded]
    cases l.book.delever paid received <;> rfl

lemma Ledger.deposit_unfunded {l : Ledger} {amount : ℕ} :
    l.unfunded.deposit amount = (l.deposit amount).map unfunded := by
  have hbook : l.book.unfunded.deposit amount = (l.book.deposit amount).map Book.unfunded :=
    bind_eq_map fun _ => rfl
  change (l.book.unfunded.deposit amount).map _ = _
  rw [hbook, deposit]
  cases l.book.deposit amount <;> rfl

end Ledger

namespace Fund

/-! ### Trades -/

section Trades

variable {f : Fund} {t : Trade} {caller : Address} {venue : String}

lemma settle_unfunded : f.unfunded.settle t = withoutMoney id (f.settle t) := by
  refine attempt_unfunded_same fun x => ?_
  refine attempt_unfunded (lift_map Ledger.commit_unfunded) fun l => ?_
  exact attempt_unfunded_same (f := { f with ledger := l }) fun (collateral, borrow) => rfl

lemma settleThen_unfunded {α : Type} {i : α → α} {act : Fund → Report → Fund × Outcome α}
    (h : ∀ g r, act g.unfunded r = withoutMoney i (act g r)) :
    f.unfunded.settleThen t act = withoutMoney i (f.settleThen t act) := by
  unfold settleThen
  rw [settle_unfunded]
  rcases f.settle t with ⟨g, e | r⟩
  · rfl
  · exact h g r

lemma engage_unfunded : f.unfunded.engage caller venue = withoutMoney id (f.engage caller venue) :=
  attempt_unfunded_same fun _ => settleThen_unfunded fun _ _ => rfl

lemma rebalance_unfunded :
    f.unfunded.rebalance caller venue = withoutMoney id (f.rebalance caller venue) :=
  attempt_unfunded_same fun _ => settleThen_unfunded fun _ _ => rfl

lemma iterate_unfunded :
    f.unfunded.iterate caller venue = withoutMoney id (f.iterate caller venue) := by
  refine attempt_unfunded_same fun n => ?_
  cases n with
  | clear target current => rfl
  | trade t => exact settleThen_unfunded fun _ _ => rfl

lemma disengage_unfunded :
    f.unfunded.disengage caller venue = withoutMoney id (f.disengage caller venue) :=
  attempt_unfunded_same fun _ => settleThen_unfunded fun _ _ => rfl

lemma unfunded_payBounty (f : Fund) (payee : Address) :
    (f.payBounty payee).1.unfunded = f.unfunded := by
  rcases payBounty_cases f payee with h | ⟨l, hl, -, h⟩
  · rw [h]
  · obtain rfl := Ledger.payReward_eq_ok hl
    rw [h]
    rfl

/-- An empty reserve pays nothing. -/
lemma payBounty_of_unfunded (f : Fund) (payee : Address) :
    f.unfunded.payBounty payee = (f.unfunded, Decimal.zero) :=
  if_pos (Decimal.min_le_right _ _)

lemma ripcord_unfunded :
    f.unfunded.ripcord caller venue = withoutMoney Rescue.unpaid (f.ripcord caller venue) := by
  refine attempt_unfunded_same fun t => settleThen_unfunded fun g r => ?_
  have hnone := payBounty_of_unfunded (g.withTwap .idle) caller
  have hpaid := unfunded_payBounty (g.withTwap .idle) caller
  change (((g.withTwap .idle).unfunded.payBounty caller).1,
      Except.ok (Rescue.mk r caller ((g.withTwap .idle).unfunded.payBounty caller).2))
    = (((g.withTwap .idle).payBounty caller).1.unfunded,
      Except.ok (Rescue.mk r caller Decimal.zero))
  rw [hnone, hpaid]

end Trades

/-! ### Other calls -/

section Operator

variable {f : Fund} {caller : Address}

lemma change_unfunded {decision decision' : Outcome Strategy}
    (h : decision' = decision.map Strategy.unfunded) :
    f.unfunded.change decision' = withoutMoney id (f.change decision) :=
  attempt_unfunded h fun _ => rfl

lemma decideSettings_unfunded {action : String} {next : Settings} :
    f.unfunded.decideSettings caller action next
      = (f.decideSettings caller action next).map Strategy.unfunded :=
  bind_eq_map fun _ => bind_eq_map fun _ => bind_eq_map fun _ => bind_eq_map fun _ => rfl

lemma decideVenues_unfunded {action : String} {next : Checked Registry} :
    f.unfunded.decideVenues caller action next
      = (f.decideVenues caller action next).map Strategy.unfunded :=
  bind_eq_map fun _ => bind_eq_map fun _ => bind_eq_map fun _ => rfl

lemma changeGuard_unfunded (decision : Checked Guard) :
    f.unfunded.changeGuard decision = withoutMoney id (f.changeGuard decision) :=
  attempt_unfunded_same fun _ => rfl

lemma decideWithdrawal_unfunded (hout : f.ledger.outage.reward = none) :
    f.unfunded.decideWithdrawal caller = (f.decideWithdrawal caller).map Ledger.unfunded := by
  have hnone : ¬ Decimal.zero < f.unfunded.strategy.reserve := Decimal.not_lt.2 (Decimal.le_refl _)
  refine bind_eq_map fun _ => bind_eq_map fun _ => ?_
  rw [if_neg hnone]
  by_cases hz : Decimal.zero < f.strategy.reserve
  · rw [if_pos hz, Ledger.payReward_of_none hout]
    rfl
  · rw [if_neg hz]
    rfl

/-- A withdrawal of nothing ends as one of a whole reserve. -/
lemma withdrawReward_unfunded (hout : f.ledger.outage.reward = none) :
    f.unfunded.withdrawReward caller
      = withoutMoney (fun _ => Decimal.zero) (f.withdrawReward caller) := by
  have hnone : ¬ Decimal.zero < f.unfunded.strategy.reserve := Decimal.not_lt.2 (Decimal.le_refl _)
  unfold withdrawReward
  rw [decideWithdrawal_unfunded hout]
  cases hd : f.decideWithdrawal caller with
  | error e => cases e <;> rfl
  | ok l =>
    obtain ⟨-, hl⟩ := decideWithdrawal_eq_ok hd
    change f.unfunded.attempt (.ok l.unfunded) _ = _
    rw [attempt_ok, if_neg hnone, attempt_ok]
    by_cases hz : Decimal.zero < f.strategy.reserve
    · rw [if_pos hz] at hl ⊢
      rw [hl]
      rfl
    · rw [if_neg hz]
      rfl

/-- **A call other than a deposit ends in the same way without the money for bounties.** -/
theorem call_unfunded {c : Call} (hc : Step.isDeposit (.call c) = false)
    (hout : f.ledger.outage.reward = none) :
    f.unfunded.call c = withoutMoney (Step.unpaid (.call c)) (f.call c) := by
  cases c with
  | engage caller venue => exact answering_unfunded engage_unfunded fun _ => rfl
  | rebalance caller venue => exact answering_unfunded rebalance_unfunded fun _ => rfl
  | iterate caller venue => exact answering_unfunded iterate_unfunded fun _ => rfl
  | ripcord caller venue => exact answering_unfunded ripcord_unfunded fun _ => rfl
  | disengage caller venue => exact answering_unfunded disengage_unfunded fun _ => rfl
  | setMethodology caller m =>
    exact answering_unfunded (change_unfunded decideSettings_unfunded) fun _ => rfl
  | setExecution caller x =>
    exact answering_unfunded (change_unfunded decideSettings_unfunded) fun _ => rfl
  | setIncentive caller i =>
    exact answering_unfunded (change_unfunded decideSettings_unfunded) fun _ => rfl
  | addVenue caller name venue terms =>
    exact answering_unfunded (change_unfunded decideVenues_unfunded) fun _ => rfl
  | updateVenue caller name terms =>
    exact answering_unfunded (change_unfunded decideVenues_unfunded) fun _ => rfl
  | removeVenue caller name =>
    exact answering_unfunded (change_unfunded decideVenues_unfunded) fun _ => rfl
  | setCallerStatus caller account allowed =>
    exact answering_unfunded (changeGuard_unfunded _) fun _ => rfl
  | setAnyoneCallable caller isOpen =>
    exact answering_unfunded (changeGuard_unfunded _) fun _ => rfl
  | depositReward amount => cases hc
  | withdrawReward caller => exact answering_unfunded (withdrawReward_unfunded hout) fun _ => rfl

end Operator

/-! ### Steps -/

section Steps

variable {f : Fund} {s : Step}

lemma perform_unfunded (keeper : Address) (venue : String) (a : Action) :
    Keeper.perform f.unfunded keeper venue a
      = withoutMoney id (Keeper.perform f keeper venue a) := by
  cases a with
  | ripcord =>
    unfold Keeper.perform
    rw [ripcord_unfunded]
    rcases f.ripcord keeper venue with ⟨g, e | x⟩ <;> rfl
  | iterate =>
    unfold Keeper.perform
    rw [iterate_unfunded]
    rcases f.iterate keeper venue with ⟨g, e | x⟩ <;> rfl
  | rebalance =>
    unfold Keeper.perform
    rw [rebalance_unfunded]
    rcases f.rebalance keeper venue with ⟨g, e | x⟩ <;> rfl
  | none => rfl

lemma tick_unfunded (keeper : Address) :
    Keeper.tick f.unfunded keeper = withoutMoney id (Keeper.tick f keeper) := by
  refine attempt_unfunded_same fun actions => ?_
  cases Keeper.pick? actions with
  | none => rfl
  | some p =>
    obtain ⟨venue, a⟩ := p
    dsimp only
    rw [perform_unfunded]
    rcases Keeper.perform f keeper venue a with ⟨g, (r | c) | leverageAfter⟩
    · simp only [withoutMoney, Except.map, Keeper.conclude]
      split <;> rfl
    · rfl
    · rfl

/-- Answers that speak of no bounty are the same. -/
lemma map_unpaid {α : Type} (x : Outcome α) {into : α → Answer}
    (h : ∀ a, s.unpaid (into a) = into a) : x.map into = (x.map into).map s.unpaid := by
  cases x with
  | ok a => exact congrArg Except.ok (h a).symm
  | error e => rfl

lemma ask_unfunded (q : Question) :
    f.unfunded.ask q = withoutMoney (Step.unpaid (.ask q)) (f.ask q) := by
  have looked : ∀ {α : Type} (x : Outcome α) (into : α → Answer),
      (∀ a, Step.unpaid (.ask q) (into a) = into a) →
        f.unfunded.look (x.map into) = withoutMoney (Step.unpaid (.ask q)) (f.look (x.map into)) :=
    fun x into h => attempt_unfunded (map_unpaid x h) fun _ => rfl
  cases q with
  | leverage => exact congrArg (Prod.mk f.unfunded) (map_unpaid f.leverage fun _ => rfl)
  | position => exact congrArg (Prod.mk f.unfunded) (map_unpaid f.position fun _ => rfl)
  | actions => exact looked f.actions _ fun _ => rfl
  | preview venue => exact looked (f.preview venue) _ fun _ => rfl
  | settings => exact looked (f.kept fun s => .ok s.settings) _ fun _ => rfl
  | terms venue =>
    exact looked (f.kept fun s => (s.venues.get venue).map (·.terms)) .terms fun _ => rfl
  | _ => rfl

lemma around_unfunded {α : Type} {x x' : Checked α} {j : α → α} {k k' : α → Fund} {e : Event}
    (hx : x' = x.map j) (h : ∀ a, k' (j a) = (k a).unfunded) :
    f.unfunded.around (x'.map k')
      = withoutMoney (Step.unpaid (.event e)) (f.around (x.map k)) := by
  subst hx
  cases x with
  | ok a => exact congrArg (fun g => (g, Except.ok Answer.done)) (h a)
  | error r => rfl

lemma event_unfunded (e : Event) :
    f.unfunded.event e = withoutMoney (Step.unpaid (.event e)) (f.event e) := by
  cases e with
  | setPrice feed price time =>
    refine around_unfunded (j := id) ?_ fun _ => rfl
    exact (congrFun Except.map_id _).symm
  | deposit amount =>
    exact around_unfunded Ledger.deposit_unfunded fun _ => rfl
  | _ => rfl

/-- **A step other than a deposit of rewards ends in the same way without the money for bounties**,
but for the amounts paid. -/
theorem step_unfunded (hs : s.isDeposit = false) (hout : f.ledger.outage.reward = none) :
    f.unfunded.step s = withoutMoney s.unpaid (f.step s) := by
  cases s with
  | call c => exact call_unfunded hs hout
  | tick keeper => exact answering_unfunded (tick_unfunded keeper) fun _ => rfl
  | ask q => exact ask_unfunded q
  | event e => exact event_unfunded e

/-- **A deposit of rewards that does not crash leaves everything else where it is.** -/
theorem deposit_unfunded (hs : s.isDeposit = true) (hcrash : crash? (f.step s).2 = none) :
    (f.step s).1.unfunded = f.unfunded := by
  cases s with
  | call c =>
    cases c with
    | depositReward amount =>
      cases hd : f.decideDeposit amount with
      | ok reserve =>
        rw [step, call, depositReward, hd]
        rfl
      | error e =>
        rw [step, call, depositReward, hd] at hcrash ⊢
        cases e with
        | refused r => rfl
        | crashed c => cases hcrash
    | _ => cases hs
  | _ => cases hs

end Steps

/-! ### Histories -/

/-- The ledger can pay bounties, and a deposit of rewards finds room in the reserve. -/
structure Solvent (f : Fund) (s : Step) : Prop where
  pays : f.ledger.outage.reward = none
  room : s.isDeposit = true → crash? (f.step s).2 = none

instance (f : Fund) (s : Step) : Decidable (f.Solvent s) :=
  decidable_of_iff
    (f.ledger.outage.reward = none ∧ (s.isDeposit = true → crash? (f.step s).2 = none))
    ⟨fun h => ⟨h.1, h.2⟩, fun h => ⟨h.pays, h.room⟩⟩

/-- A history without its deposits of rewards. -/
def trading (ss : List Step) : List Step := ss.filter fun s => !s.isDeposit

/-- The outcomes of all steps but deposits of rewards, without the amounts of bounties. -/
def observed (f : Fund) : List Step → List (Outcome Answer)
  | [] => []
  | s :: ss =>
    if s.isDeposit then (f.step s).1.observed ss
    else (f.step s).2.map s.unpaid :: (f.step s).1.observed ss

section Histories

variable {f : Fund} {s : Step} {ss : List Step}

lemma trading_cons_deposit (hs : s.isDeposit = true) : trading (s :: ss) = trading ss := by
  unfold trading
  rw [List.filter_cons_of_neg (by simp [hs])]

lemma trading_cons (hs : s.isDeposit = false) : trading (s :: ss) = s :: trading ss := by
  unfold trading
  rw [List.filter_cons_of_pos (by simp [hs])]

/-- **A history comes to what it comes to without its deposits of rewards and without the money for
bounties.** -/
theorem run_unfunded (h : EachStep Solvent f ss) :
    f.unfunded.run (trading ss) = ((f.after ss).unfunded, f.observed ss) := by
  induction ss generalizing f with
  | nil => rfl
  | cons s ss ih =>
    obtain ⟨hnow, hlater⟩ := h
    have hrest := ih hlater
    change _ = (((f.step s).1.after ss).unfunded, _)
    unfold observed
    cases hs : s.isDeposit with
    | true =>
      -- the shorter history is still where the deposit leaves the longer one
      rw [trading_cons_deposit hs, ← deposit_unfunded hs (hnow.room hs), hrest]
      rfl
    | false =>
      rw [trading_cons hs, run, step_unfunded hs hnow.pays, withoutMoney]
      dsimp only
      rw [hrest]
      rfl

lemma EachStep.take {p : Fund → Step → Prop} (h : EachStep p f ss) (n : ℕ) :
    EachStep p f (ss.take n) := by
  induction ss generalizing f n with
  | nil => rwa [List.take_nil]
  | cons s ss ih =>
    cases n with
    | zero => trivial
    | succ n => exact ⟨h.1, ih h.2 n⟩

end Histories

/-- **Bounties do not influence trading.**  Take two funds that differ at most in the reserve and in
the bounties paid, and two histories that are the same without their deposits of rewards; let
bounties be payable in both, and no reserve overflow.  Then every step other than those deposits has
the same outcome in both, but for the amounts of bounties and withdrawals.  And wherever the
histories have come equally far, the funds differ at most in the reserve and in the bounties paid:
collateral, debt and idle amounts, a trade under way, every time of a trade, settings and venues
are the same. -/
theorem bounties_do_not_matter {f g : Fund} {ss ss' : List Step} (hfunds : f.unfunded = g.unfunded)
    (hsteps : trading ss = trading ss') (hf : EachStep Solvent f ss)
    (hg : EachStep Solvent g ss') :
    f.observed ss = g.observed ss' ∧
      ∀ n n', trading (ss.take n) = trading (ss'.take n') →
        (f.after (ss.take n)).unfunded = (g.after (ss'.take n')).unfunded := by
  constructor
  · have hrun := run_unfunded hf
    rw [hfunds, hsteps, run_unfunded hg] at hrun
    exact (congrArg Prod.snd hrun).symm
  · intro n n' htrading
    have hrun := run_unfunded (hf.take n)
    rw [hfunds, htrading, run_unfunded (hg.take n')] at hrun
    exact (congrArg Prod.fst hrun).symm

/-- A ripcord and a withdrawal come to the same whether there is money for bounties or not. -/
theorem bounties_do_not_matter_rewarding :
    let ss := Trial.rewarding
    let f := Trial.opening.after ss
    let g := Trial.opening.after (trading ss)
    Trial.opening.observed ss = Trial.opening.observed (trading ss) ∧ f.unfunded = g.unfunded ∧
      f.ledger.book.rewards ≠ g.ledger.book.rewards := by
  intro ss f g
  have hpaying : EachStep Solvent Trial.opening ss := by decide +kernel
  have hwithout : EachStep Solvent Trial.opening (trading ss) := by decide +kernel
  have hsteps : trading ss = trading (trading ss) := rfl
  obtain ⟨hobserved, hfunds⟩ := bounties_do_not_matter rfl hsteps hpaying hwithout
  exact ⟨hobserved, hfunds 9 7 rfl, by decide +kernel⟩

end Fund

end LeverageKeeper
