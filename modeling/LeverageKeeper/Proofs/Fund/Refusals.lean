import LeverageKeeper.Proofs.Fund.Settling
import LeverageKeeper.Proofs.Ledger

/-!
The reasons for which a trade can still be refused once the conditions of its call hold: a number
out of range, nothing to trade or a lending venue out of order while the trade is sized, and the
venue's own reason, a fill below the minimum or the ledger's reason while it is settled.
-/

namespace LeverageKeeper

/-- A reason that comes up in computing sizes and amounts. -/
def Refusal.IsSizing : Refusal → Prop
  | .numeric _ => True
  | .noRebalanceNeeded _ => True
  | .ledger (.outage _) => True
  | _ => False

/-- A reason that comes up before an order is sent. -/
def Refusal.IsEarly : Refusal → Prop
  | .slippageExceeded .. => False
  | .venueFailure .. => False
  | .ledger (.outage _) => True
  | .ledger _ => False
  | _ => True

lemma Refusal.IsSizing.isEarly {r : Refusal} (h : r.IsSizing) : r.IsEarly := by
  cases r with
  | ledger fault => cases fault <;> first | exact h.elim | trivial
  | _ => first | exact h.elim | trivial

/-! ### Amounts -/

section Amounts

lemma Decimal.ofUnits_refuses (units d : ℕ) :
    RefusesOnly Refusal.IsSizing (Decimal.ofUnits units d) :=
  refusesOnly_bind (refusesOnly_orRefuse _ trivial) fun _ _ => refusesOnly_orCrash _ _

lemma Decimal.toUnits_refuses (a : Decimal) (d : ℕ) {r : Refusal} (h : a.toUnits d = .error r) :
    r.IsSizing := by
  unfold Decimal.toUnits at h
  split at h
  · cases h
    trivial
  · split at h <;> cases h
    trivial

lemma Plan.order_refuses (p : Plan) (a : Assets) (t : Terms) {r : Refusal}
    (h : p.order a t = .error r) : r.IsSizing := by
  unfold Plan.order at h
  simp only [bind_eq_error] at h
  rcases h with h | ⟨_, -, h | ⟨_, -, h⟩⟩
  · exact Decimal.toUnits_refuses _ _ h
  · exact Decimal.toUnits_refuses _ _ h
  · cases h

lemma Fill.amounts_refuses (x : Fill) (a : Assets) :
    RefusesOnly Refusal.IsSizing (x.amounts a) := by
  unfold Fill.amounts
  split <;> exact refusesOnly_bind (Decimal.ofUnits_refuses _ _) fun _ _ =>
    refusesOnly_bind (Decimal.ofUnits_refuses _ _) fun _ _ => refusesOnly_ok _

end Amounts

/-! ### Sizes -/

section Sizes

variable {f : Fund}

lemma Sizing.recentered_refuses (current : Decimal) (m : Methodology) :
    RefusesOnly Refusal.IsSizing (Sizing.recentered current m) := by
  refine refusesOnly_bind (refusesOnly_orCrash _ _) fun _ _ => ?_
  refine refusesOnly_bind (refusesOnly_orCrash _ _) fun _ _ => ?_
  refine refusesOnly_bind (refusesOnly_orCrash _ _) fun _ _ => ?_
  refine refusesOnly_bind (refusesOnly_orCrash _ _) fun _ _ => ?_
  unfold Decimal.clamp
  split
  · exact nofun
  · exact refusesOnly_ok _

lemma Fund.directionTo_refuses (target current : Decimal) :
    RefusesOnly Refusal.IsSizing (Fund.directionTo target current) :=
  refusesOnly_bind (refusesOnly_bind (refusesOnly_orCrash _ _) fun _ _ => refusesOnly_ok _)
    fun _ _ => refusesOnly_orRefuse _ trivial

lemma Sizing.reached_refuses (target current : Decimal) (d : Direction) :
    RefusesOnly Refusal.IsSizing (Sizing.reached target current d) := by
  unfold Sizing.reached
  split <;> exact refusesOnly_bind (refusesOnly_orCrash _ _) fun _ _ => refusesOnly_ok _

lemma Sizing.totalNotional_refuses (target current units : Decimal) :
    RefusesOnly Refusal.IsSizing (Sizing.totalNotional target current units) := by
  unfold Sizing.totalNotional
  split
  · exact refusesOnly_error trivial
  · exact refusesOnly_bind (refusesOnly_orCrash _ _) fun _ _ => refusesOnly_orRefuse _ trivial

lemma Sizing.headroom_refuses (p : Position) (limits : LendingLimits) (e : Execution)
    (d : Direction) : RefusesOnly Refusal.IsSizing (Sizing.headroom p limits e d) := by
  unfold Sizing.headroom
  cases d with
  | lever =>
    refine refusesOnly_bind (refusesOnly_orCrash _ _) fun _ _ => ?_
    refine refusesOnly_bind (refusesOnly_orCrash _ _) fun _ _ => ?_
    refine refusesOnly_bind (refusesOnly_orCrash _ _) fun _ _ => ?_
    exact refusesOnly_bind (refusesOnly_orCrash _ _) fun _ _ => refusesOnly_ok _
  | delever =>
    refine refusesOnly_bind (refusesOnly_orCrash _ _) fun _ _ => ?_
    refine refusesOnly_bind (refusesOnly_orCrash _ _) fun _ _ => ?_
    refine refusesOnly_bind (refusesOnly_orCrash _ _) fun _ _ => ?_
    split
    · exact refusesOnly_ok _
    · refine refusesOnly_bind (refusesOnly_orCrash _ _) fun _ _ => ?_
      refine refusesOnly_bind (refusesOnly_orCrash _ _) fun _ _ => ?_
      exact refusesOnly_bind (refusesOnly_orCrash _ _) fun _ _ => refusesOnly_ok _

lemma Ledger.lendingLimits_refuses (l : Ledger) {r : Refusal} (h : l.lendingLimits = .error r) :
    r.IsSizing := by
  unfold Ledger.lendingLimits Ledger.unlessOut at h
  split at h <;> cases h
  trivial

lemma Fund.nextChunk_refuses (p : Position) (target : Decimal) (d : Direction) (cap : Decimal) :
    RefusesOnly Refusal.IsSizing (f.nextChunk p target d cap) := by
  refine refusesOnly_bind (Sizing.totalNotional_refuses _ _ _) fun _ _ => ?_
  refine refusesOnly_bind (refusesOnly_lift fun _ => Ledger.lendingLimits_refuses _) fun _ _ => ?_
  refine refusesOnly_bind (Sizing.headroom_refuses _ _ _ _) fun _ _ => ?_
  refine refusesOnly_lift fun r h => ?_
  unfold Sizing.chunk at h
  dsimp only at h
  split at h <;> cases h
  trivial

lemma Plan.ofChunk_refuses (d : Direction) (notional slippage : Decimal) (p : Prices) :
    RefusesOnly Refusal.IsSizing (Plan.ofChunk d notional p slippage) := by
  have hmin : ∀ amount, RefusesOnly Refusal.IsSizing (Sizing.minOut amount slippage) := fun _ =>
    refusesOnly_bind (refusesOnly_orCrash _ _) fun _ _ => refusesOnly_orCrash _ _
  refine refusesOnly_bind (refusesOnly_orRefuse _ trivial) fun _ _ => ?_
  cases d <;> exact refusesOnly_bind (hmin _) fun _ _ => refusesOnly_ok _

lemma Fund.prepare_refuses (kind : TradeKind) (venue : String) (listing : Listing) (p : Position)
    (target : Decimal) (d : Direction) (cap slippage : Decimal) :
    RefusesOnly Refusal.IsSizing (f.prepare kind venue listing p target d cap slippage) :=
  refusesOnly_bind (Fund.nextChunk_refuses _ _ _ _) fun _ _ =>
    refusesOnly_bind (Plan.ofChunk_refuses _ _ _ _) fun _ _ => refusesOnly_ok _

lemma Fund.fullUnwind?_refuses (p : Position) (cap : Decimal) :
    RefusesOnly Refusal.IsSizing (f.fullUnwind? p cap) := by
  refine refusesOnly_bind (refusesOnly_orRefuse _ trivial) fun _ _ => ?_
  refine refusesOnly_bind (refusesOnly_lift fun _ => Ledger.lendingLimits_refuses _) fun _ _ => ?_
  refine refusesOnly_bind (Sizing.headroom_refuses _ _ _ _) fun _ _ => ?_
  refine refusesOnly_bind ?_ fun _ _ => refusesOnly_ok _
  exact refusesOnly_bind (refusesOnly_orCrash _ _) fun _ _ => refusesOnly_orCrash _ _

end Sizes

/-! ### Registering -/

namespace Registry

variable {g : Registry} {name : String} {t : Terms} {r : Refusal}

lemma check_early (h : check name t = .error r) : r.IsEarly := by
  unfold check demand at h
  split at h <;> cases h
  trivial

lemma get_early (h : g.get name = .error r) : r.IsEarly := by
  unfold get orRefuse at h
  split at h <;> cases h
  trivial

lemma add_early {venue : Venue} (h : g.add name venue t = .error r) : r.IsEarly := by
  unfold add at h
  rcases bind_eq_error.1 h with h | ⟨_, -, h⟩
  · exact check_early h
  · split at h <;> cases h
    trivial

lemma update_early (h : g.update name t = .error r) : r.IsEarly := by
  unfold update at h
  simp only [bind_eq_error] at h
  rcases h with h | ⟨_, -, h | ⟨_, -, h⟩⟩
  · exact check_early h
  · exact get_early h
  · cases h

lemma remove_early (h : g.remove name = .error r) : r.IsEarly := by
  unfold remove at h
  rcases bind_eq_error.1 h with h | ⟨_, -, h⟩
  · exact get_early h
  · cases h

end Registry

/-! ### Decisions -/

namespace Fund

section Decisions

variable {f : Fund}

lemma sizing_early {α : Type} {y : Outcome α} (h : RefusesOnly Refusal.IsSizing y) :
    RefusesOnly Refusal.IsEarly y := h.mono fun _ => Refusal.IsSizing.isEarly

lemma prices_early {a : Assets} {feeds : Feeds} {now : UInt64} {r : Refusal}
    (h : feeds.prices a now = .error r) : r.IsEarly := by
  have latest : ∀ feed r, feeds.latest feed = .error r → r.IsEarly := by
    intro feed r h
    unfold Feeds.latest orRefuse at h
    split at h <;> cases h
    trivial
  have price : ∀ (x : Reading) feed r, x.price feed now a.maxStaleness = .error r →
      r.IsEarly := by
    intro x feed r h
    unfold Reading.price orRefuse at h
    dsimp only at h
    split at h
    · cases h
      trivial
    · split at h <;> cases h
      trivial
  unfold Feeds.prices at h
  simp only [bind_eq_error] at h
  rcases h with h | ⟨_, -, h | ⟨_, -, h | ⟨_, -, h | ⟨_, -, h⟩⟩⟩⟩
  · exact latest _ _ h
  · exact price _ _ _ h
  · exact latest _ _ h
  · exact price _ _ _ h
  · cases h

lemma leverageRatio_early (v d : Decimal) : RefusesOnly Refusal.IsEarly (leverageRatio v d) := by
  unfold leverageRatio
  by_cases hz : v.isZero = true ∧ d.isZero = true
  · rw [if_pos hz]
    exact refusesOnly_error (r := .emptyPosition) trivial
  · rw [if_neg hz]
    split
    · exact refusesOnly_error (r := .undercollateralized v d) trivial
    · exact refusesOnly_bind (refusesOnly_orCrash _ _) fun _ _ => refusesOnly_orRefuse _ trivial

lemma balances_early :
    RefusesOnly Refusal.IsEarly (liftM f.ledger.balances : Outcome Balances) := by
  refine refusesOnly_lift fun r h => ?_
  unfold Ledger.balances Ledger.unlessOut at h
  split at h
  · cases h
    trivial
  · split at h <;> cases h
    trivial

lemma position_early : RefusesOnly Refusal.IsEarly f.position := by
  refine refusesOnly_bind (refusesOnly_lift fun _ => prices_early) fun _ _ => ?_
  refine refusesOnly_bind balances_early fun _ _ => ?_
  refine refusesOnly_bind (sizing_early (Decimal.ofUnits_refuses _ _)) fun _ _ => ?_
  refine refusesOnly_bind (sizing_early (Decimal.ofUnits_refuses _ _)) fun _ _ => ?_
  refine refusesOnly_bind (refusesOnly_orRefuse _ trivial) fun _ _ => ?_
  refine refusesOnly_bind (refusesOnly_orRefuse _ trivial) fun _ _ => ?_
  exact refusesOnly_bind (leverageRatio_early _ _) fun _ _ => refusesOnly_ok _

lemma get_early (r : Registry) (name : String) :
    RefusesOnly Refusal.IsEarly (liftM (r.get name) : Outcome Listing) :=
  refusesOnly_lift fun _ => Registry.get_early

lemma decideEngage_early (caller : Address) (venue : String) :
    RefusesOnly Refusal.IsEarly (f.decideEngage caller venue) := by
  refine refusesOnly_bind (refusesOnly_demand fun _ => trivial) fun _ _ => ?_
  refine refusesOnly_bind (refusesOnly_demand fun _ => trivial) fun _ _ => ?_
  refine refusesOnly_bind (get_early _ _) fun _ _ => ?_
  refine refusesOnly_bind balances_early fun _ _ => ?_
  refine refusesOnly_bind (refusesOnly_demand fun _ => trivial) fun _ _ => ?_
  refine refusesOnly_bind position_early fun _ _ => ?_
  exact sizing_early (prepare_refuses _ _ _ _ _ _ _ _)

lemma requireDue_early (venue : String) (current : Decimal) :
    RefusesOnly Refusal.IsEarly (liftM (f.requireDue venue current) : Outcome Unit) := by
  refine refusesOnly_lift fun r h => ?_
  unfold requireDue at h
  split at h
  · cases h
  · cases h; trivial
  · split at h <;> cases h <;> trivial
  · cases h; trivial

lemma decideRebalance_early (caller : Address) (venue : String) :
    RefusesOnly Refusal.IsEarly (f.decideRebalance caller venue) := by
  refine refusesOnly_bind (refusesOnly_demand fun _ => trivial) fun _ _ => ?_
  refine refusesOnly_bind (refusesOnly_demand fun _ => trivial) fun _ _ => ?_
  refine refusesOnly_bind (get_early _ _) fun _ _ => ?_
  refine refusesOnly_bind position_early fun _ _ => ?_
  refine refusesOnly_bind (refusesOnly_demand fun _ => trivial) fun _ _ => ?_
  refine refusesOnly_bind (refusesOnly_demand fun _ => trivial) fun _ _ => ?_
  refine refusesOnly_bind (refusesOnly_demand fun _ => trivial) fun _ _ => ?_
  refine refusesOnly_bind (requireDue_early _ _) fun _ _ => ?_
  refine refusesOnly_bind (sizing_early (Sizing.recentered_refuses _ _)) fun _ _ => ?_
  refine refusesOnly_bind (sizing_early (directionTo_refuses _ _)) fun _ _ => ?_
  exact sizing_early (prepare_refuses _ _ _ _ _ _ _ _)

lemma decideIterate_early (caller : Address) (venue : String) :
    RefusesOnly Refusal.IsEarly (f.decideIterate caller venue) := by
  refine refusesOnly_bind (refusesOnly_demand fun _ => trivial) fun _ _ => ?_
  refine refusesOnly_bind (refusesOnly_demand fun _ => trivial) fun _ _ => ?_
  refine refusesOnly_bind (get_early _ _) fun _ _ => ?_
  refine refusesOnly_bind (refusesOnly_lift fun r h => ?_) fun (target, d) _ => ?_
  · unfold underWay at h
    split at h <;> cases h
    trivial
  refine refusesOnly_bind position_early fun _ _ => ?_
  refine refusesOnly_bind (refusesOnly_demand fun _ => trivial) fun _ _ => ?_
  refine refusesOnly_bind (refusesOnly_demand fun _ => trivial) fun _ _ => ?_
  refine refusesOnly_bind (refusesOnly_demand fun _ => trivial) fun _ _ => ?_
  refine refusesOnly_bind (sizing_early (Sizing.reached_refuses _ _ _)) fun _ _ => ?_
  split
  · exact refusesOnly_ok _
  · exact refusesOnly_bind (sizing_early (prepare_refuses _ _ _ _ _ _ _ _))
      fun _ _ => refusesOnly_ok _

lemma decideRipcord_early (venue : String) :
    RefusesOnly Refusal.IsEarly (f.decideRipcord venue) := by
  refine refusesOnly_bind (refusesOnly_demand fun _ => trivial) fun _ _ => ?_
  refine refusesOnly_bind (get_early _ _) fun _ _ => ?_
  refine refusesOnly_bind position_early fun _ _ => ?_
  refine refusesOnly_bind (refusesOnly_demand fun _ => trivial) fun _ _ => ?_
  refine refusesOnly_bind (refusesOnly_demand fun _ => trivial) fun _ _ => ?_
  exact sizing_early (prepare_refuses _ _ _ _ _ _ _ _)

lemma decideDisengage_early (caller : Address) (venue : String) :
    RefusesOnly Refusal.IsEarly (f.decideDisengage caller venue) := by
  have plan : ∀ (chunk : Chunk) (p : Position) (l : Listing) (e : Execution),
      RefusesOnly Refusal.IsEarly (do
        let plan ← Plan.ofChunk .delever chunk.notional p.prices e.slippage
        return (⟨.disengage, venue, l, Decimal.one, p, { chunk with chunked := true }, plan⟩ :
          Trade)) :=
    fun _ _ _ _ => refusesOnly_bind (sizing_early (Plan.ofChunk_refuses _ _ _ _))
      fun _ _ => refusesOnly_ok _
  refine refusesOnly_bind (refusesOnly_demand fun _ => trivial) fun _ _ => ?_
  refine refusesOnly_bind (refusesOnly_demand fun _ => trivial) fun _ _ => ?_
  refine refusesOnly_bind (get_early _ _) fun _ _ => ?_
  refine refusesOnly_bind position_early fun _ _ => ?_
  refine refusesOnly_bind (refusesOnly_demand fun _ => trivial) fun _ _ => ?_
  refine refusesOnly_bind (sizing_early (nextChunk_refuses _ _ _ _)) fun _ _ => ?_
  split
  · exact plan _ _ _ _
  · refine refusesOnly_bind (sizing_early (fullUnwind?_refuses _ _)) fun unwind _ => ?_
    cases unwind with
    | some sale => exact refusesOnly_ok _
    | none => exact plan _ _ _ _

end Decisions

/-! ### Calls that trade nothing -/

section Calls

variable {f : Fund} {c : Call}

lemma refusesOnly_attempt {α β : Type} {kind : Refusal → Prop} {decision : Outcome α}
    {act : α → Fund × Outcome β} {into : β → Answer} (hd : RefusesOnly kind decision)
    (ha : ∀ d, decision = .ok d → RefusesOnly kind (answering into (act d)).2) :
    RefusesOnly kind (answering into (f.attempt decision act)).2 := by
  cases decision with
  | ok d => exact ha d rfl
  | error e =>
    intro r hr
    cases hr
    exact hd r rfl

lemma decideSettings_early (caller : Address) (action : String) (next : Settings) :
    RefusesOnly Refusal.IsEarly (f.decideSettings caller action next) := by
  refine refusesOnly_bind (refusesOnly_demand fun _ => trivial) fun _ _ => ?_
  refine refusesOnly_bind (refusesOnly_demand fun _ => trivial) fun _ _ => ?_
  refine refusesOnly_bind (refusesOnly_demand fun _ => trivial) fun _ _ => ?_
  refine refusesOnly_bind (refusesOnly_demand fun _ => trivial) fun _ _ => ?_
  exact refusesOnly_ok _

lemma decideVenues_early (caller : Address) (action : String) {next : Checked Registry}
    (h : ∀ r, next = .error r → r.IsEarly) :
    RefusesOnly Refusal.IsEarly (f.decideVenues caller action next) := by
  refine refusesOnly_bind (refusesOnly_demand fun _ => trivial) fun _ _ => ?_
  refine refusesOnly_bind (refusesOnly_demand fun _ => trivial) fun _ _ => ?_
  exact refusesOnly_bind (refusesOnly_lift h) fun _ _ => refusesOnly_ok _

lemma requireOperator_early {g : Guard} {caller : Address} {action : String} {r : Refusal}
    (h : g.requireOperator caller action = .error r) : r.IsEarly := by
  unfold Guard.requireOperator demand at h
  split at h <;> cases h
  trivial

lemma decideDeposit_early (amount : Decimal) :
    RefusesOnly Refusal.IsEarly (f.decideDeposit amount) := by
  refine refusesOnly_bind (refusesOnly_demand fun _ => trivial) fun _ _ => ?_
  refine refusesOnly_bind (refusesOnly_demand fun _ => trivial) fun _ _ => ?_
  exact refusesOnly_orCrash _ _

lemma decideWithdrawal_early (caller : Address) :
    RefusesOnly Refusal.IsEarly (f.decideWithdrawal caller) := by
  refine refusesOnly_bind (refusesOnly_demand fun _ => trivial) fun _ _ => ?_
  refine refusesOnly_bind (refusesOnly_demand fun _ => trivial) fun _ _ => ?_
  split
  · refine refusesOnly_lift fun r h => ?_
    unfold Ledger.payReward Ledger.unlessOut at h
    split at h <;> cases h
    trivial
  · exact refusesOnly_ok _

/-- A call that has decided on no trade is refused for an early reason, if it is. -/
theorem early_of_no_trade (h : f.tradeOf? c = none) : RefusesOnly Refusal.IsEarly (f.call c).2 := by
  cases c with
  | engage caller venue =>
    exact refusesOnly_attempt (decideEngage_early _ _) fun _ ht =>
      absurd ht (not_ok_of_no_trade h)
  | rebalance caller venue =>
    exact refusesOnly_attempt (decideRebalance_early _ _) fun _ ht =>
      absurd ht (not_ok_of_no_trade h)
  | iterate caller venue =>
    refine refusesOnly_attempt (decideIterate_early _ _) fun n hn => ?_
    cases n with
    | trade t => exact absurd hn (not_trade_of_no_trade h)
    | clear target current => exact refusesOnly_ok _
  | ripcord caller venue =>
    exact refusesOnly_attempt (decideRipcord_early _) fun _ ht =>
      absurd ht (not_ok_of_no_trade h)
  | disengage caller venue =>
    exact refusesOnly_attempt (decideDisengage_early _ _) fun _ ht =>
      absurd ht (not_ok_of_no_trade h)
  | setMethodology caller m =>
    exact refusesOnly_attempt (decideSettings_early _ _ _) fun _ _ => refusesOnly_ok _
  | setExecution caller e =>
    exact refusesOnly_attempt (decideSettings_early _ _ _) fun _ _ => refusesOnly_ok _
  | setIncentive caller i =>
    exact refusesOnly_attempt (decideSettings_early _ _ _) fun _ _ => refusesOnly_ok _
  | addVenue caller name venue terms =>
    exact refusesOnly_attempt (decideVenues_early _ _ fun _ => Registry.add_early)
      fun _ _ => refusesOnly_ok _
  | updateVenue caller name terms =>
    exact refusesOnly_attempt (decideVenues_early _ _ fun _ => Registry.update_early)
      fun _ _ => refusesOnly_ok _
  | removeVenue caller name =>
    exact refusesOnly_attempt
      (decideVenues_early _ _ fun _ hr => Registry.remove_early (map_eq_error.1 hr))
      fun _ _ => refusesOnly_ok _
  | setCallerStatus caller account allowed =>
    refine refusesOnly_attempt (refusesOnly_lift fun r hr => ?_) fun _ _ => refusesOnly_ok _
    rcases bind_eq_error.1 hr with hr | ⟨_, -, hr⟩
    · exact requireOperator_early hr
    · cases hr
  | setAnyoneCallable caller isOpen =>
    refine refusesOnly_attempt (refusesOnly_lift fun r hr => ?_) fun _ _ => refusesOnly_ok _
    rcases bind_eq_error.1 hr with hr | ⟨_, -, hr⟩
    · exact requireOperator_early hr
    · cases hr
  | depositReward amount =>
    exact refusesOnly_attempt (decideDeposit_early _) fun _ _ => refusesOnly_ok _
  | withdrawReward caller =>
    refine refusesOnly_attempt (decideWithdrawal_early _) fun _ _ => ?_
    split <;> exact refusesOnly_ok _

end Calls

/-! ### Settling -/

/-- The venue of a trade has answered its order with a refusal of its own. -/
def VenueRefuses (f : Fund) (t : Trade) (r : Refusal) : Prop :=
  ∃ o, t.plan.order f.assets t.listing.terms = .ok o ∧
    t.listing.venue.answer f.feeds o = .error (.refused r)

/-- The ledger has refused the entry of a filled trade. -/
def LedgerRefuses (f : Fund) (t : Trade) (r : Refusal) : Prop :=
  ∃ x, t.fill f.assets f.feeds = .ok x ∧
    f.ledger.commit x.order.direction x.order.amountIn x.received = .error r

/-- The reasons for which settling a trade can be refused. -/
def RefusesSettling (f : Fund) (t : Trade) (r : Refusal) : Prop :=
  r.IsSizing ∨ (∃ fault, r = .venueFailure t.listing.venue.name fault) ∨ f.VenueRefuses t r ∨
    f.LedgerRefuses t r

variable {f : Fund} {c : Call} {t : Trade}

lemma fill_refuses : RefusesOnly (f.RefusesSettling t) (t.fill f.assets f.feeds) := by
  refine refusesOnly_bind (refusesOnly_lift fun _ h => .inl (Plan.order_refuses _ _ _ h))
    fun o ho => ?_
  refine refusesOnly_bind (fun r h => .inr (.inr (.inl ⟨o, lift_eq_ok.1 ho, h⟩))) fun n _ => ?_
  split
  · exact refusesOnly_bind ((Decimal.ofUnits_refuses _ _).mono fun _ h => .inl h)
      fun _ _ => refusesOnly_error (.inr (.inl ⟨_, rfl⟩))
  · exact refusesOnly_ok _

lemma settle_refuses : RefusesOnly (f.RefusesSettling t) (f.settle t).2 := by
  unfold settle
  cases hx : t.fill f.assets f.feeds with
  | error e =>
    intro r hr
    rw [attempt_error] at hr
    cases hr
    exact fill_refuses r hx
  | ok x =>
    rw [attempt_ok]
    cases hl : f.ledger.commit x.order.direction x.order.amountIn x.received with
    | error r =>
      intro r' hr
      cases hr
      exact .inr (.inr (.inr ⟨x, hx, hl⟩))
    | ok l =>
      simp only [lift_ok, attempt_ok]
      cases hm : x.amounts f.assets with
      | error e =>
        intro r hr
        cases hr
        exact .inl (Fill.amounts_refuses x f.assets r hm)
      | ok a => exact nofun

lemma LedgerRefuses.eq_ledger {r : Refusal} (h : f.LedgerRefuses t r) :
    ∃ fault, r = .ledger fault := by
  obtain ⟨x, -, h⟩ := h
  obtain ⟨fault, hr, -⟩ := Ledger.commit_eq_error h
  exact ⟨fault, hr⟩

/-- **A call that has decided on a trade is refused only in settling it.** -/
theorem call_refuses (h : f.tradeOf? c = some t) :
    RefusesOnly (f.RefusesSettling t) (f.call c).2 := by
  rw [call_of_tradeOf? h]
  have hs := settle_refuses (f := f) (t := t)
  revert hs
  cases f.settle t with
  | mk g y =>
    cases y with
    | error e =>
      intro hs r hr
      cases hr
      exact hs r rfl
    | ok r =>
      intro _ r' hr'
      unfold finish at hr'
      dsimp only at hr'
      split at hr' <;> cases hr'

end Fund

end LeverageKeeper
