import LeverageKeeper.Proofs.Fund.Reachable
import LeverageKeeper.Proofs.Fund.Refusals
import LeverageKeeper.Proofs.Position
import LeverageKeeper.Proofs.Text.ByteOrder

/-!
The question what to call on each venue, and the calls themselves.  They come to their verdicts
separately: the question by way of a phase, the calls by checks of their own in orders of their own.
The checks of a call hold exactly where the question names it, up to what sizing and settling the
trade can still bring up.
-/

namespace LeverageKeeper

/-- A reason that the question what to call is there to anticipate. -/
def Refusal.IsGate : Refusal → Prop
  | .unauthorized .. => True
  | .unknownVenue _ => True
  | .notEngaged => True
  | .oracleStale .. => True
  | .cooldownActive .. => True
  | _ => False

lemma Refusal.IsSizing.not_isGate {r : Refusal} (h : r.IsSizing) : ¬ r.IsGate := by
  cases r <;> simp_all [IsSizing, IsGate]

namespace Fund

/-! ### The answers to the question -/

section Actions

variable {f : Fund} {p : Position} {t : Terms}

/-- The action for a venue when the fund is at the given position. -/
def actionFor (f : Fund) (p : Position) (t : Terms) : Action :=
  f.circumstances.action t (f.phaseOf p)

theorem actions_eq_ok {xs : List (String × Action)} (h : f.actions = .ok xs) :
    f.halted = false ∧ ∃ p, f.position = .ok p ∧
      xs = f.strategy.venues.entries.map fun e => (e.1, f.actionFor p e.2.terms) := by
  unfold actions at h
  simp only [bind_eq_ok, lift_eq_ok, requireLive_eq_ok, pure_eq_ok] at h
  obtain ⟨_, hlive, p, hp, rfl⟩ := h
  exact ⟨hlive, p, hp, rfl⟩

/-- The phase in which an action is the one to take. -/
def phaseFor : Action → Phase
  | .rebalance => .rebalanceDue
  | .iterate => .twapInProgress
  | .ripcord => .ripcordEligible
  | .none => .idle

/-- The cooldown that a venue has to have behind it for an action. -/
def cooldownFor (f : Fund) : Action → UInt64
  | .ripcord => f.strategy.settings.incentive.cooldown
  | _ => f.strategy.settings.execution.cooldown

/-- An action is named in its phase, to an engaged fund, on a venue that is rested. -/
theorem actionFor_eq {a : Action} (ha : a ≠ .none) :
    f.actionFor p t = a ↔
      p.isEngaged = true ∧ f.circumstances.phase p.leverage = phaseFor a ∧
        Cooldown.isOver t.lastTrade (f.cooldownFor a) f.now = true := by
  unfold actionFor phaseOf
  generalize f.circumstances.phase p.leverage = phase
  have hs : f.circumstances.settings = f.strategy.settings := rfl
  have hn : f.circumstances.now = f.now := rfl
  cases p.isEngaged with
  | false => simp [Circumstances.action, ha.symm]
  | true =>
    cases phase <;> cases a <;>
      simp_all [Circumstances.action, phaseFor, cooldownFor] <;> split <;> simp

end Actions

section Gates

variable {f : Fund} {p : Position} {l : Listing} {caller : Address} {venue : String}

/-- A fund without debt is at the ratio one, far below an emergency. -/
lemma Sound.lt_ratio_of_not_engaged (h : f.Sound) (hp : f.position = .ok p)
    (he : p.isEngaged = false) : p.leverage < f.strategy.settings.incentive.ratio := by
  unfold position at hp
  simp only [bind_eq_ok, lift_eq_ok] at hp
  obtain ⟨prices, -, b, -, hb⟩ := hp
  have h1 := (Balances.position_eq_ok hb).leverage_of_not_engaged he
  obtain ⟨hone, hleast, htarget⟩ := h.band
  have hmost := Decimal.lt_iff_toRat.1 h.most_lt_ratio
  rw [Decimal.lt_iff_toRat, Decimal.toRat_one] at hone
  rw [Decimal.le_iff_toRat] at hleast htarget
  rw [Decimal.lt_iff_toRat]
  linarith

lemma phase_of_danger (h : f.strategy.settings.incentive.ratio ≤ p.leverage) :
    f.circumstances.phase p.leverage = .ripcordEligible := if_pos h

lemma phase_of_underWay (h : p.leverage < f.strategy.settings.incentive.ratio)
    (hw : f.strategy.twap.isActive = true) :
    f.circumstances.phase p.leverage = .twapInProgress := by
  unfold Circumstances.phase
  exact (if_neg (Decimal.not_le.2 h)).trans (if_pos hw)

/-- What the phases say about the ratio and about a trade under way. -/
lemma of_phase_eq :
    (f.circumstances.phase p.leverage = .ripcordEligible →
      f.strategy.settings.incentive.ratio ≤ p.leverage) ∧
    (f.circumstances.phase p.leverage = .twapInProgress →
      p.leverage < f.strategy.settings.incentive.ratio ∧ f.strategy.twap.isActive = true) ∧
    (f.circumstances.phase p.leverage = .rebalanceDue →
      p.leverage < f.strategy.settings.incentive.ratio) := by
  unfold Circumstances.phase
  split
  next h => exact ⟨fun _ => h, nofun, nofun⟩
  next h =>
    have hlt := Decimal.not_le.1 h
    split
    next hw => exact ⟨nofun, fun _ => ⟨hlt, hw⟩, nofun⟩
    next => split <;> exact ⟨nofun, nofun, fun _ => hlt⟩

/-! ### Calls that the question does not name -/

lemma refused_attempt {α β : Type} {decision : Outcome α} {act : α → Fund × Outcome β}
    {into : β → Answer} (h : Refused decision) :
    ∃ r, answering into (f.attempt decision act) = (f, .error (.refused r)) := by
  obtain ⟨r, hr⟩ := h
  exact ⟨r, by rw [hr]; rfl⟩

section Unnamed

variable (hp : f.position = .ok p) (hl : f.strategy.venues.find? venue = some l)

include hp hl

lemma refused_rebalance (h : f.actionFor p l.terms ≠ .rebalance) :
    Refused (f.decideRebalance caller venue) := by
  unfold decideRebalance
  refine refused_bind fun _ _ => refused_bind fun _ _ => refused_bind fun l' hl' => ?_
  obtain rfl : l = l' := Option.some.inj (hl.symm.trans (Registry.get_eq_ok.1 hl'))
  rw [hp, ok_bind]
  refine refused_bind fun _ he => refused_bind fun _ _ => refused_bind fun _ hr =>
    refused_bind fun _ hd => ?_
  exact absurd ((actionFor_eq (a := .rebalance) nofun).2 ⟨Position.requireEngaged_eq_ok.1 he,
    requireDue_eq_ok.1 hd, Cooldown.require_eq_ok.1 hr⟩) h

lemma refused_iterate (h : f.actionFor p l.terms ≠ .iterate) :
    Refused (f.decideIterate caller venue) := by
  unfold decideIterate
  refine refused_bind fun _ _ => refused_bind fun _ _ => refused_bind fun l' hl' => ?_
  obtain rfl : l = l' := Option.some.inj (hl.symm.trans (Registry.get_eq_ok.1 hl'))
  refine refused_bind fun (target, d) hw => ?_
  dsimp only
  rw [hp, ok_bind]
  refine refused_bind fun _ he => refused_bind fun _ hb => refused_bind fun _ hr => ?_
  obtain ⟨_, hw⟩ := underWay_eq_ok.1 hw
  have hphase := phase_of_underWay (requireBelowIncentivized_eq_ok.1 hb) (by rw [hw]; rfl)
  exact absurd ((actionFor_eq (a := .iterate) nofun).2 ⟨Position.requireEngaged_eq_ok.1 he, hphase,
    Cooldown.require_eq_ok.1 hr⟩) h

/-- The ripcord does not ask whether the fund is engaged: a fund without debt is in no danger. -/
lemma refused_ripcord (hs : f.Sound) (h : f.actionFor p l.terms ≠ .ripcord) :
    Refused (f.decideRipcord venue) := by
  unfold decideRipcord
  refine refused_bind fun _ _ => refused_bind fun l' hl' => ?_
  obtain rfl : l = l' := Option.some.inj (hl.symm.trans (Registry.get_eq_ok.1 hl'))
  rw [hp, ok_bind]
  refine refused_bind fun _ hd => refused_bind fun _ hr => ?_
  have hd := demand_eq_ok.1 hd
  have he : p.isEngaged = true := by
    by_contra hn
    exact Decimal.not_lt.2 hd (hs.lt_ratio_of_not_engaged hp (by simpa using hn))
  exact absurd ((actionFor_eq (a := .ripcord) nofun).2
    ⟨he, phase_of_danger hd, Cooldown.require_eq_ok.1 hr⟩) h

/-- **A call that the question does not name is refused and changes nothing.** -/
theorem call_refused_of_ne (hs : f.Sound) {a : Action} {c : Call} (ha : a ≠ f.actionFor p l.terms)
    (hc : callFor caller venue a = some c) : ∃ r, f.call c = (f, .error (.refused r)) := by
  cases a with
  | rebalance => cases hc; exact refused_attempt (refused_rebalance hp hl ha.symm)
  | iterate => cases hc; exact refused_attempt (refused_iterate hp hl ha.symm)
  | ripcord => cases hc; exact refused_attempt (refused_ripcord hp hl hs ha.symm)
  | none => cases hc

end Unnamed

/-! ### The call that the question names -/

section Named

variable (hlive : f.halted = false) (hp : f.position = .ok p)
  (hl : f.strategy.venues.find? venue = some l)

include hlive hp hl

/-- What is left of a rebalance once the question names it. -/
lemma decideRebalance_named (h : f.actionFor p l.terms = .rebalance)
    (hc : f.guard.list.isAllowed caller = true) :
    f.decideRebalance caller venue = (do
      let target ← Sizing.recentered p.leverage f.strategy.settings.methodology
      let direction ← directionTo target p.leverage
      f.prepare .rebalance venue l p target direction l.terms.cap
        f.strategy.settings.execution.slippage) := by
  obtain ⟨he, hphase, hr⟩ := (actionFor_eq (a := .rebalance) nofun).1 h
  have hrested : Cooldown.require venue l.terms.lastTrade f.strategy.settings.execution.cooldown
      f.now = .ok () := Cooldown.require_eq_ok.2 hr
  unfold decideRebalance
  simp only [(Guard.requireAllowed_eq_ok (u := ())).2 hc, (requireLive_eq_ok (u := ())).2 hlive,
    Registry.get_eq_ok.2 hl, hp, (Position.requireEngaged_eq_ok (u := ())).2 he,
    (requireBelowIncentivized_eq_ok (u := ())).2 (of_phase_eq.2.2 hphase), hrested,
    (requireDue_eq_ok (u := ())).2 hphase, lift_ok, ok_bind]

/-- What is left of going on with a trade once the question names it. -/
lemma decideIterate_named (h : f.actionFor p l.terms = .iterate)
    (hc : f.guard.list.isAllowed caller = true) :
    ∃ target d rest, f.strategy.twap = .under target d rest ∧
      f.decideIterate caller venue = (do
        if ← Sizing.reached target p.leverage d then
          return .clear target p.leverage
        return .trade (← f.prepare .iterate venue l p target d l.terms.cap
          f.strategy.settings.execution.slippage)) := by
  obtain ⟨he, hphase, hr⟩ := (actionFor_eq (a := .iterate) nofun).1 h
  obtain ⟨hb, hactive⟩ := of_phase_eq.2.1 hphase
  cases hw : f.strategy.twap with
  | idle =>
    rw [hw] at hactive
    cases hactive
  | under target d rest =>
    refine ⟨target, d, rest, rfl, ?_⟩
    have hunder : f.underWay = .ok (target, d) := underWay_eq_ok.2 ⟨rest, hw⟩
    have hrested : Cooldown.require venue l.terms.lastTrade f.strategy.settings.execution.cooldown
        f.now = .ok () := Cooldown.require_eq_ok.2 hr
    unfold decideIterate
    simp only [(Guard.requireAllowed_eq_ok (u := ())).2 hc, (requireLive_eq_ok (u := ())).2 hlive,
      Registry.get_eq_ok.2 hl, hunder, hp, (Position.requireEngaged_eq_ok (u := ())).2 he,
      (requireBelowIncentivized_eq_ok (u := ())).2 hb, hrested, lift_ok, ok_bind]

/-- What is left of a ripcord once the question names it. -/
lemma decideRipcord_named (h : f.actionFor p l.terms = .ripcord) :
    f.decideRipcord venue = f.prepare .ripcord venue l p f.strategy.settings.methodology.most
      .delever l.terms.incentivizedCap f.strategy.settings.incentive.slippage := by
  obtain ⟨-, hphase, hr⟩ := (actionFor_eq (a := .ripcord) nofun).1 h
  have hrested : Cooldown.require venue l.terms.lastTrade f.strategy.settings.incentive.cooldown
      f.now = .ok () := Cooldown.require_eq_ok.2 hr
  unfold decideRipcord
  simp only [(requireLive_eq_ok (u := ())).2 hlive, Registry.get_eq_ok.2 hl, hp,
    (demand_eq_ok (u := ())).2 (of_phase_eq.1 hphase), hrested, lift_ok, ok_bind]

lemma rebalance_refuses (h : f.actionFor p l.terms = .rebalance)
    (hc : f.guard.list.isAllowed caller = true) :
    RefusesOnly Refusal.IsSizing (f.decideRebalance caller venue) := by
  rw [decideRebalance_named hlive hp hl h hc]
  refine refusesOnly_bind (Sizing.recentered_refuses _ _) fun _ _ => ?_
  refine refusesOnly_bind (directionTo_refuses _ _) fun _ _ => ?_
  exact prepare_refuses _ _ _ _ _ _ _ _

lemma iterate_refuses (h : f.actionFor p l.terms = .iterate)
    (hc : f.guard.list.isAllowed caller = true) :
    RefusesOnly Refusal.IsSizing (f.decideIterate caller venue) := by
  obtain ⟨target, d, rest, -, hd⟩ := decideIterate_named hlive hp hl h hc
  rw [hd]
  refine refusesOnly_bind (Sizing.reached_refuses _ _ _) fun _ _ => ?_
  split
  · exact refusesOnly_ok _
  · exact refusesOnly_bind (prepare_refuses _ _ _ _ _ _ _ _) fun _ _ => refusesOnly_ok _

lemma ripcord_refuses (h : f.actionFor p l.terms = .ripcord) :
    RefusesOnly Refusal.IsSizing (f.decideRipcord venue) := by
  rw [decideRipcord_named hlive hp hl h]
  exact prepare_refuses _ _ _ _ _ _ _ _

lemma named_refuses {a : Action} {c : Call} (ha : f.actionFor p l.terms = a)
    (hc : callFor caller venue a = some c)
    (hcaller : a = .ripcord ∨ f.guard.list.isAllowed caller = true) (ht : f.tradeOf? c = none) :
    RefusesOnly Refusal.IsSizing (f.call c).2 := by
  cases a with
  | rebalance =>
    cases hc
    exact refusesOnly_attempt
      (rebalance_refuses hlive hp hl ha (hcaller.resolve_left (by decide)))
      fun t h => absurd h (not_ok_of_no_trade ht)
  | iterate =>
    cases hc
    refine refusesOnly_attempt
      (iterate_refuses hlive hp hl ha (hcaller.resolve_left (by decide))) fun n h => ?_
    cases n with
    | trade t => exact absurd h (not_trade_of_no_trade ht)
    | clear target current => exact refusesOnly_ok _
  | ripcord =>
    cases hc
    exact refusesOnly_attempt (ripcord_refuses hlive hp hl ha)
      fun t h => absurd h (not_ok_of_no_trade ht)
  | none => cases hc

/-- **The call that the question names is not refused for a reason that the question is there to
anticipate**, unless the venue itself comes up with one. -/
theorem call_not_gated {a : Action} {c : Call} {r : Refusal} (ha : f.actionFor p l.terms = a)
    (hc : callFor caller venue a = some c)
    (hcaller : a = .ripcord ∨ f.guard.list.isAllowed caller = true)
    (hr : (f.call c).2 = .error (.refused r)) (hg : r.IsGate) :
    ∃ t, f.tradeOf? c = some t ∧ f.VenueRefuses t r := by
  cases ht : f.tradeOf? c with
  | none => exact absurd hg (named_refuses hlive hp hl ha hc hcaller ht r hr).not_isGate
  | some t =>
    refine ⟨t, rfl, ?_⟩
    rcases call_refuses ht r hr with h | ⟨fault, rfl⟩ | h | h
    · exact absurd hg h.not_isGate
    · exact hg.elim
    · exact h
    · obtain ⟨fault, rfl⟩ := h.eq_ledger
      exact hg.elim

end Named

end Gates

/-- **The question what to call and the calls agree.**  It has one answer for each registered venue,
in the order of the bytes of the names.  Of the calls of a keeper, those that an answer does not
name are refused and change nothing, whoever makes them; the one that it names is not refused for a
reason that the question anticipates if its caller may make it, unless the venue comes up with
one. -/
theorem actions_agree {f : Fund} (hf : f.Reachable) {xs : List (String × Action)}
    (h : f.actions = .ok xs) :
    xs.map (·.1) = f.strategy.venues.names ∧
      (∀ v, v ∈ xs.map (·.1) ↔ ∃ l, f.strategy.venues.find? v = some l) ∧
      (xs.map fun x => Text.bytes x.1).Pairwise (· < ·) ∧
      ∀ v a, (v, a) ∈ xs →
        (∀ b, b ≠ a → ∀ caller c, callFor caller v b = some c →
          ∃ r, f.call c = (f, .error (.refused r))) ∧
        ∀ caller c, callFor caller v a = some c →
          (a = .ripcord ∨ f.guard.list.isAllowed caller = true) →
          ∀ r, (f.call c).2 = .error (.refused r) → r.IsGate →
            ∃ t, f.tradeOf? c = some t ∧ f.VenueRefuses t r := by
  obtain ⟨hlive, p, hp, rfl⟩ := actions_eq_ok h
  have hs := hf.sound
  have hnames : (f.strategy.venues.entries.map fun e => (e.1, f.actionFor p e.2.terms)).map (·.1)
      = f.strategy.venues.names := by
    rw [List.map_map]
    rfl
  refine ⟨hnames, fun v => by rw [hnames, Registry.mem_names], ?_, fun v a hmem => ?_⟩
  · rw [List.map_map]
    exact List.pairwise_map.2 (hs.venues.ordered.imp fun hlt => Text.bytes_lt_bytes.2 hlt)
  · obtain ⟨e, he, heq⟩ := List.mem_map.1 hmem
    cases heq
    have hl := hs.venues.find?_of_mem he
    exact ⟨fun b hb caller c hc => call_refused_of_ne hp hl hs hb hc,
      fun caller c hc hcaller r hr hg => call_not_gated hlive hp hl rfl hc hcaller hr hg⟩

/-- A levered fund whose venue turns every order down, with a reason of the fund's own. -/
def Trial.denied : Fund :=
  levered.after [.event (.turn "dex" fun _ _ => .error (.refused .notEngaged))]

/-- While a trade is under way nobody may pull the ripcord, and going on with the trade meets no
gate but the one that the venue puts up. -/
theorem actions_agree_denied :
    (∀ caller, ∃ r, Trial.denied.call (.ripcord caller "dex")
        = (Trial.denied, .error (.refused r))) ∧
      ∃ t, Trial.denied.tradeOf? (.iterate Trial.operator "dex") = some t ∧
        Trial.denied.VenueRefuses t .notEngaged := by
  have hf : Trial.denied.Reachable := Trial.levered_reachable.after _
  have ha : Trial.denied.actions = .ok [("dex", .iterate)] := by decide +kernel
  have hc : Trial.denied.guard.list.isAllowed Trial.operator = true := by decide +kernel
  have hr : (Trial.denied.call (.iterate Trial.operator "dex")).2
      = .error (.refused .notEngaged) := by rfl
  obtain ⟨hother, hnamed⟩ := (actions_agree hf ha).2.2.2 "dex" .iterate List.mem_cons_self
  exact ⟨fun caller => hother .ripcord nofun caller (.ripcord caller "dex") rfl,
    hnamed Trial.operator (.iterate Trial.operator "dex") rfl (.inr hc) .notEngaged hr trivial⟩

end Fund

end LeverageKeeper
