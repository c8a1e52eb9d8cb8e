import LeverageKeeper.Proofs.Fund.Settling
import LeverageKeeper.Proofs.Registry
import LeverageKeeper.Proofs.Settings
import LeverageKeeper.Proofs.Sizing
import LeverageKeeper.Venue.Paper

/-!
The funds that there can be: a fund as it is created, and whatever any step makes of one.  All of
them are sound: the settings and the venues are allowed, a trade under way aims into the band and
has something left to trade, and the reserve is not in debt.
-/

namespace LeverageKeeper

/-- A trade under way aims into the band and is not done. -/
def Twap.Sound (m : Methodology) : Twap → Prop
  | .idle => True
  | .under target _ remaining =>
    m.least ≤ target ∧ target ≤ m.most ∧ Decimal.zero < remaining

namespace Fund

/-- The funds that a history can lead to. -/
inductive Reachable : Fund → Prop
  | create {assets : Assets} {settings : Settings} {ledger : Ledger} {feeds : Feeds} {now : UInt64}
    {guard : Guard} {f : Fund} (h : create assets settings ledger feeds now guard = .ok f) :
    Reachable f
  | step {f : Fund} (h : Reachable f) (s : Step) : Reachable (f.step s).1

theorem Reachable.after {f : Fund} (h : f.Reachable) (ss : List Step) : (f.after ss).Reachable := by
  induction ss generalizing f with
  | nil => exact h
  | cons s ss ih => exact ih (h.step s)

/-! ### Soundness -/

structure Sound (f : Fund) : Prop where
  assets : f.assets.violations = []
  settings : f.strategy.settings.Valid
  venues : f.strategy.venues.Sound
  twap : f.strategy.twap.Sound f.strategy.settings.methodology
  reserve : Decimal.zero ≤ f.strategy.reserve

section Parts

variable {f : Fund}

/-- Nothing but the assets and the strategy matters. -/
lemma Sound.of_eq {g : Fund} (h : f.Sound) (ha : g.assets = f.assets)
    (hs : g.strategy = f.strategy) : g.Sound := by
  refine ⟨ha ▸ h.assets, ?_, ?_, ?_, ?_⟩
  · exact hs ▸ h.settings
  · exact hs ▸ h.venues
  · exact hs ▸ h.twap
  · exact hs ▸ h.reserve

lemma afterFailure_eq (e : Failure) :
    (f.afterFailure e).assets = f.assets ∧ (f.afterFailure e).strategy = f.strategy := by
  cases e <;> exact ⟨rfl, rfl⟩

lemma Sound.afterFailure (h : f.Sound) (e : Failure) : (f.afterFailure e).Sound :=
  h.of_eq (afterFailure_eq e).1 (afterFailure_eq e).2

lemma Sound.withTwap {w : Twap} (h : f.Sound) (hw : w.Sound f.strategy.settings.methodology) :
    (f.withTwap w).Sound :=
  ⟨h.assets, h.settings, h.venues, hw, h.reserve⟩

lemma Sound.withReserve {a : Decimal} (h : f.Sound) (ha : Decimal.zero ≤ a) :
    (f.withReserve a).Sound :=
  ⟨h.assets, h.settings, h.venues, h.twap, ha⟩

lemma Sound.settled (h : f.Sound) (t : Trade) (l : Ledger) : (f.settled t l).Sound :=
  ⟨h.assets, h.settings, h.venues.stamp _, h.twap, h.reserve⟩

/-- A bounty is paid as a whole or not at all. -/
lemma payBounty_cases (f : Fund) (payee : Address) :
    f.payBounty payee = (f, Decimal.zero) ∨
      ∃ l, f.ledger.payReward payee f.bounty = .ok l ∧ Decimal.zero < f.bounty ∧
        f.payBounty payee = (({ f with ledger := l } : Fund).withReserve
          ((f.strategy.reserve.sub? f.bounty).getD Decimal.zero), f.bounty) := by
  unfold payBounty
  split
  · exact .inl rfl
  next hb =>
    cases hl : f.ledger.payReward payee f.bounty with
    | error r => exact .inl rfl
    | ok l => exact .inr ⟨l, rfl, Decimal.not_le.1 hb, rfl⟩

lemma sub?_getD_nonneg {a b : Decimal} (h : b ≤ a) :
    Decimal.zero ≤ (a.sub? b).getD Decimal.zero := by
  cases hs : a.sub? b with
  | none => exact Decimal.le_refl _
  | some c =>
    rw [Decimal.le_iff_toRat] at h ⊢
    rw [Decimal.toRat_zero]
    exact (Decimal.rounds_sub? hs).nonneg (by linarith)

lemma Sound.payBounty (h : f.Sound) (payee : Address) : (f.payBounty payee).1.Sound := by
  rcases payBounty_cases f payee with he | ⟨l, -, -, he⟩
  · rw [he]
    exact h
  · have hl : ({ f with ledger := l } : Fund).Sound := h.of_eq rfl rfl
    rw [he]
    exact hl.withReserve (sub?_getD_nonneg (Decimal.min_le_right _ _))

end Parts

/-! ### Trades keep a fund sound -/

section Trades

variable {f : Fund} {t : Trade} {c : Call}

/-- What stays under way after a prepared chunk has something left to trade. -/
lemma twapAfter_sound {d : Direction} {cap slippage : Decimal} {m : Methodology}
    (h : f.Prepared t d cap slippage) (hl : m.least ≤ t.target) (hm : t.target ≤ m.most) :
    t.twapAfter.Sound m := by
  obtain ⟨total, room, hs⟩ := nextChunk_eq_ok h.chunk
  unfold Trade.twapAfter Twap.after
  split
  next hc => exact ⟨hl, hm, Sizing.chunk_remaining hs.chunk_eq hc⟩
  next => trivial

lemma Sound.band (h : f.Sound) :
    Decimal.one < f.strategy.settings.methodology.least ∧
      f.strategy.settings.methodology.least ≤ f.strategy.settings.methodology.target ∧
      f.strategy.settings.methodology.target ≤ f.strategy.settings.methodology.most := by
  obtain ⟨h1, h2, h3, -⟩ := Methodology.violations_eq_nil.1 (Settings.valid_iff.1 h.settings).1
  exact ⟨h1, h2, h3⟩

/-- An emergency begins above the band. -/
lemma Sound.most_lt_ratio (h : f.Sound) :
    f.strategy.settings.methodology.most < f.strategy.settings.incentive.ratio :=
  (Incentive.violations_eq_nil.1 (Settings.valid_iff.1 h.settings).2.2).1

/-- The three calls that may leave a trade under way aim into the band. -/
lemma Sound.target_mem (h : f.Sound) (hd : f.Decides t c) (hc : ∀ caller venue,
    c ≠ .ripcord caller venue ∧ c ≠ .disengage caller venue) :
    f.strategy.settings.methodology.least ≤ t.target ∧
      t.target ≤ f.strategy.settings.methodology.most := by
  cases c with
  | engage caller venue => exact hd.target_eq ▸ h.band.2
  | rebalance caller venue => exact Sizing.recentered_eq_ok hd.target_eq
  | iterate caller venue =>
    obtain ⟨rest, hw⟩ := hd.underWay
    have htw := h.twap
    rw [hw] at htw
    exact ⟨htw.1, htw.2.1⟩
  | ripcord caller venue => exact absurd rfl (hc caller venue).1
  | disengage caller venue => exact absurd rfl (hc caller venue).2
  | _ => exact hd.elim

lemma Sound.finish (h : f.Sound) {l : Ledger} {r : Report} (hd : f.Decides t c) :
    ((f.settled t l).finish t r c).1.Sound := by
  have hs := h.settled t l
  cases c with
  | engage caller venue =>
    obtain ⟨hl, hm⟩ := h.target_mem (c := .engage caller venue) hd fun _ _ => ⟨nofun, nofun⟩
    exact hs.withTwap (twapAfter_sound hd.prepared hl hm)
  | rebalance caller venue =>
    obtain ⟨hl, hm⟩ := h.target_mem (c := .rebalance caller venue) hd fun _ _ => ⟨nofun, nofun⟩
    exact hs.withTwap (twapAfter_sound hd.prepared hl hm)
  | iterate caller venue =>
    obtain ⟨hl, hm⟩ := h.target_mem (c := .iterate caller venue) hd fun _ _ => ⟨nofun, nofun⟩
    exact hs.withTwap (twapAfter_sound hd.prepared hl hm)
  | ripcord caller venue => exact (hs.withTwap (w := .idle) trivial).payBounty caller
  | disengage caller venue => exact hs.withTwap (w := .idle) trivial
  | _ => exact hd.elim

lemma Sound.changes {g : Fund} {a : Answer} (h : f.Sound) (hc : f.Changes g a) : g.Sound := by
  cases hc with
  | cleared target current active => exact h.withTwap (w := .idle) trivial
  | settings s inactive valid =>
    refine ⟨h.assets, valid, h.venues, ?_, h.reserve⟩
    -- no trade is under way while settings change
    revert inactive
    cases f.strategy.twap with
    | idle => exact fun _ => trivial
    | under _ _ _ => exact nofun
  | added name venue terms r ok =>
    exact ⟨h.assets, h.settings, h.venues.add ok, h.twap, h.reserve⟩
  | updated name terms r ok =>
    exact ⟨h.assets, h.settings, h.venues.update ok, h.twap, h.reserve⟩
  | removed name l r ok =>
    exact ⟨h.assets, h.settings, h.venues.remove ok, h.twap, h.reserve⟩
  | guard g => exact h.of_eq rfl rfl
  | deposited amount reserve positive sum =>
    refine h.withReserve ?_
    have h0 := Decimal.le_iff_toRat.1 h.reserve
    have h1 := Decimal.lt_iff_toRat.1 positive
    rw [Decimal.toRat_zero] at h0 h1
    rw [Decimal.le_iff_toRat, Decimal.toRat_zero]
    exact (Decimal.rounds_plus sum).nonneg (by linarith)
  | kept reserve => exact h
  | withdrawn l caller paid =>
    have hl : ({ f with ledger := l } : Fund).Sound := h.of_eq rfl rfl
    exact hl.withReserve (Decimal.le_refl _)

theorem Sound.call (h : f.Sound) (c : Call) : (f.call c).1.Sound := by
  rcases call_cases f c with ⟨e, he⟩ | ⟨t, x, l, ho⟩ | ⟨t, x, l, r, hx⟩ | ⟨g, a, hg, he⟩
  · rw [he]
    exact h.afterFailure e
  · rw [ho.call_eq]
    exact h.of_eq rfl rfl
  · rw [hx.call_eq]
    exact h.finish (decides_of_tradeOf? hx.decided)
  · rw [he]
    exact h.changes hg

end Trades

/-! ### Steps keep a fund sound -/

/-- The call that an action of the keeper amounts to. -/
def callFor (keeper : Address) (venue : String) : Action → Option Call
  | .rebalance => some (.rebalance keeper venue)
  | .iterate => some (.iterate keeper venue)
  | .ripcord => some (.ripcord keeper venue)
  | .none => none

/-- The call that a step makes, if it makes one. -/
def callOf? (f : Fund) : Step → Option Call
  | .call c => some c
  | .tick keeper =>
    match f.actions with
    | .ok actions => (Keeper.pick? actions).bind fun (venue, a) => callFor keeper venue a
    | .error _ => none
  | _ => none

section Steps

variable {f : Fund}

lemma perform_of_callFor {keeper : Address} {venue : String} {a : Action} {c : Call}
    (h : callFor keeper venue a = some c) : (Keeper.perform f keeper venue a).1 = (f.call c).1 := by
  cases a <;> cases h <;> rfl

/-- **A step that makes a call does to the fund what the call does.** -/
theorem step_of_callOf? {s : Step} {c : Call} (h : f.callOf? s = some c) :
    (f.step s).1 = (f.call c).1 := by
  cases s with
  | call c' => cases h; rfl
  | tick keeper =>
    unfold callOf? at h
    dsimp only at h
    split at h
    next actions ha =>
      obtain ⟨⟨venue, a⟩, hp, hc⟩ := Option.bind_eq_some_iff.1 h
      rw [← perform_of_callFor hc]
      change (Keeper.tick f keeper).1 = _
      unfold Keeper.tick
      rw [ha, attempt_ok, hp]
    next => cases h
  | ask q => cases h
  | event e => cases h

/-- A look that calls nothing leaves the fund as it is, or halts it. -/
lemma tick_of_no_call {keeper : Address} (h : f.callOf? (.tick keeper) = none) :
    (Keeper.tick f keeper).1 = f ∨ ∃ e, (Keeper.tick f keeper).1 = f.afterFailure e := by
  unfold callOf? at h
  dsimp only at h
  unfold Keeper.tick
  cases ha : f.actions with
  | error e => exact .inr ⟨e, rfl⟩
  | ok actions =>
    rw [ha] at h
    rw [attempt_ok]
    cases hp : Keeper.pick? actions with
    | none => exact .inl rfl
    | some p =>
      obtain ⟨venue, a⟩ := p
      dsimp only at h
      rw [hp, Option.bind_some] at h
      cases a <;> cases h
      exact .inl rfl

lemma around_cases (f : Fund) (change : Checked Fund) :
    (f.around change).1 = f ∨ change = .ok (f.around change).1 := by
  cases change with
  | ok g => exact .inr rfl
  | error r => exact .inl rfl

lemma look_cases {α : Type} (f : Fund) (decision : Outcome α) :
    (f.look decision).1 = f ∨ ∃ e, (f.look decision).1 = f.afterFailure e := by
  cases decision with
  | ok a => exact .inl rfl
  | error e => exact .inr ⟨e, rfl⟩

lemma ask_cases (f : Fund) (q : Question) :
    (f.ask q).1 = f ∨ ∃ e, (f.ask q).1 = f.afterFailure e := by
  cases q with
  | actions => exact look_cases f _
  | preview venue => exact look_cases f _
  | settings => exact look_cases f _
  | terms venue => exact look_cases f _
  | _ => exact .inl rfl

/-- A step that makes no call and is no event leaves the fund as it is, or fails. -/
lemma idle_cases {s : Step} (h : f.callOf? s = none) :
    (∃ e, s = .event e) ∨ (f.step s).1 = f ∨ ∃ e, (f.step s).1 = f.afterFailure e := by
  cases s with
  | call c => cases h
  | tick keeper => exact .inr (tick_of_no_call h)
  | ask q => exact .inr (ask_cases f q)
  | event e => exact .inl ⟨e, rfl⟩

/-- What happens around a fund leaves its assets alone, and of the strategy it reaches at most the
way a venue answers. -/
lemma event_cases (f : Fund) (e : Event) :
    (f.event e).1.assets = f.assets ∧
      ((f.event e).1.strategy = f.strategy ∨ ∃ venue answer,
        (f.event e).1.strategy =
          { f.strategy with venues := f.strategy.venues.turn venue answer }) := by
  cases e with
  | setPrice feed price time =>
    change (f.around _).1.assets = _ ∧ ((f.around _).1.strategy = _ ∨ _)
    rcases around_cases f ((f.feeds.setPrice feed price f.assets.oracleDecimals
      (time.getD f.now)).map fun feeds => { f with feeds }) with h | h
    · rw [h]
      exact ⟨rfl, .inl rfl⟩
    · obtain ⟨_, -, h⟩ := map_eq_ok.1 h
      rw [← h]
      exact ⟨rfl, .inl rfl⟩
  | deposit amount =>
    change (f.around _).1.assets = _ ∧ ((f.around _).1.strategy = _ ∨ _)
    rcases around_cases f ((f.ledger.deposit amount).map fun ledger => { f with ledger })
      with h | h
    · rw [h]
      exact ⟨rfl, .inl rfl⟩
    · obtain ⟨_, -, h⟩ := map_eq_ok.1 h
      rw [← h]
      exact ⟨rfl, .inl rfl⟩
  | turn venue answer => exact ⟨rfl, .inr ⟨venue, answer, rfl⟩⟩
  | _ => exact ⟨rfl, .inl rfl⟩

/-- **A step that makes no call** leaves the assets alone, and of the strategy it reaches at most
the way a venue answers. -/
theorem step_of_no_call {s : Step} (h : f.callOf? s = none) :
    (f.step s).1.assets = f.assets ∧
      ((f.step s).1.strategy = f.strategy ∨ ∃ venue answer,
        (f.step s).1.strategy =
          { f.strategy with venues := f.strategy.venues.turn venue answer }) := by
  rcases idle_cases h with ⟨e, rfl⟩ | he | ⟨e, he⟩
  · exact event_cases f e
  · rw [he]
    exact ⟨rfl, .inl rfl⟩
  · rw [he]
    obtain ⟨ha, hs⟩ := afterFailure_eq (f := f) e
    exact ⟨ha, .inl hs⟩

theorem Sound.step (h : f.Sound) (s : Step) : (f.step s).1.Sound := by
  cases hc : f.callOf? s with
  | some c =>
    rw [step_of_callOf? hc]
    exact h.call c
  | none =>
    obtain ⟨ha, hs | ⟨venue, answer, hs⟩⟩ := step_of_no_call hc
    · exact h.of_eq ha hs
    · have ht : ({ f with strategy :=
          { f.strategy with venues := f.strategy.venues.turn venue answer } } : Fund).Sound :=
        ⟨h.assets, h.settings, h.venues.turn answer, h.twap, h.reserve⟩
      exact ht.of_eq ha hs

end Steps

lemma create_sound {assets : Assets} {settings : Settings} {ledger : Ledger} {feeds : Feeds}
    {now : UInt64} {guard : Guard} {f : Fund}
    (h : Fund.create assets settings ledger feeds now guard = .ok f) : f.Sound := by
  unfold Fund.create at h
  simp only [bind_eq_ok, demand_eq_ok, List.append_eq_nil_iff, pure_eq_ok] at h
  obtain ⟨_, ⟨ha, hs⟩, rfl⟩ := h
  exact ⟨ha, hs, Registry.sound_empty, trivial, Decimal.le_refl _⟩

/-- **Every fund that there can be is sound.** -/
theorem Reachable.sound {f : Fund} (h : f.Reachable) : f.Sound := by
  induction h with
  | create h => exact create_sound h
  | step _ s ih => exact ih.step s

/-! ### A fund at hand -/

namespace Trial

def operator : Address := ⟨9⟩

/-- A short number, such as 1.7. -/
def decimal (digits : Fin 1000) (scale : Fin 3) : Decimal :=
  ⟨false, digits, scale, Nat.lt_trans digits.isLt (by decide),
    Nat.le_trans (Nat.le_of_lt scale.isLt) (by decide)⟩

/-- The same from any numbers, each cut to size. -/
def number (digits scale : ℕ) : Decimal := decimal (Fin.ofNat 1000 digits) (Fin.ofNat 3 scale)

/-- Two tokens of two decimals, both at a price of one. -/
def assets : Assets := ⟨⟨1⟩, ⟨2⟩, ⟨3⟩, ⟨4⟩, 2, 2, 2, 3600⟩

def feeds : Feeds := ⟨[(⟨3⟩, ⟨100, 2, 1000⟩), (⟨4⟩, ⟨100, 2, 1000⟩)]⟩

/-- A band from 1.7 to 2.3 around 2, and an emergency from 2.7 on. -/
def settings : Settings where
  methodology :=
    { target := decimal 2 0
      least := decimal 17 1
      most := decimal 23 1
      speed := decimal 5 1
      interval := 3600 }
  execution := ⟨Decimal.zero, 600, decimal 2 2⟩
  incentive :=
    { ratio := decimal 27 1
      cooldown := 60
      slippage := decimal 5 2
      reward := Decimal.one }

def terms : Terms where
  cap := decimal 300 0
  incentivizedCap := decimal 500 0
  lastTrade := 0
  leverRoute := []
  deleverRoute := []

/-- A thousand units of collateral and no debt, open to every caller. -/
def opening : Fund where
  assets := assets
  guard := ⟨operator, ⟨[operator], true⟩⟩
  strategy := ⟨settings, Registry.empty, .idle, 0, Decimal.zero⟩
  ledger := ⟨Book.opening 100000, ⟨decimal 8 1, decimal 9 1⟩, {}, false⟩
  feeds := feeds
  now := 1000
  halted := false

/-- The fund with a venue to trade on. -/
def fund (v : Venue) : Fund := opening.after [.call (.addVenue operator "dex" v terms)]

theorem reachable (v : Venue) : (fund v).Reachable := by
  have h : Fund.create assets settings opening.ledger feeds 1000 opening.guard = .ok opening := rfl
  exact (Reachable.create h).after _

/-- The fund after a first chunk upward, with the venue rested. -/
def levered : Fund :=
  (fund (Venue.exact "dex")).after [.call (.engage operator "dex"), .event (.advance 700)]

theorem levered_reachable : levered.Reachable := (reachable _).after _

def collateralPrice (cents : Int) (time : UInt64) : Step :=
  .event (.setReading assets.collateralFeed ⟨cents, 2, time⟩)

/-- The levered fund in an emergency: the collateral is down to a price of 0.3. -/
def inDanger (time : UInt64) : Fund :=
  levered.after [.event (.setTime time), collateralPrice 30 time,
    .event (.setReading assets.borrowFeed ⟨100, 2, time⟩)]

theorem inDanger_reachable (time : UInt64) : (inDanger time).Reachable := levered_reachable.after _

end Trial

/-! ### The rules, one by one -/

/-- **What holds of every fund that there can be.**  The band lies above one around the target, with
the emergency beyond it; every rebalance goes some part of the way; the parts of a whole are such;
an emergency waits no longer and accepts no less slippage than an ordinary trade, and its reward is
not negative.  Every venue has a name and a positive cap, no larger than the one for emergencies.
The reserve is not negative, and a trade under way aims into the band and has something left. -/
theorem reachable_invariant {f : Fund} (hf : f.Reachable) :
    let m := f.strategy.settings.methodology
    let e := f.strategy.settings.execution
    let i := f.strategy.settings.incentive
    (f.strategy.settings.Valid ∧ Decimal.one < m.least ∧ m.least ≤ m.target ∧
        m.target ≤ m.most ∧ m.most < i.ratio ∧ Decimal.zero < m.speed ∧ m.speed ≤ Decimal.one ∧
        m.interval ≠ 0 ∧ e.unutilized.IsFraction ∧ e.slippage.IsFraction ∧
        i.slippage.IsFraction ∧ i.cooldown ≤ e.cooldown ∧ e.slippage ≤ i.slippage ∧
        Decimal.zero ≤ i.reward) ∧
      (∀ entry ∈ f.strategy.venues.entries, Text.isBlankText entry.1 = false ∧
        Decimal.zero < entry.2.terms.cap ∧
        entry.2.terms.cap ≤ entry.2.terms.incentivizedCap) ∧
      Decimal.zero ≤ f.strategy.reserve ∧
      ∀ target direction remaining, f.strategy.twap = .under target direction remaining →
        m.least ≤ target ∧ target ≤ m.most ∧ Decimal.zero < remaining := by
  intro m e i
  have hs := hf.sound
  obtain ⟨hm, he, hi⟩ := Settings.valid_iff.1 hs.settings
  obtain ⟨hone, hleast, hmost, hpos, hspeed, hinterval⟩ := Methodology.violations_eq_nil.1 hm
  obtain ⟨hunutilized, hslippage⟩ := Execution.violations_eq_nil.1 he
  obtain ⟨hratio, hcooldown, hemergency, horder, hreward⟩ := Incentive.violations_eq_nil.1 hi
  refine ⟨⟨hs.settings, hone, hleast, hmost, hratio, hpos, hspeed, hinterval, hunutilized,
    hslippage, hemergency, hcooldown, horder, hreward⟩, ?_, hs.reserve, ?_⟩
  · intro entry hentry
    exact Terms.violations_eq_nil.1 (hs.venues.allowed entry hentry)
  · intro target direction remaining htwap
    have hw := hs.twap
    rw [htwap] at hw
    exact hw

/-- The levered fund has a trade under way that aims into the band. -/
theorem reachable_invariant_levered :
    ∃ target direction remaining,
      Trial.levered.strategy.twap = .under target direction remaining ∧
        Trial.levered.strategy.settings.methodology.least ≤ target ∧
        target ≤ Trial.levered.strategy.settings.methodology.most ∧ Decimal.zero < remaining := by
  obtain ⟨-, -, -, htwap⟩ := reachable_invariant Trial.levered_reachable
  have hactive : Trial.levered.strategy.twap.isActive = true := by decide +kernel
  cases hw : Trial.levered.strategy.twap with
  | idle =>
    rw [hw] at hactive
    cases hactive
  | under target direction remaining =>
    exact ⟨target, direction, remaining, rfl, htwap target direction remaining hw⟩

end Fund

end LeverageKeeper
