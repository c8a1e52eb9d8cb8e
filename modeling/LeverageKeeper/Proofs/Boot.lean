import LeverageKeeper.Boot
import LeverageKeeper.Proofs.Config.Files
import LeverageKeeper.Proofs.Fund.Authority
import LeverageKeeper.Proofs.Fund.Engagement

/-!
A configuration is checked before it is used, and what the check lets pass is what a start needs:
every address resolves, the fund is created, every venue is registered, the reserve is funded.  The
numbers of the seed are not checked against the range of native units, so they are all that is left
to go wrong.
-/

namespace LeverageKeeper

open Decimal (bound maxScale limit)

/-! ### The feeds and the collateral -/

section Seed

variable {price : Decimal} {d : ℕ} {feeds : Feeds} {feed : Address} {time : UInt64} {r : Refusal}

/-- A price is too large for a feed only if it leaves the range of decimals at that precision. -/
lemma Feeds.setPrice_eq_error (h : feeds.setPrice feed price d time = .error r)
    (hp : 0 < price.toRat) (hd : d ≤ maxScale) :
    r = .invalidPrice feed (.notRepresentable price d) ∧ 2 ^ 96 ≤ price.toRat * 10 ^ d := by
  unfold setPrice at h
  split at h
  · cases h
  next hnone =>
    cases h
    have hnone : price.mul? (Decimal.pow10 d) = none := Option.map_eq_none_iff.1 hnone
    have hbig := Decimal.limit_le_of_mul?_pow10_eq_none hnone
    rw [show Nat.min d maxScale = d from Nat.min_eq_left hd, abs_of_pos (by positivity)] at hbig
    exact ⟨rfl, le_trans (by norm_num [limit]) hbig⟩

/-- An amount is too large for native units only if it leaves the range of decimals there. -/
lemma Decimal.toUnits_eq_error {amount : Decimal} (h : amount.toUnits d = .error r)
    (ha : 0 ≤ amount.toRat) (hd : d ≤ maxScale) :
    r = .numeric (.amountTooLarge amount d) ∧ 2 ^ 96 ≤ amount.toRat * 10 ^ d := by
  rw [toUnits_of_nonneg ha, show Nat.min d maxScale = d from Nat.min_eq_left hd] at h
  split at h
  · cases h
  next hbig =>
    cases h
    refine ⟨rfl, ?_⟩
    have hle := (Nat.le_floor_iff (by positivity)).1 (Nat.le_of_not_lt hbig)
    exact le_trans (by norm_num [bound]) hle

end Seed

/-- A number of the seed that a start cannot take, as the fault it ends in. -/
inductive Config.SeedTooLarge (c : Config) (a : Assets) : BootFault → Prop
  | collateralPrice
    (h : 2 ^ 96 ≤ c.options.paper.prices.collateral.toRat * 10 ^ a.oracleDecimals) :
    SeedTooLarge c a (.failure (.refused (.invalidPrice a.collateralFeed
      (.notRepresentable c.options.paper.prices.collateral a.oracleDecimals))))
  | borrowPrice (h : 2 ^ 96 ≤ c.options.paper.prices.borrow.toRat * 10 ^ a.oracleDecimals) :
    SeedTooLarge c a (.failure (.refused (.invalidPrice a.borrowFeed
      (.notRepresentable c.options.paper.prices.borrow a.oracleDecimals))))
  | collateral
    (h : 2 ^ 96 ≤ c.options.paper.initialCollateral.toRat * 10 ^ a.collateralDecimals) :
    SeedTooLarge c a (.failure (.refused (.numeric
      (.amountTooLarge c.options.paper.initialCollateral a.collateralDecimals))))

/-! ### The fund -/

/-- An entry as it is registered. -/
def VenueEntry.entry (a : Assets) (e : VenueEntry) : String × Listing :=
  (e.name, ⟨Venue.paper e.name a e.feeBps, e.terms⟩)

/-- What a fund is like that a configuration describes, before its first trade: exactly the listed
venues under their terms, nothing owed, no trade under way, the listed callers, and the reserve. -/
structure Config.Opens (c : Config) (a : Assets) (operator : Address) (allowed : List Address)
    (collateral : ℕ) (f : Fund) : Prop where
  assets : f.assets = a
  settings : f.strategy.settings = c.settings
  venues : f.strategy.venues.entries.Perm (c.venues.map (·.entry a))
  ordered : f.strategy.venues.Sound
  twap : f.strategy.twap = .idle
  reserve : f.strategy.reserve.toRat = c.options.paper.rewardDeposit.toRat
  operator : f.guard.operator = operator
  allowed : ∀ x, x ∈ f.guard.list.allowed ↔ x ∈ allowed
  anyoneCallable : f.guard.list.anyoneCallable = c.options.anyoneCallable
  collateral : f.ledger.book.collateral = collateral
  debt : f.ledger.book.debt = 0
  limits : f.ledger.limits = c.options.paper.limits ∧ f.ledger.outage = {}
  live : f.halted = false

namespace Config

section Opening

variable {f : Fund} {operator : Address} {es : List VenueEntry}

lemma create_ok {a : Assets} {s : Settings} {g : Guard} {ledger : Ledger} {feeds : Feeds}
    {now : UInt64} (ha : a.violations = []) (hs : s.Valid) :
    Fund.create a s ledger feeds now g
      = .ok ⟨a, g, ⟨s, Registry.empty, .idle, 0, Decimal.zero⟩, ledger, feeds, now, false⟩ := by
  have hbroken : a.violations ++ s.violations = [] := List.append_eq_nil_iff.2 ⟨ha, hs⟩
  unfold Fund.create
  dsimp only
  rw [demand_eq_ok (u := ()).2 hbroken]
  rfl

lemma setAnyoneCallable_ok (b : Bool) :
    f.setAnyoneCallable f.guard.operator b
      = ({ f with guard := { f.guard with list := { f.guard.list with anyoneCallable := b } } },
          .ok ()) := by
  unfold Fund.setAnyoneCallable Fund.changeGuard
  rw [Guard.setOpen_eq, if_pos rfl]
  rfl

/-- The operator registers a venue under a name that is not listed yet. -/
lemma addVenue_ok {name : String} {venue : Venue} {t : Terms} (hlive : f.halted = false)
    (ht : t.violations name = []) (hn : f.strategy.venues.find? name = none) :
    f.addVenue f.guard.operator name venue t
      = ({ f with strategy :=
            { f.strategy with
              venues := ⟨Registry.insertSorted name ⟨venue, t⟩ f.strategy.venues.entries⟩ } },
          .ok ()) := by
  unfold Fund.addVenue Fund.change Fund.decideVenues
  rw [Guard.requireOperator_eq_ok (u := ()).2 rfl, Fund.requireLive_eq_ok (u := ()).2 hlive,
    Registry.add_ok venue ht hn]
  rfl

/-- **Venues that are allowed and have names of their own are all registered**, and nothing else
changes. -/
theorem listVenues_ok (hop : f.guard.operator = operator) (hlive : f.halted = false)
    (hf : f.strategy.venues.Sound) (hsound : ∀ e ∈ es, e.Sound)
    (hnew : ∀ e ∈ es, f.strategy.venues.find? e.name = none)
    (hdistinct : es.Pairwise fun d e => d.name ≠ e.name) :
    ∃ venues : Registry, listVenues operator es f
        = .ok { f with strategy := { f.strategy with venues } } ∧
      venues.Sound ∧
      venues.entries.Perm (es.map (·.entry f.assets) ++ f.strategy.venues.entries) := by
  induction es generalizing f with
  | nil => exact ⟨f.strategy.venues, rfl, hf, .refl _⟩
  | cons e es ih =>
    obtain ⟨hne, hdistinct⟩ := List.pairwise_cons.1 hdistinct
    have he := hnew e List.mem_cons_self
    have ht := (hsound e List.mem_cons_self).terms
    subst hop
    have hadd := Registry.add_ok (Venue.paper e.name f.assets e.feeBps) ht he
    -- the fund with the first venue, from which the others are registered
    let g : Fund :=
      { f with strategy :=
        { f.strategy with
          venues := ⟨Registry.insertSorted e.name (e.entry f.assets).2
            f.strategy.venues.entries⟩ } }
    obtain ⟨venues, hlist, hs, hperm⟩ := ih (f := g) rfl hlive (hf.add hadd)
      (fun d hd => hsound d (List.mem_cons_of_mem _ hd))
      (fun d hd => by
        show (Registry.insertSorted _ _ _).lookup d.name = none
        rw [Registry.lookup_insertSorted he, if_neg (hne d hd).symm]
        exact hnew d (List.mem_cons_of_mem _ hd))
      hdistinct
    refine ⟨venues, ?_, hs, hperm.trans ?_⟩
    · unfold listVenues
      rw [addVenue_ok hlive ht he]
      exact hlist
    · exact ((Registry.perm_insertSorted _).append_left _).trans List.perm_middle

/-- A deposit into an empty reserve is the reserve. -/
lemma fundReserve_ok {p : PaperSeed} (hlive : f.halted = false)
    (hempty : f.strategy.reserve = Decimal.zero) (hd : 0 ≤ p.rewardDeposit.toRat) :
    ∃ reserve : Decimal, fundReserve p f = .ok (f.withReserve reserve) ∧
      reserve.toRat = p.rewardDeposit.toRat := by
  unfold fundReserve
  by_cases hpos : Decimal.zero < p.rewardDeposit
  · refine ⟨p.rewardDeposit, ?_, rfl⟩
    rw [if_pos hpos]
    unfold Fund.depositReward Fund.decideDeposit
    rw [demand_eq_ok (u := ()).2 hpos, Fund.requireLive_eq_ok (u := ()).2 hlive, hempty]
    rfl
  · refine ⟨f.strategy.reserve, if_neg hpos, ?_⟩
    have hle := Decimal.le_iff_toRat.1 (Decimal.not_lt.1 hpos)
    rw [Decimal.toRat_zero] at hle
    rw [hempty, Decimal.toRat_zero]
    exact le_antisymm hd hle

end Opening

section Start

variable {c : Config} {a : Assets} {operator : Address} {allowed : List Address} {now : UInt64}

/-- **A sound configuration opens a fund**, whatever the collateral and the prices. -/
theorem openFund_ok (h : c.Sound) (ha : a.violations = []) (operator : Address)
    (allowed : List Address) (collateral : ℕ) (feeds : Feeds) (now : UInt64) :
    ∃ f, c.openFund a operator allowed collateral feeds now = .ok f ∧
      c.Opens a operator allowed collateral f ∧ f.feeds = feeds ∧ f.now = now := by
  -- the fund as it is created, with the list of callers opened or left closed
  let f : Fund :=
    { assets := a
      guard := ⟨operator, (AccessList.ofList allowed).allowed, c.options.anyoneCallable⟩
      strategy := ⟨c.settings, Registry.empty, .idle, 0, Decimal.zero⟩
      ledger := ⟨Book.opening collateral, c.options.paper.limits, {}, false⟩
      feeds := feeds
      now := now
      halted := false }
  have hlist := listVenues_ok (f := f) rfl rfl Registry.sound_empty h.entries
    (fun _ _ => rfl) h.distinct
  obtain ⟨venues, hvenues, hs, hperm⟩ := hlist
  let g : Fund := { f with strategy := { f.strategy with venues } }
  obtain ⟨reserve, hreserve, hvalue⟩ :=
    fundReserve_ok (f := g) rfl rfl h.options.paper.deposit
  refine ⟨g.withReserve reserve, ?_, ⟨rfl, rfl, ?_, hs, rfl, hvalue, rfl,
    fun x => AccessList.mem_ofList, rfl, rfl, rfl, ⟨rfl, rfl⟩, rfl⟩, rfl, rfl⟩
  · unfold openFund
    dsimp only
    rw [create_ok ha h.settings, lift_ok, ok_bind, setAnyoneCallable_ok]
    show (listVenues operator c.venues f >>= _) = _
    rw [hvenues]
    exact hreserve
  · exact hperm.trans (by rw [show f.strategy.venues.entries = [] from rfl, List.append_nil])

/-- A fund that was just opened trades on paper, with fees below the whole. -/
lemma Opens.onPaper {collateral : ℕ} {f : Fund} (ho : c.Opens a operator allowed collateral f)
    (h : c.Sound) (ha : a.violations = []) : f.OnPaper := by
  refine ⟨⟨?_, ?_, ho.ordered, ?_, ?_⟩, fun l hl => ?_, fun name l hl => ?_⟩
  · rw [ho.assets]
    exact ha
  · rw [ho.settings]
    exact h.settings
  · rw [ho.twap]
    trivial
  · rw [Decimal.le_iff_toRat, Decimal.toRat_zero, ho.reserve]
    exact h.options.paper.deposit
  · have hlimits : l = c.options.paper.limits := by
      unfold Ledger.lendingLimits at hl
      rw [ho.limits.2, ho.limits.1] at hl
      exact (Except.ok.inj hl).symm
    obtain ⟨-, hm, hml, ht, -⟩ := h.options.paper
    rw [hlimits]
    exact ⟨hm.le, (hml.trans_lt ht).le⟩
  · have hmem : (name, l) ∈ f.strategy.venues.entries := Registry.mem_of_find? hl
    obtain ⟨e, he, hentry⟩ := List.mem_map.1 (ho.venues.mem_iff.1 hmem)
    obtain rfl : (e.entry a).2 = l := congrArg Prod.snd hentry
    refine ⟨e.feeBps, UInt32.le_of_lt (h.entries e he).fee, ?_⟩
    rw [ho.assets]
    rfl

/-- The first trade does not stop a start. -/
lemma engageFirst_ok {f : Fund} (h : f.OnPaper) (operator : Address) :
    ∃ g, c.engageFirst operator f = .ok g ∧ (c.options.engageOnStart = false → g = f) := by
  unfold engageFirst
  split
  next e es he _ =>
    have hsteady := Fund.engage_steady h operator e.name
    cases hcall : f.engage operator e.name with
    | mk g r =>
      rw [hcall] at hsteady
      refine ⟨g, ?_, fun hno => by rw [he] at hno; cases hno⟩
      cases r with
      | ok r => rfl
      | error e =>
        cases e with
        | refused r => rfl
        | crashed crash => exact absurd rfl (hsteady crash)
  next => exact ⟨f, rfl, fun _ => rfl⟩

lemma failing_eq_error {α : Type} {x : Outcome α} {e : BootFault} :
    failing x = .error e ↔ ∃ e', x = .error e' ∧ e = .failure e' := by
  cases x <;> simp [failing, Except.mapError, eq_comm]

lemma failing_eq_ok {α : Type} {x : Outcome α} {y : α} : failing x = .ok y ↔ x = .ok y := by
  cases x <;> simp [failing, Except.mapError]

/-- The feeds are seeded, or one of the two prices is too large. -/
lemma seedFeeds_eq_error {r : Refusal} (h : seedFeeds c.options.paper a now = .error r)
    (hc : c.options.paper.Sound) (ha : a.oracleDecimals ≤ maxScale) :
    c.SeedTooLarge a (.failure (.refused r)) := by
  unfold seedFeeds at h
  rcases bind_eq_error.1 h with h | ⟨feeds, -, h⟩
  · obtain ⟨rfl, hbig⟩ := Feeds.setPrice_eq_error h hc.collateralPrice ha
    exact .collateralPrice hbig
  · obtain ⟨rfl, hbig⟩ := Feeds.setPrice_eq_error h hc.borrowPrice ha
    exact .borrowPrice hbig

end Start

/-! ### The start -/

/-- What the addresses of a configuration resolve to. -/
structure Resolves (c : Config) (a : Assets) (keeper operator : Address) (allowed : List Address) :
    Prop where
  assets : c.assets.resolve = .ok a
  keeper : c.options.keeperAddress = .ok keeper
  operator : c.options.operatorAddress = .ok operator
  allowed : c.options.allowedAddresses = .ok allowed
  rules : a.violations = []

theorem Sound.resolves {c : Config} (h : c.Sound) :
    ∃ a keeper operator allowed, c.Resolves a keeper operator allowed := by
  obtain ⟨a, ha, hrules⟩ := h.assets
  obtain ⟨keeper, hk⟩ := h.options.keeper
  obtain ⟨operator, ho⟩ := h.options.operator
  obtain ⟨allowed, hl⟩ := h.options.allowed
  exact ⟨a, keeper, operator, allowed, ha, hk, ho, hl, hrules⟩

/-- The collateral of the seed in native units. -/
def heldAtFirst (c : Config) (a : Assets) : ℕ :=
  ⌊c.options.paper.initialCollateral.toRat * 10 ^ a.collateralDecimals⌋₊

section Boot

variable {c : Config} {a : Assets} {keeper operator : Address} {allowed : List Address}
  {now : UInt64}

/-- With the addresses in place, a start seeds the feeds, takes the collateral and opens the
fund. -/
lemma Resolves.openAt_eq (h : c.Resolves a keeper operator allowed) (now : UInt64) :
    c.openAt now = (do
      let feeds ← failing (seedFeeds c.options.paper a now)
      let collateral ← failing (c.options.paper.initialCollateral.toUnits a.collateralDecimals)
      let fund ← failing (c.openFund a operator allowed collateral feeds now)
      return (fund, keeper, operator)) := by
  unfold openAt
  rw [h.assets, h.keeper, h.operator, h.allowed]
  rfl

/-- **A fund that a start opens** stands on the seeded feeds and holds the collateral of the
seed. -/
theorem openAt_eq_ok (hs : c.Sound) (hr : c.Resolves a keeper operator allowed) {f : Fund}
    {k o : Address} (h : c.openAt now = .ok (f, k, o)) :
    k = keeper ∧ o = operator ∧ c.Opens a operator allowed (c.heldAtFirst a) f ∧
      seedFeeds c.options.paper a now = .ok f.feeds ∧ f.now = now := by
  rw [hr.openAt_eq] at h
  simp only [bind_eq_ok, failing_eq_ok, lift_eq_ok, pure_eq_ok, Prod.mk.injEq] at h
  obtain ⟨feeds, hfeeds, collateral, hcollateral, fund, hfund, rfl, rfl, rfl⟩ := h
  obtain ⟨g, hg, hopens, hgfeeds, hgnow⟩ :=
    openFund_ok hs hr.rules operator allowed collateral feeds now
  obtain rfl : fund = g := Except.ok.inj (hfund.symm.trans hg)
  obtain ⟨-, -, -, hcd, -⟩ := Assets.violations_eq_nil.1 hr.rules
  obtain ⟨-, hvalue, -⟩ := Decimal.toUnits_eq_ok.1 hcollateral
  rw [show Nat.min a.collateralDecimals maxScale = a.collateralDecimals from
    Nat.min_eq_left hcd] at hvalue
  subst hvalue
  exact ⟨rfl, rfl, hopens, hgfeeds.symm ▸ hfeeds, hgnow⟩

/-- **A start fails on the numbers of the seed only.** -/
theorem openAt_eq_error (hs : c.Sound) (hr : c.Resolves a keeper operator allowed) {e : BootFault}
    (h : c.openAt now = .error e) : c.SeedTooLarge a e := by
  obtain ⟨-, -, -, hcd, -, hod, -⟩ := Assets.violations_eq_nil.1 hr.rules
  rw [hr.openAt_eq] at h
  rcases bind_eq_error.1 h with h | ⟨feeds, -, h⟩
  · obtain ⟨_, hlift, rfl⟩ := failing_eq_error.1 h
    obtain ⟨r, hseed, rfl⟩ := lift_eq_error.1 hlift
    exact seedFeeds_eq_error hseed hs.options.paper hod
  rcases bind_eq_error.1 h with h | ⟨collateral, -, h⟩
  · obtain ⟨_, hlift, rfl⟩ := failing_eq_error.1 h
    obtain ⟨r, hunits, rfl⟩ := lift_eq_error.1 hlift
    obtain ⟨rfl, hbig⟩ := Decimal.toUnits_eq_error hunits hs.options.paper.collateral hcd
    exact .collateral hbig
  · obtain ⟨f, hf, -⟩ := openFund_ok hs hr.rules operator allowed collateral feeds now
    rw [hf] at h
    cases h

/-- The first trade is no reason for a start to fail. -/
lemma boot_cases (hs : c.Sound) (hr : c.Resolves a keeper operator allowed) (now : UInt64) :
    (∃ e, c.boot now = .error e ∧ c.SeedTooLarge a e) ∨
      ∃ f r, c.boot now = .ok r ∧ c.openAt now = .ok (f, keeper, operator) ∧
        r.keeper = keeper ∧ c.engageFirst operator f = .ok r.fund ∧
        (c.options.engageOnStart = false → r.fund = f) := by
  unfold boot
  cases h : c.openAt now with
  | error e => exact .inl ⟨e, rfl, openAt_eq_error hs hr h⟩
  | ok x =>
    obtain ⟨f, k, o⟩ := x
    obtain ⟨rfl, rfl, hopens, -⟩ := openAt_eq_ok hs hr h
    obtain ⟨g, hg, hsame⟩ := engageFirst_ok (c := c) (hopens.onPaper hs hr.rules) o
    refine .inr ⟨f, ⟨g, k⟩, ?_, rfl, rfl, hg, hsame⟩
    show (failing (c.engageFirst o f) >>= _) = _
    rw [failing_eq_ok.2 hg]
    rfl

end Boot

/-- **A configuration that is loaded can be started**, unless a number of its seed is too large.
Everything that was checked when it was loaded is accepted once more: all addresses resolve, and a
fund is opened whatever the collateral, the prices and the time.  The fund that a start opens has
just the listed venues and callers, the collateral of the seed cut to native units, and the reserve;
the first trade, if there is to be one, comes after that. -/
theorem loaded_starts {file : String → Option String} {v : Variables} {c : Config}
    (h : load file v = .ok c) :
    ∃ a keeper operator allowed, c.Resolves a keeper operator allowed ∧
      (c.options.rpcUrl = none → c.feedSource = .ok (.paper c.options.feedPollInterval)) ∧
      (∀ collateral feeds now, ∃ f, c.openFund a operator allowed collateral feeds now = .ok f) ∧
      (∀ now e, c.boot now = .error e → c.SeedTooLarge a e) ∧
      ∀ now r, c.boot now = .ok r → r.keeper = keeper ∧ ∃ f,
        c.openAt now = .ok (f, keeper, operator) ∧
        c.Opens a operator allowed (c.heldAtFirst a) f ∧
        c.engageFirst operator f = .ok r.fund ∧
        (c.options.engageOnStart = false → r.fund = f) := by
  have hs := sound_of_load h
  obtain ⟨a, keeper, operator, allowed, hr⟩ := hs.resolves
  refine ⟨a, keeper, operator, allowed, hr, ?_, ?_, ?_, ?_⟩
  · intro hno
    unfold feedSource
    rw [hno]
  · intro collateral feeds now
    obtain ⟨f, hf, -⟩ := openFund_ok hs hr.rules operator allowed collateral feeds now
    exact ⟨f, hf⟩
  · intro now e he
    rcases boot_cases hs hr now with ⟨e', he', hlarge⟩ | ⟨f, r, hr, -⟩
    · obtain rfl : e' = e := Except.error.inj (he'.symm.trans he)
      exact hlarge
    · rw [hr] at he
      cases he
  · intro now r hboot
    rcases boot_cases hs hr now with ⟨e, he, -⟩ | ⟨f, r', hr', hopen, hkeeper, hfirst, hsame⟩
    · rw [he] at hboot
      cases hboot
    · obtain rfl : r' = r := Except.ok.inj (hr'.symm.trans hboot)
      obtain ⟨-, -, hopens, -⟩ := openAt_eq_ok hs hr hopen
      exact ⟨hkeeper, f, hopen, hopens, hfirst, hsame⟩

namespace Trial

variable {interval : UInt64} {a : Assets}

/-- The numbers of the seed at hand are small. -/
lemma not_seedTooLarge (ha : (config interval).assets.resolve = .ok a) (e : BootFault) :
    ¬ (config interval).SeedTooLarge a e := by
  obtain ⟨hcd, -, hod, -⟩ := WrittenAssets.resolve_numbers ha
  have hcd : a.collateralDecimals = 2 := hcd
  have hod : a.oracleDecimals = 2 := hod
  have hprice : ¬ (2 : ℚ) ^ 96 ≤ Decimal.one.toRat * 10 ^ 2 := by
    rw [Decimal.toRat_one]
    norm_num
  have hcollateral : ¬ (2 : ℚ) ^ 96 ≤ (Fund.Trial.number 500 0).toRat * 10 ^ 2 := by
    decide +kernel
  rintro (h | h | h)
  · rw [hod] at h
    exact hprice h
  · rw [hod] at h
    exact hprice h
  · rw [hcd] at h
    exact hcollateral h

end Trial

/-- The configuration at hand starts with one venue and five hundred units of collateral. -/
theorem loaded_starts_trial :
    load (Trial.config 10).file {} = .ok (Trial.config 10) ∧
      ∃ a keeper operator allowed f r, (Trial.config 10).Resolves a keeper operator allowed ∧
        (Trial.config 10).boot 1000 = .ok r ∧
        (Trial.config 10).Opens a operator allowed 50000 f ∧ r.fund = f := by
  refine ⟨Trial.load_config, ?_⟩
  obtain ⟨a, keeper, operator, allowed, hr, -, -, herror, hok⟩ := loaded_starts Trial.load_config
  cases hboot : (Trial.config 10).boot 1000 with
  | error e => exact absurd (herror 1000 e hboot) (Trial.not_seedTooLarge hr.assets e)
  | ok r =>
    obtain ⟨-, f, -, hopens, -, hsame⟩ := hok 1000 r hboot
    have hheld : (Trial.config 10).heldAtFirst a = 50000 := by
      unfold heldAtFirst
      rw [(WrittenAssets.resolve_numbers hr.assets).1]
      show ⌊(Fund.Trial.number 500 0).toRat * 10 ^ 2⌋₊ = 50000
      decide +kernel
    rw [hheld] at hopens
    exact ⟨a, keeper, operator, allowed, f, r, hr, rfl, hopens, hsame rfl⟩

end Config

end LeverageKeeper
