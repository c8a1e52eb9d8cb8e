import LeverageKeeper.Config.FeedSource
import LeverageKeeper.Proofs.Config.Allowed

/-!
What it means that a configuration has no problem, as facts that a start can use: its addresses can
be resolved, its tokens and settings keep all rules, its venues have names of their own, and the
numbers of its seed have the right sign.
-/

namespace LeverageKeeper

/-! ### The parts of a configuration -/

/-- Texts of addresses are resolved together. -/
lemma exists_mapM_resolve {raws : List String} (h : ∀ raw ∈ raws, Address.IsText raw)
    (field : String) : ∃ as, raws.mapM (resolve field) = .ok as := by
  induction raws with
  | nil => exact ⟨[], rfl⟩
  | cons raw raws ih =>
    obtain ⟨a, ha⟩ := (h raw List.mem_cons_self).resolve field
    obtain ⟨as, has⟩ := ih fun raw hraw => h raw (List.mem_cons_of_mem _ hraw)
    refine ⟨a :: as, ?_⟩
    rw [List.mapM_cons, ha, ok_bind, has, ok_bind]
    rfl

/-- **Tokens and feeds that are allowed resolve to assets that keep all rules.** -/
theorem WrittenAssets.Allowed.resolve {w : WrittenAssets} (h : w.Allowed) :
    ∃ a, w.resolve = .ok a ∧ a.violations = [] := by
  obtain ⟨a, ha⟩ := h.spelled.resolve
  exact ⟨a, ha, (h.spelled.allowed_iff ha).1 h⟩

/-- The tokens keep what is written beside their addresses. -/
lemma WrittenAssets.resolve_numbers {w : WrittenAssets} {a : Assets} (h : w.resolve = .ok a) :
    a.collateralDecimals = w.collateralDecimals ∧ a.borrowDecimals = w.borrowDecimals ∧
      a.oracleDecimals = w.oracleDecimals ∧ a.maxStaleness = w.maxStaleness := by
  obtain ⟨_, -, _, -, _, -, _, -, rfl⟩ := resolve_eq_ok.1 h
  exact ⟨rfl, rfl, rfl, rfl⟩

/-- A venue that may be registered. -/
structure VenueEntry.Sound (e : VenueEntry) : Prop where
  terms : e.terms.violations e.name = []
  fee : e.feeBps < 10000

lemma VenueEntry.Allowed.sound {e : VenueEntry} (h : e.Allowed) : e.Sound :=
  ⟨Terms.violations_eq_nil_iff.2 ⟨h.name, h.cap, h.cap_le⟩, h.fee⟩

/-- What is known of how a keeper is to run. -/
structure KeeperOptions.Sound (k : KeeperOptions) (maxStaleness : UInt64) : Prop where
  keeper : ∃ a, k.keeperAddress = .ok a
  operator : ∃ a, k.operatorAddress = .ok a
  allowed : ∃ as, k.allowedAddresses = .ok as
  pollInterval : k.pollInterval ≠ 0
  feedPollInterval : k.feedPollInterval ≠ 0
  beats : k.rpcUrl.isSome → k.feedPollInterval < maxStaleness
  paper : k.paper.Sound

lemma KeeperOptions.Allowed.sound {k : KeeperOptions} {maxStaleness : UInt64}
    (h : k.Allowed maxStaleness) : k.Sound maxStaleness where
  keeper := h.keeper.resolve _
  operator := h.operator.resolve _
  allowed := exists_mapM_resolve h.allowed _
  pollInterval := UInt64.pos_iff_ne_zero.1 h.pollInterval
  feedPollInterval := UInt64.pos_iff_ne_zero.1 h.feedPollInterval
  beats := h.renewed
  paper := h.paper

/-! ### The whole -/

/-- What is known of a configuration without a problem. -/
structure Config.Sound (c : Config) : Prop where
  assets : ∃ a, c.assets.resolve = .ok a ∧ a.violations = []
  settings : c.settings.Valid
  venues : c.venues ≠ []
  entries : ∀ e ∈ c.venues, e.Sound
  distinct : c.venues.Pairwise fun d e => d.name ≠ e.name
  options : c.options.Sound c.assets.maxStaleness

theorem Config.Allowed.sound {c : Config} (h : c.Allowed) : c.Sound where
  assets := h.assets.resolve
  settings := Settings.valid_iff_allowed.2 h.settings
  venues := h.venues
  entries e he := (h.entries e he).sound
  distinct := h.distinct
  options := h.options.sound

/-- **A configuration that is loaded is sound**, whatever the files and the variables. -/
theorem Config.sound_of_load {file : String → Option String} {v : Variables} {c : Config}
    (h : load file v = .ok c) : c.Sound := by
  unfold load loadBy at h
  obtain ⟨c', -, h⟩ := bind_eq_ok.1 h
  unfold check at h
  split at h
  next hp =>
    cases h
    exact (problems_eq_nil.1 hp).sound
  next => cases h

end LeverageKeeper
