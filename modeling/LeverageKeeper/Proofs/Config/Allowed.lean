import LeverageKeeper.Config.Load
import LeverageKeeper.Proofs.Decimal.Value
import LeverageKeeper.Proofs.Outcome
import LeverageKeeper.Proofs.Settings
import LeverageKeeper.Proofs.Text.ByteOrder

/-!
# Which configurations are loaded

The check goes through a configuration and lists its problems.  Here the same is said the other way
round, part by part: what a text has to be to be an address, how the numbers have to lie, and which
parts depend on each other.  A configuration has no problem just if all of this holds
(`Config.problems_eq_nil`), so loading accepts exactly the allowed ones among those that files and
variables amount to.
-/

namespace LeverageKeeper

/-! ### Addresses -/

section Addresses

variable {raw : String}

/-- A hexadecimal digit, in either case. -/
def Hex.IsDigit (c : Char) : Prop :=
  '0' ≤ c ∧ c ≤ '9' ∨ 'a' ≤ c ∧ c ≤ 'f' ∨ 'A' ≤ c ∧ c ≤ 'F'

lemma Hex.isSome_value? {c : Char} : (value? c).isSome ↔ IsDigit c := by
  unfold value? IsDigit
  split_ifs with hdigit hlower hupper
  · exact iff_of_true rfl (.inl hdigit)
  · exact iff_of_true rfl (.inr (.inl hlower))
  · exact iff_of_true rfl (.inr (.inr hupper))
  · exact iff_of_false nofun (by simp only [hdigit, hlower, hupper, or_self, not_false_eq_true])

/-- Hexadecimal digits take one byte each. -/
lemma Hex.IsDigit.utf8Size {c : Char} (h : IsDigit c) : c.utf8Size = 1 := by
  have hle : c.val.toNat ≤ 127 := by
    rcases h with h | h | h <;> exact Nat.le_trans h.2 (by decide)
  unfold Char.utf8Size
  exact if_pos (UInt32.le_iff_toNat_le.2 hle)

lemma Text.utf8ByteSize_eq (s : String) : s.utf8ByteSize = (s.toList.map Char.utf8Size).sum := by
  have hbytes : s.utf8ByteSize = (bytes s).length := by
    unfold bytes
    rfl
  rw [hbytes, bytes_eq, List.length_flatMap]
  simp only [String.length_utf8EncodeChar]

/-- Forty hexadecimal digits after `0x` or `0X`. -/
def Address.IsText (raw : String) : Prop :=
  ∃ mark digits, raw.toList = '0' :: mark :: digits ∧ (mark = 'x' ∨ mark = 'X') ∧
    digits.length = 40 ∧ ∀ c ∈ digits, Hex.IsDigit c

/-- A text of a mark and digits has as many bytes as characters. -/
lemma Text.utf8ByteSize_of_digits {mark : Char} {digits : List Char}
    (hraw : raw.toList = '0' :: mark :: digits) (hmark : mark = 'x' ∨ mark = 'X')
    (hdigits : ∀ c ∈ digits, Hex.IsDigit c) : raw.utf8ByteSize = digits.length + 2 := by
  have hones : digits.map Char.utf8Size = List.replicate digits.length 1 :=
    List.eq_replicate_iff.2 ⟨List.length_map _, fun n hn => by
      obtain ⟨c, hc, rfl⟩ := List.mem_map.1 hn
      exact (hdigits c hc).utf8Size⟩
  have hone : mark.utf8Size = 1 := by
    rcases hmark with rfl | rfl <;> rfl
  rw [utf8ByteSize_eq, hraw, List.map_cons, List.map_cons, hones, List.sum_cons, List.sum_cons,
    List.sum_replicate_nat, hone, show Char.utf8Size '0' = 1 from rfl]
  omega

lemma Address.marked_iff {cs : List Char} :
    ['0', 'x'] <+: cs ∨ ['0', 'X'] <+: cs ↔
      ∃ mark digits, cs = '0' :: mark :: digits ∧ (mark = 'x' ∨ mark = 'X') := by
  constructor
  · rintro (⟨digits, hcs⟩ | ⟨digits, hcs⟩)
    · exact ⟨_, digits, hcs.symm, .inl rfl⟩
    · exact ⟨_, digits, hcs.symm, .inr rfl⟩
  · rintro ⟨mark, digits, rfl, rfl | rfl⟩
    · exact .inl ⟨digits, rfl⟩
    · exact .inr ⟨digits, rfl⟩

/-- **A text has no fault just if it is the text of an address.** -/
theorem addressFault?_eq_none : addressFault? raw = none ↔ Address.IsText raw := by
  unfold addressFault?
  constructor
  · intro h
    split_ifs at h with _ hmarked hlen hhex
    obtain ⟨mark, digits, hraw, hmark⟩ := Address.marked_iff.1 hmarked
    have hdigits : ∀ c ∈ digits, Hex.IsDigit c := by
      rw [hraw] at hhex
      simpa [← Hex.isSome_value?, Option.isSome_iff_ne_none] using hhex
    have hsize := Text.utf8ByteSize_of_digits hraw hmark hdigits
    unfold addressLength at hlen
    exact ⟨mark, digits, hraw, hmark, by omega, hdigits⟩
  · rintro ⟨mark, digits, hraw, hmark, hlen, hdigits⟩
    have hsize := Text.utf8ByteSize_of_digits hraw hmark hdigits
    have hne : raw ≠ "" := by
      rintro rfl
      cases hraw
    have hhex : ¬(raw.toList.drop 2).any fun c => (Hex.value? c).isNone := by
      rw [hraw]
      simpa [← Hex.isSome_value?, Option.isSome_iff_ne_none] using hdigits
    have hlength : ¬raw.utf8ByteSize ≠ addressLength := by
      unfold addressLength
      omega
    rw [if_neg hne, if_neg (not_not.2 (Address.marked_iff.2 ⟨mark, digits, hraw, hmark⟩)),
      if_neg hlength, if_neg hhex]

lemma addressProblems_eq_nil {field : String} :
    addressProblems field raw = [] ↔ Address.IsText raw := by
  rw [← addressFault?_eq_none]
  unfold addressProblems
  cases addressFault? raw <;> simp

/-- Digits spell an address if there are as many as there have to be. -/
lemma Address.ofDigits?_of_isDigit {cs : List Char} (hlen : cs.length = 40)
    (hcs : ∀ c ∈ cs, Hex.IsDigit c) : ∃ a, ofDigits? cs = some a := by
  have key : ∀ n, ∃ m, cs.foldlM (fun n c => (Hex.value? c).map (n * 16 + ·)) n = some m := by
    clear hlen
    induction cs with
    | nil => exact fun n => ⟨n, rfl⟩
    | cons c cs ih =>
      intro n
      obtain ⟨d, hd⟩ := Option.isSome_iff_exists.1 (Hex.isSome_value?.2 (hcs c List.mem_cons_self))
      obtain ⟨m, hm⟩ := ih (fun c hc => hcs c (List.mem_cons_of_mem _ hc)) (n * 16 + d)
      refine ⟨m, ?_⟩
      rw [List.foldlM_cons, hd]
      exact hm
  obtain ⟨m, hm⟩ := key 0
  refine ⟨⟨BitVec.ofNat 160 m⟩, ?_⟩
  unfold ofDigits?
  rw [if_pos hlen, hm]
  rfl

/-- **The text of an address is read as one.** -/
theorem Address.IsText.ofText? (h : IsText raw) : ∃ a, ofText? raw = some a := by
  obtain ⟨mark, digits, hraw, hx, hlen, hdigits⟩ := h
  obtain ⟨a, ha⟩ := ofDigits?_of_isDigit hlen hdigits
  refine ⟨a, ?_⟩
  unfold Address.ofText?
  rcases hx with rfl | rfl <;> rw [hraw] <;> exact ha

lemma resolve_eq_ok {field raw : String} {a : Address} :
    resolve field raw = .ok a ↔ Address.ofText? raw = some a := by
  unfold resolve
  cases Address.ofText? raw <;> simp

/-- Whatever the field is called where the address is resolved. -/
lemma Address.IsText.resolve (h : IsText raw) (field : String) :
    ∃ a, LeverageKeeper.resolve field raw = .ok a := by
  obtain ⟨a, ha⟩ := h.ofText?
  exact ⟨a, resolve_eq_ok.2 ha⟩

end Addresses

/-! ### Tokens and feeds -/

/-- All four addresses are written as addresses are. -/
structure WrittenAssets.Spelled (w : WrittenAssets) : Prop where
  collateral : Address.IsText w.collateral
  borrow : Address.IsText w.borrow
  collateralFeed : Address.IsText w.collateralFeed
  borrowFeed : Address.IsText w.borrowFeed

/-- The tokens are two, and neither they nor their feeds are the zero address; the decimals are no
more than a decimal can have, and readings count for some time. -/
structure WrittenAssets.Allowed (w : WrittenAssets) : Prop where
  spelled : w.Spelled
  distinct : Address.ofText? w.collateral ≠ Address.ofText? w.borrow
  collateral : Address.ofText? w.collateral ≠ some .zero
  borrow : Address.ofText? w.borrow ≠ some .zero
  collateralFeed : Address.ofText? w.collateralFeed ≠ some .zero
  borrowFeed : Address.ofText? w.borrowFeed ≠ some .zero
  collateralDecimals : w.collateralDecimals ≤ 28
  borrowDecimals : w.borrowDecimals ≤ 28
  oracleDecimals : w.oracleDecimals ≤ 28
  maxStaleness : 0 < w.maxStaleness

section Tokens

variable {w : WrittenAssets} {a : Assets}

lemma WrittenAssets.resolve_eq_ok :
    w.resolve = .ok a ↔
      ∃ c, Address.ofText? w.collateral = some c ∧ ∃ b, Address.ofText? w.borrow = some b ∧
        ∃ cf, Address.ofText? w.collateralFeed = some cf ∧
          ∃ bf, Address.ofText? w.borrowFeed = some bf ∧
            ⟨c, b, cf, bf, w.collateralDecimals, w.borrowDecimals, w.oracleDecimals,
              w.maxStaleness⟩ = a := by
  unfold resolve
  simp only [bind_eq_ok, pure_eq_ok, LeverageKeeper.resolve_eq_ok]

lemma WrittenAssets.Spelled.resolve (h : w.Spelled) : ∃ a, w.resolve = .ok a := by
  obtain ⟨c, hc⟩ := h.collateral.ofText?
  obtain ⟨b, hb⟩ := h.borrow.ofText?
  obtain ⟨cf, hcf⟩ := h.collateralFeed.ofText?
  obtain ⟨bf, hbf⟩ := h.borrowFeed.ofText?
  exact ⟨_, WrittenAssets.resolve_eq_ok.2 ⟨c, hc, b, hb, cf, hcf, bf, hbf, rfl⟩⟩

lemma Address.isZero_iff {a : Address} : a.isZero = true ↔ a = .zero := by
  obtain ⟨bits⟩ := a
  simp [isZero, zero]

/-- Written addresses are allowed just if those that they are resolved to keep the rules. -/
lemma WrittenAssets.Spelled.allowed_iff (h : w.Spelled) (ha : w.resolve = .ok a) :
    w.Allowed ↔ a.violations = [] := by
  obtain ⟨c, hc, b, hb, cf, hcf, bf, hbf, rfl⟩ := WrittenAssets.resolve_eq_ok.1 ha
  rw [Assets.violations_eq_nil]
  simp only [Address.isZero_iff, not_or]
  constructor
  · rintro ⟨-, hne, hcz, hbz, hcfz, hbfz, hcd, hbd, hod, hstale⟩
    rw [hc] at hne hcz
    rw [hb] at hne hbz
    rw [hcf] at hcfz
    rw [hbf] at hbfz
    exact ⟨by simpa using hne, ⟨by simpa using hcz, by simpa using hbz⟩,
      ⟨by simpa using hcfz, by simpa using hbfz⟩, hcd, hbd, hod, UInt64.pos_iff_ne_zero.1 hstale⟩
  · rintro ⟨hne, ⟨hcz, hbz⟩, ⟨hcfz, hbfz⟩, hcd, hbd, hod, hstale⟩
    exact ⟨h, by simpa [hc, hb] using hne, by simpa [hc] using hcz, by simpa [hb] using hbz,
      by simpa [hcf] using hcfz, by simpa [hbf] using hbfz, hcd, hbd, hod,
      UInt64.pos_iff_ne_zero.2 hstale⟩

theorem WrittenAssets.problems_eq_nil : w.problems = [] ↔ w.Allowed := by
  have hspelled : addressProblems "strategy.collateral_asset" w.collateral
      ++ addressProblems "strategy.borrow_asset" w.borrow
      ++ addressProblems "strategy.collateral_price_oracle" w.collateralFeed
      ++ addressProblems "strategy.borrow_price_oracle" w.borrowFeed = [] ↔ w.Spelled := by
    simp only [List.append_eq_nil_iff, addressProblems_eq_nil, and_assoc]
    exact ⟨fun ⟨hc, hb, hcf, hbf⟩ => ⟨hc, hb, hcf, hbf⟩,
      fun ⟨hc, hb, hcf, hbf⟩ => ⟨hc, hb, hcf, hbf⟩⟩
  unfold problems
  dsimp only
  by_cases h : w.Spelled
  · obtain ⟨a, ha⟩ := h.resolve
    rw [if_pos (hspelled.2 h), ha, h.allowed_iff ha]
    exact List.map_eq_nil_iff
  · rw [if_neg (mt hspelled.1 h)]
    exact iff_of_false (mt hspelled.1 h) fun hw => h hw.spelled

end Tokens

/-! ### Settings -/

/-- The band lies above one and around the target, and every rebalance goes some of the way. -/
@[mk_iff]
structure Methodology.Allowed (m : Methodology) : Prop where
  one_lt : 1 < m.least.toRat
  least_le : m.least.toRat ≤ m.target.toRat
  target_le : m.target.toRat ≤ m.most.toRat
  speed_pos : 0 < m.speed.toRat
  speed_le : m.speed.toRat ≤ 1
  interval : 0 < m.interval

@[mk_iff]
structure Execution.Allowed (e : Execution) : Prop where
  unutilized : 0 ≤ e.unutilized.toRat ∧ e.unutilized.toRat < 1
  slippage : 0 ≤ e.slippage.toRat ∧ e.slippage.toRat < 1

/-- An emergency lies beyond the band, and is traded no later and at no better price. -/
@[mk_iff]
structure Incentive.Allowed (i : Incentive) (m : Methodology) (e : Execution) : Prop where
  most_lt : m.most.toRat < i.ratio.toRat
  cooldown : i.cooldown ≤ e.cooldown
  slippage : 0 ≤ i.slippage.toRat ∧ i.slippage.toRat < 1
  slippage_le : e.slippage.toRat ≤ i.slippage.toRat
  reward : 0 ≤ i.reward.toRat

@[mk_iff]
structure Settings.Allowed (s : Settings) : Prop where
  methodology : s.methodology.Allowed
  execution : s.execution.Allowed
  incentive : s.incentive.Allowed s.methodology s.execution

section Settings

theorem Settings.valid_iff_allowed {s : Settings} : s.Valid ↔ s.Allowed := by
  rw [valid_iff, allowed_iff, Methodology.violations_eq_nil, Methodology.allowed_iff,
    Execution.violations_eq_nil, Execution.allowed_iff, Incentive.violations_eq_nil,
    Incentive.allowed_iff]
  simp only [Decimal.isFraction_iff, Decimal.le_iff_toRat, Decimal.lt_iff_toRat,
    Decimal.toRat_zero, Decimal.toRat_one, UInt64.pos_iff_ne_zero]

end Settings

/-! ### Venues -/

/-- A venue has a name to call it by, and a chunk of a size that an emergency does not cut. -/
@[mk_iff]
structure VenueEntry.Allowed (e : VenueEntry) : Prop where
  name : ∃ c ∈ e.name.toList, Text.isBlank c = false
  cap : 0 < e.terms.cap.toRat
  cap_le : e.terms.cap.toRat ≤ e.terms.incentivizedCap.toRat
  fee : e.feeBps < 10000

section Venues

lemma Terms.violations_eq_nil_iff {name : String} {t : Terms} :
    t.violations name = [] ↔
      (∃ c ∈ name.toList, Text.isBlank c = false) ∧ 0 < t.cap.toRat ∧
        t.cap.toRat ≤ t.incentivizedCap.toRat := by
  rw [violations_eq_nil, Decimal.lt_iff_toRat, Decimal.le_iff_toRat, Decimal.toRat_zero]
  unfold Text.isBlankText
  simp only [List.all_eq_false, Bool.not_eq_true]

/-- Venues are allowed one by one, but no name stands twice and none among those seen before. -/
theorem venueProblems_eq_nil {seen : List String} {es : List VenueEntry} :
    venueProblems seen es = [] ↔
      (∀ e ∈ es, e.name ∉ seen ∧ e.Allowed) ∧ es.Pairwise fun d e => d.name ≠ e.name := by
  induction es generalizing seen with
  | nil => simp [venueProblems]
  | cons e es ih =>
    have hone : brokenIf (e.name ∈ seen) (.duplicateVenue e.name)
        ++ (e.terms.violations e.name).map Problem.rule
        ++ brokenIf (10000 ≤ e.feeBps) (.largeFee e.name e.feeBps) = [] ↔
          e.name ∉ seen ∧ e.Allowed := by
      simp only [List.append_eq_nil_iff, brokenIf_eq_nil, List.map_eq_nil_iff,
        Terms.violations_eq_nil_iff, UInt32.not_le, VenueEntry.allowed_iff, and_assoc]
    unfold venueProblems
    rw [List.append_eq_nil_iff, hone, ih]
    simp only [List.mem_cons, not_or, List.pairwise_cons, forall_eq_or_imp]
    constructor
    · rintro ⟨he, hes, hp⟩
      exact ⟨⟨he, fun d hd => ⟨(hes d hd).1.2, (hes d hd).2⟩⟩, fun d hd => Ne.symm (hes d hd).1.1,
        hp⟩
    · rintro ⟨⟨he, hes⟩, hne, hp⟩
      exact ⟨he, fun d hd => ⟨⟨(hne d hd).symm, (hes d hd).1⟩, (hes d hd).2⟩, hp⟩

end Venues

/-! ### How the keeper runs -/

/-- What the numbers of a seed are allowed to be. -/
@[mk_iff]
structure PaperSeed.Sound (p : PaperSeed) : Prop where
  collateral : 0 ≤ p.initialCollateral.toRat
  maxLtv_pos : 0 < p.limits.maxLtv.toRat
  maxLtv_le : p.limits.maxLtv.toRat ≤ p.limits.liquidationThreshold.toRat
  threshold_lt : p.limits.liquidationThreshold.toRat < 1
  collateralPrice : 0 < p.prices.collateral.toRat
  borrowPrice : 0 < p.prices.borrow.toRat
  deposit : 0 ≤ p.rewardDeposit.toRat

/-- Feeds, if there are any, are at a place on the web and renewed before they are stale. -/
@[mk_iff]
structure KeeperOptions.Allowed (k : KeeperOptions) (maxStaleness : UInt64) : Prop where
  keeper : Address.IsText k.keeper
  operator : Address.IsText k.operator
  allowed : ∀ raw ∈ k.allowed, Address.IsText raw
  pollInterval : 0 < k.pollInterval
  feedPollInterval : 0 < k.feedPollInterval
  renewed : k.rpcUrl.isSome → k.feedPollInterval < maxStaleness
  web : ∀ url ∈ k.rpcUrl,
    "http://".toList <+: url.toList ∨ "https://".toList <+: url.toList
  paper : k.paper.Sound

section Options

theorem PaperSeed.problems_eq_nil {p : PaperSeed} : p.problems = [] ↔ p.Sound := by
  rw [sound_iff]
  unfold problems
  simp only [List.append_eq_nil_iff, brokenIf_eq_nil, not_or, Decimal.le_iff_toRat,
    Decimal.lt_iff_toRat, Decimal.toRat_zero, Decimal.toRat_one, not_lt, not_le, and_assoc]
  constructor
  · rintro ⟨hc, hm, -, hl, ht, hpc, hpb, hd⟩
    exact ⟨hc, hm, hl, ht, hpc, hpb, hd⟩
  · rintro ⟨hc, hm, hl, ht, hpc, hpb, hd⟩
    exact ⟨hc, hm, hl.trans_lt ht, hl, ht, hpc, hpb, hd⟩

theorem KeeperOptions.problems_eq_nil {k : KeeperOptions} {maxStaleness : UInt64} :
    k.problems maxStaleness = [] ↔ k.Allowed maxStaleness := by
  have hweb : (k.rpcUrl.toList.filter fun url => !isWebUrl url).map Problem.badUrl = [] ↔
      ∀ url ∈ k.rpcUrl, "http://".toList <+: url.toList ∨ "https://".toList <+: url.toList := by
    unfold isWebUrl
    simp only [List.map_eq_nil_iff, List.filter_eq_nil_iff, Option.mem_toList, Option.mem_def,
      Bool.not_eq_true', decide_eq_false_iff_not, not_not]
  rw [allowed_iff]
  unfold problems
  simp only [List.append_eq_nil_iff, brokenIf_eq_nil, addressProblems_eq_nil,
    List.flatMap_eq_nil_iff, not_and, UInt64.not_le, UInt64.pos_iff_ne_zero, hweb,
    PaperSeed.problems_eq_nil, and_assoc, ne_eq]

end Options

/-! ### The whole -/

/-- Nothing is wrong with the configuration. -/
@[mk_iff]
structure Config.Allowed (c : Config) : Prop where
  assets : c.assets.Allowed
  settings : c.settings.Allowed
  venues : c.venues ≠ []
  entries : ∀ e ∈ c.venues, e.Allowed
  distinct : c.venues.Pairwise fun d e => d.name ≠ e.name
  options : c.options.Allowed c.assets.maxStaleness

/-- **A configuration has no problem just if it is allowed.** -/
theorem Config.problems_eq_nil {c : Config} : c.problems = [] ↔ c.Allowed := by
  rw [allowed_iff]
  unfold problems
  simp only [List.append_eq_nil_iff, brokenIf_eq_nil, List.map_eq_nil_iff,
    WrittenAssets.problems_eq_nil, venueProblems_eq_nil, KeeperOptions.problems_eq_nil, and_assoc,
    ← Settings.valid_iff_allowed, List.not_mem_nil, not_false_eq_true, true_and, ne_eq]
  rfl

instance {c : Config} : Decidable c.Allowed := decidable_of_iff _ Config.problems_eq_nil

end LeverageKeeper
