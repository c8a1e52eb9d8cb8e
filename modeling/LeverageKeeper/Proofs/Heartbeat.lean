import LeverageKeeper.Keeper.Session
import LeverageKeeper.Proofs.Boot
import LeverageKeeper.Proofs.Feeds

/-!
# Prices on paper

A fund that is started without a place on the web has its feeds seeded once, and from then on a
heartbeat gives both readings a new time.  Nothing that the fund does itself reaches the feeds, so
its prices are those of the seed, cut to the decimals of the feeds, for as long as the last stamp
counts.

The stamp is followed along a run of the fund (`Watched`).  One moment of the run keeps the readings
as they were seeded, under the stamp (`Holds.next`), and so does a whole run (`Holds.after`).
Between appointments a session of the keeper is such a run (`upTo_watched`).
-/

namespace LeverageKeeper

open Decimal (bound maxScale limit)

/-! ### What leaves the feeds alone -/

namespace Fund

/-- The same assets, feeds and clock. -/
structure SameOutside (f g : Fund) : Prop where
  assets : g.assets = f.assets
  feeds : g.feeds = f.feeds
  now : g.now = f.now

section SameOutside

variable {f g : Fund} {c : Call}

lemma sameOutside_afterFailure (e : Failure) : f.SameOutside (f.afterFailure e) := by
  cases e <;> exact ⟨rfl, rfl, rfl⟩

lemma SameOutside.payBounty (h : f.SameOutside g) (payee : Address) :
    f.SameOutside (g.payBounty payee).1 := by
  rcases payBounty_cases g payee with he | ⟨l, -, -, he⟩
  · rw [he]
    exact h
  · rw [he]
    exact ⟨h.assets, h.feeds, h.now⟩

lemma sameOutside_finish (t : Trade) (l : Ledger) (r : Report) :
    f.SameOutside ((f.settled t l).finish t r c).1 := by
  cases c with
  | ripcord caller venue =>
    have h : f.SameOutside ((f.settled t l).withTwap .idle) := ⟨rfl, rfl, rfl⟩
    exact h.payBounty caller
  | _ => exact ⟨rfl, rfl, rfl⟩

/-- **A call reaches neither the feeds nor the clock.** -/
theorem sameOutside_call (f : Fund) (c : Call) : f.SameOutside (f.call c).1 := by
  rcases call_cases f c with ⟨e, he⟩ | ⟨t, x, l, ho⟩ | ⟨t, x, l, r, hx⟩ | ⟨g, a, hg, he⟩
  · rw [he]
    exact sameOutside_afterFailure e
  · rw [ho.call_eq]
    exact ⟨rfl, rfl, rfl⟩
  · rw [hx.call_eq]
    exact sameOutside_finish t l r
  · rw [he]
    cases hg <;> exact ⟨rfl, rfl, rfl⟩

end SameOutside

end Fund

/-- The step is nobody's word to a feed. -/
def Step.SparesFeeds : Step → Prop
  | .event (.setPrice ..) | .event (.setReading ..) | .event (.touch ..) => False
  | _ => True

/-- A step that spares the feeds may still move the clock. -/
theorem Fund.step_spares {f : Fund} {s : Step} (h : s.SparesFeeds) :
    (f.step s).1.assets = f.assets ∧ (f.step s).1.feeds = f.feeds := by
  cases hc : f.callOf? s with
  | some c =>
    have hsame := f.sameOutside_call c
    rw [step_of_callOf? hc]
    exact ⟨hsame.assets, hsame.feeds⟩
  | none =>
    -- no call is made: an event, a question, or a look that comes to nothing
    rcases idle_cases hc with ⟨e, rfl⟩ | he | ⟨e, he⟩
    · cases e with
      | setPrice feed price time => exact h.elim
      | setReading feed reading => exact h.elim
      | touch feed time => exact h.elim
      | deposit amount =>
        change (f.around _).1.assets = _ ∧ (f.around _).1.feeds = _
        rcases around_cases f ((f.ledger.deposit amount).map fun ledger => { f with ledger })
          with he | he
        · rw [he]
          exact ⟨rfl, rfl⟩
        · obtain ⟨l, -, he⟩ := map_eq_ok.1 he
          rw [← he]
          exact ⟨rfl, rfl⟩
      | _ => exact ⟨rfl, rfl⟩
    · rw [he]
      exact ⟨rfl, rfl⟩
    · rw [he]
      have hsame := sameOutside_afterFailure (f := f) e
      exact ⟨hsame.assets, hsame.feeds⟩

/-! ### Readings under a stamp -/

namespace Feeds

variable {f : Feeds} {a : Assets} {x y : ℤ} {time : UInt64}

/-- Both feeds hold the given answers, stamped with the time. -/
structure Stamped (f : Feeds) (a : Assets) (x y : ℤ) (time : UInt64) : Prop where
  collateral : f.get? a.collateralFeed = some ⟨x, a.oracleDecimals, time⟩
  borrow : f.get? a.borrowFeed = some ⟨y, a.oracleDecimals, time⟩

/-- A heartbeat gives both readings a new stamp. -/
lemma Stamped.touch (h : f.Stamped a x y time) (now : UInt64) :
    ((f.touch a.collateralFeed now).1.touch a.borrowFeed now).1.Stamped a x y now := by
  constructor
  · simp [get?_touch, h.collateral]
  · simp only [get?_touch, h.borrow, Option.map_some, if_true]
    split <;> rfl

/-- Positive answers in range are the prices, while their stamp counts. -/
lemma Stamped.prices_of_fresh {now : UInt64} (h : f.Stamped a x y time)
    (hd : a.oracleDecimals ≤ maxScale) (hx : 0 < x ∧ x.natAbs < bound)
    (hy : 0 < y ∧ y.natAbs < bound) (hfresh : now.toNat - time.toNat ≤ a.maxStaleness.toNat) :
    ∃ p, f.prices a now = .ok p ∧ p.collateral.toRat = x / 10 ^ a.oracleDecimals ∧
      p.borrow.toRat = y / 10 ^ a.oracleDecimals := by
  have valid : ∀ z : ℤ, 0 < z ∧ z.natAbs < bound →
      (⟨z, a.oracleDecimals, time⟩ : Reading).Valid now a.maxStaleness := by
    intro z hz
    obtain ⟨hpos, hlt⟩ := hz
    unfold bound at hlt
    exact ⟨hpos, by dsimp only; omega, hd, hfresh⟩
  obtain ⟨p, hp⟩ := exists_prices_iff.2
    ⟨⟨_, h.collateral, valid x hx⟩, ⟨_, h.borrow, valid y hy⟩⟩
  obtain ⟨⟨r, hr, -, hc⟩, ⟨r', hr', -, hb⟩⟩ := prices_eq_ok hp
  obtain rfl := Option.some.inj (h.collateral.symm.trans hr)
  obtain rfl := Option.some.inj (h.borrow.symm.trans hr')
  exact ⟨p, hp, hc, hb⟩

/-- Once the stamp no longer counts there are no prices. -/
lemma Stamped.prices_of_stale {now : UInt64} (h : f.Stamped a x y time)
    (hstale : a.maxStaleness.toNat < now.toNat - time.toNat) :
    f.prices a now = .error (.oracleStale a.collateralFeed (Cooldown.since time now)
      a.maxStaleness) := by
  unfold prices
  rw [latest_eq_ok.2 h.collateral, ok_bind, Reading.price_of_stale hstale]
  rfl

end Feeds

/-! ### The seed -/

/-- The whole number of units that the feeds of the assets publish for a price. -/
def Assets.answer (a : Assets) (price : Decimal) : ℕ := ⌊price.toRat * 10 ^ a.oracleDecimals⌋₊

/-- The feeds are seeded with the prices, each cut to the feeds' decimals.  One feed for both
tokens has room for one of the two answers. -/
lemma Config.seedFeeds_eq_ok {p : PaperSeed} {a : Assets} {now : UInt64} {feeds : Feeds}
    (h : seedFeeds p a now = .ok feeds) (hp : p.Sound) (hd : a.oracleDecimals ≤ maxScale)
    (hshared : a.collateralFeed = a.borrowFeed →
      a.answer p.prices.collateral = a.answer p.prices.borrow) :
    feeds.Stamped a (a.answer p.prices.collateral) (a.answer p.prices.borrow) now ∧
      a.answer p.prices.collateral < bound ∧ a.answer p.prices.borrow < bound := by
  unfold seedFeeds at h
  obtain ⟨first, hfirst, h⟩ := bind_eq_ok.1 h
  obtain ⟨n, hn, rfl⟩ := Feeds.setPrice_eq_ok hfirst
  obtain ⟨m, hm, rfl⟩ := Feeds.setPrice_eq_ok h
  obtain ⟨rfl, hlt⟩ := Decimal.toAnswer?_eq_some hn hp.collateralPrice
  obtain ⟨rfl, hlt'⟩ := Decimal.toAnswer?_eq_some hm hp.borrowPrice
  rw [show Nat.min a.oracleDecimals maxScale = a.oracleDecimals from Nat.min_eq_left hd] at *
  refine ⟨⟨?_, Feeds.get?_set_self _ _ _⟩, hlt, hlt'⟩
  -- the second price replaces the first where one feed serves both tokens
  by_cases he : a.collateralFeed = a.borrowFeed
  · rw [he, Feeds.get?_set_self, hshared he]
    rfl
  · rw [Feeds.get?_set_of_ne _ _ he, Feeds.get?_set_self]
    rfl

/-! ### A run with a heartbeat -/

/-- What happens in a run: a step of the fund, or a heartbeat. -/
inductive Moment where
  | step (s : Step)
  | beat

def Moment.SparesFeeds : Moment → Prop
  | .step s => s.SparesFeeds
  | .beat => True

/-- A fund and what its clock read when its feeds were last stamped. -/
structure Watched where
  fund : Fund
  stamp : UInt64

namespace Watched

def next (w : Watched) : Moment → Watched
  | .step s => ⟨(w.fund.step s).1, w.stamp⟩
  | .beat => ⟨Keeper.Session.renew w.fund, w.fund.now⟩

def after (w : Watched) (ms : List Moment) : Watched := ms.foldl next w

/-- Seconds since the last stamp. -/
def age (w : Watched) : ℕ := w.fund.now.toNat - w.stamp.toNat

/-- The heartbeat is never late: no moment finds the stamp older than `interval` seconds. -/
def OnTime (interval : UInt64) (w : Watched) : List Moment → Prop
  | [] => w.age ≤ interval.toNat
  | m :: ms => w.age ≤ interval.toNat ∧ OnTime interval (w.next m) ms

/-- The feeds say what they were seeded with, under the stamp. -/
structure Holds (w : Watched) (a : Assets) (x y : ℤ) : Prop where
  assets : w.fund.assets = a
  stamped : w.fund.feeds.Stamped a x y w.stamp

section Run

variable {w : Watched} {a : Assets} {x y : ℤ} {interval : UInt64}

/-- One moment. -/
lemma Holds.next (h : w.Holds a x y) {m : Moment} (hm : m.SparesFeeds) :
    (w.next m).Holds a x y := by
  cases m with
  | step s =>
    obtain ⟨ha, hf⟩ := Fund.step_spares (f := w.fund) hm
    refine ⟨ha.trans h.assets, ?_⟩
    show ((w.fund.step s).1.feeds).Stamped a x y w.stamp
    rw [hf]
    exact h.stamped
  | beat =>
    refine ⟨h.assets, ?_⟩
    show ((w.fund.feeds.touch w.fund.assets.collateralFeed w.fund.now).1.touch
      w.fund.assets.borrowFeed w.fund.now).1.Stamped a x y w.fund.now
    rw [h.assets]
    exact h.stamped.touch w.fund.now

/-- **A whole run** leaves the feeds at what they were seeded with. -/
theorem Holds.after (h : w.Holds a x y) {ms : List Moment} (hms : ∀ m ∈ ms, m.SparesFeeds) :
    (w.after ms).Holds a x y := by
  induction ms generalizing w with
  | nil => exact h
  | cons m ms ih =>
    exact ih (h.next (hms m List.mem_cons_self)) fun m hm => hms m (List.mem_cons_of_mem _ hm)

lemma OnTime.age_le {ms : List Moment} (h : w.OnTime interval ms) :
    (w.after ms).age ≤ interval.toNat := by
  induction ms generalizing w with
  | nil => exact h
  | cons m ms ih => exact ih h.2

end Run

instance decidableOnTime (interval : UInt64) (w : Watched) (ms : List Moment) :
    Decidable (w.OnTime interval ms) :=
  match ms with
  | [] => inferInstanceAs (Decidable (w.age ≤ interval.toNat))
  | m :: ms =>
    have := decidableOnTime interval (w.next m) ms
    inferInstanceAs (Decidable (w.age ≤ interval.toNat ∧ OnTime interval (w.next m) ms))

end Watched

/-! ### Sessions of the keeper -/

namespace Keeper.Session

variable {s : Setup}

lemma look_fund (w : Session) : (w.look s).fund = (w.fund.step (.tick s.keeper)).1 := by
  show _ = (Keeper.tick w.fund s.keeper).1
  unfold look
  dsimp only
  split <;> rfl

lemma catchUp_watched (time fuel : ℕ) (w : Session) (t : UInt64) :
    ∃ ms : List Moment, (∀ m ∈ ms, m = .beat ∨ m = .step (.tick s.keeper)) ∧
      (Watched.after ⟨w.fund, t⟩ ms).fund = (catchUp s time fuel w).fund := by
  induction fuel generalizing w t with
  | zero => exact ⟨[], by simp, rfl⟩
  | succ fuel ih =>
    unfold catchUp
    split
    next =>
      obtain ⟨ms, hms, he⟩ := ih (w.beat s) w.fund.now
      exact ⟨.beat :: ms, List.forall_mem_cons.2 ⟨.inl rfl, hms⟩, he⟩
    next =>
      split
      next =>
        obtain ⟨ms, hms, he⟩ := ih (w.look s) t
        refine ⟨.step (.tick s.keeper) :: ms, List.forall_mem_cons.2 ⟨.inr rfl, hms⟩, ?_⟩
        rw [look_fund] at he
        exact he
      next => exact ⟨[], by simp, rfl⟩

/-- **What a session does to its fund is a run** of looks and heartbeats, whenever the feeds were
last stamped. -/
theorem upTo_watched (w : Session) (s : Setup) (time : ℕ) (t : UInt64) :
    ∃ ms : List Moment, (∀ m ∈ ms, m = .beat ∨ m = .step (.tick s.keeper)) ∧
      (Watched.after ⟨w.fund, t⟩ ms).fund = (w.upTo s time).fund :=
  catchUp_watched time _ w t

/-- Between appointments a session leaves the answers of the feeds alone. -/
theorem upTo_holds {w : Session} {t : UInt64} {a : Assets} {x y : ℤ}
    (h : Watched.Holds ⟨w.fund, t⟩ a x y) (s : Setup) (time : ℕ) :
    ∃ t', Watched.Holds ⟨(w.upTo s time).fund, t'⟩ a x y := by
  obtain ⟨ms, hms, he⟩ := w.upTo_watched s time t
  have hspares : ∀ m ∈ ms, m.SparesFeeds := by
    intro m hm
    rcases hms m hm with rfl | rfl <;> trivial
  have hafter := h.after hspares
  refine ⟨(Watched.after ⟨w.fund, t⟩ ms).stamp, ?_⟩
  rw [← he]
  exact hafter

end Keeper.Session

/-- Whatever comes of the appointment, nobody speaks to a feed. -/
def Keeper.Appointment.SparesFeeds {α : Type} (q : Keeper.Appointment α) : Prop :=
  ∀ f, (q.action f).1.assets = f.assets ∧ (q.action f).1.feeds = f.feeds

section Session

open Keeper (Setup Session Appointment)

variable {α : Type} {a : Assets} {x y : ℤ}

/-- Nor do appointments that spare the feeds. -/
lemma Keeper.Session.keep_holds {w : Session} {t : UInt64} (h : Watched.Holds ⟨w.fund, t⟩ a x y)
    (s : Setup) {qs : List (Appointment α)} (hqs : ∀ q ∈ qs, q.SparesFeeds) :
    ∃ t', Watched.Holds ⟨(w.keep s qs).1.fund, t'⟩ a x y := by
  induction qs generalizing w t with
  | nil => exact ⟨t, h⟩
  | cons q qs ih =>
    obtain ⟨hq, hqs⟩ := List.forall_mem_cons.1 hqs
    obtain ⟨t', hw⟩ := upTo_holds h s q.time
    obtain ⟨hassets, hfeeds⟩ := hq (w.upTo s q.time).fund
    refine ih (t := t') ⟨hassets.trans hw.assets, ?_⟩ hqs
    show ((q.action (w.upTo s q.time).fund).1.feeds).Stamped a x y t'
    rw [hfeeds]
    exact hw.stamped

/-- **A whole session** leaves the answers of the feeds alone. -/
theorem Keeper.Setup.session_holds {f : Fund} {t : UInt64} (h : Watched.Holds ⟨f, t⟩ a x y)
    (s : Setup) {qs : List (Appointment α)} (hqs : ∀ q ∈ qs, q.SparesFeeds) (stop : ℕ) :
    ∃ t', Watched.Holds ⟨(s.session f qs stop).1.fund, t'⟩ a x y := by
  obtain ⟨_, hkept⟩ := Session.keep_holds (w := s.start f) h s hqs
  exact Session.upTo_holds hkept s stop

end Session

/-! ### From the start on -/

/-- The fund reads the prices of the seed, each cut to the decimals of the feeds, and so does every
venue that trades on paper. -/
def Fund.ReadsSeed (f : Fund) (c : Config) (a : Assets) : Prop :=
  ∃ p, f.feeds.prices f.assets f.now = .ok p ∧
    p.collateral.toRat = a.answer c.options.paper.prices.collateral / 10 ^ a.oracleDecimals ∧
    p.borrow.toRat = a.answer c.options.paper.prices.borrow / 10 ^ a.oracleDecimals ∧
    ∀ name, Venue.spot name f.feeds a.collateralFeed = .ok p.collateral ∧
      Venue.spot name f.feeds a.borrowFeed = .ok p.borrow

section Reading

variable {w : Watched} {c : Config} {a : Assets}

/-- Feeds that hold the seed are read while their stamp counts. -/
lemma Watched.Holds.readsSeed
    (h : w.Holds a (a.answer c.options.paper.prices.collateral)
      (a.answer c.options.paper.prices.borrow))
    (hd : a.oracleDecimals ≤ maxScale)
    (hc : 0 < a.answer c.options.paper.prices.collateral ∧
      a.answer c.options.paper.prices.collateral < bound)
    (hb : 0 < a.answer c.options.paper.prices.borrow ∧
      a.answer c.options.paper.prices.borrow < bound)
    (hage : w.age ≤ a.maxStaleness.toNat) : w.fund.ReadsSeed c a := by
  obtain ⟨p, hp, hpc, hpb⟩ := h.stamped.prices_of_fresh hd
    ⟨Int.natCast_pos.2 hc.1, hc.2⟩ ⟨Int.natCast_pos.2 hb.1, hb.2⟩ hage
  rw [Int.cast_natCast] at hpc hpb
  refine ⟨p, ?_, hpc, hpb, fun name => Venue.spot_of_prices name hp⟩
  rw [h.assets]
  exact hp

/-- After that nothing is read from them. -/
lemma Watched.Holds.prices_of_stale {x y : ℤ} (h : w.Holds a x y)
    (hage : a.maxStaleness.toNat < w.age) :
    w.fund.feeds.prices w.fund.assets w.fund.now = .error (.oracleStale a.collateralFeed
      (Cooldown.since w.stamp w.fund.now) a.maxStaleness) := by
  rw [h.assets]
  exact h.stamped.prices_of_stale hage

end Reading

namespace Config

section Start

variable {c : Config} {a : Assets} {f : Fund} {start : UInt64} {r : Running}

lemma engageFirst_sameOutside {operator : Address} {g : Fund}
    (h : c.engageFirst operator f = .ok g) : f.SameOutside g := by
  unfold engageFirst at h
  split at h
  next e es _ _ =>
    have hsame : f.SameOutside (f.engage operator e.name).1 :=
      f.sameOutside_call (.engage operator e.name)
    split at h
    next => cases h
    next he =>
      cases h
      rw [he] at hsame
      exact hsame
  next =>
    cases h
    exact ⟨rfl, rfl, rfl⟩

/-- A start leaves the seed in the feeds, stamped with the time of the start. -/
lemma boot_holds (hs : c.Sound) (ha : c.assets.resolve = .ok a) (hboot : c.boot start = .ok r)
    (hshared : a.collateralFeed = a.borrowFeed →
      a.answer c.options.paper.prices.collateral = a.answer c.options.paper.prices.borrow) :
    Watched.Holds ⟨r.fund, start⟩ a (a.answer c.options.paper.prices.collateral)
        (a.answer c.options.paper.prices.borrow) ∧
      a.answer c.options.paper.prices.collateral < bound ∧
      a.answer c.options.paper.prices.borrow < bound := by
  obtain ⟨a', keeper, operator, allowed, hr⟩ := hs.resolves
  obtain rfl : a' = a := Except.ok.inj (hr.assets.symm.trans ha)
  obtain ⟨-, -, -, -, -, hd, -⟩ := Assets.violations_eq_nil.1 hr.rules
  rcases boot_cases hs hr start with ⟨e, he, -⟩ | ⟨f, r', hr', hopen, -, hfirst, -⟩
  · rw [he] at hboot
    cases hboot
  · obtain rfl : r' = r := Except.ok.inj (hr'.symm.trans hboot)
    obtain ⟨-, -, hopens, hseed, -⟩ := openAt_eq_ok hs hr hopen
    obtain ⟨hstamped, hlt, hlt'⟩ := seedFeeds_eq_ok hseed hs.options.paper hd hshared
    -- the first trade comes after the seed and reaches no feed
    have hsame := engageFirst_sameOutside hfirst
    refine ⟨⟨hsame.assets.trans hopens.assets, ?_⟩, hlt, hlt'⟩
    show r'.fund.feeds.Stamped _ _ _ start
    rw [hsame.feeds]
    exact hstamped

end Start

/-- **On paper the prices of the seed stand while the heartbeat is on time.**  A configuration
without a place on the web takes its prices from the heartbeat.  If both prices of the seed are
something in the decimals of the feeds, and the same when one feed serves both tokens, then at every
moment of every run the fund reads just these prices, cut to those decimals, as long as the last
stamp counts; after that it is refused as stale.  So the prices are always there if stamps count for
as long as the heartbeat takes. -/
theorem paper_prices_stand {file : String → Option String} {v : Variables} {c : Config}
    {start : UInt64} {r : Running} (h : load file v = .ok c) (hpaper : c.options.rpcUrl = none)
    (hboot : c.boot start = .ok r) :
    ∃ a, c.assets.resolve = .ok a ∧
      c.feedSource = .ok (.paper c.options.feedPollInterval) ∧
      ((a.collateralFeed = a.borrowFeed →
          a.answer c.options.paper.prices.collateral = a.answer c.options.paper.prices.borrow) →
        0 < a.answer c.options.paper.prices.collateral →
        0 < a.answer c.options.paper.prices.borrow →
        ∀ ms : List Moment, (∀ m ∈ ms, m.SparesFeeds) →
          let w := Watched.after ⟨r.fund, start⟩ ms
          (w.age ≤ a.maxStaleness.toNat → w.fund.ReadsSeed c a) ∧
          (a.maxStaleness.toNat < w.age →
            w.fund.feeds.prices w.fund.assets w.fund.now = .error (.oracleStale a.collateralFeed
              (Cooldown.since w.stamp w.fund.now) a.maxStaleness)) ∧
          (c.options.feedPollInterval ≤ a.maxStaleness →
            Watched.OnTime c.options.feedPollInterval ⟨r.fund, start⟩ ms →
            w.fund.ReadsSeed c a)) := by
  have hs := sound_of_load h
  obtain ⟨a, ha, hrules⟩ := hs.assets
  obtain ⟨-, -, -, -, -, hd, -⟩ := Assets.violations_eq_nil.1 hrules
  refine ⟨a, ha, ?_, fun hshared hc hb ms hms => ?_⟩
  · unfold feedSource
    rw [hpaper]
  intro w
  obtain ⟨hstart, hlt, hlt'⟩ := boot_holds hs ha hboot hshared
  have hw := hstart.after hms
  have hfresh : w.age ≤ a.maxStaleness.toNat → w.fund.ReadsSeed c a :=
    hw.readsSeed hd ⟨hc, hlt⟩ ⟨hb, hlt'⟩
  exact ⟨hfresh, hw.prices_of_stale,
    fun hle htime => hfresh (htime.age_le.trans (UInt64.le_iff_toNat_le.1 hle))⟩

/-- **In a session on paper the fund reads the seed or is refused as stale.**  It does so after any
looks and heartbeats, at whatever intervals, and after any appointments that spare the feeds. -/
theorem session_prices {file : String → Option String} {v : Variables} {c : Config} {a : Assets}
    {start : UInt64} {r : Running} (h : load file v = .ok c) (hboot : c.boot start = .ok r)
    (ha : c.assets.resolve = .ok a)
    (hshared : a.collateralFeed = a.borrowFeed →
      a.answer c.options.paper.prices.collateral = a.answer c.options.paper.prices.borrow)
    (hc : 0 < a.answer c.options.paper.prices.collateral)
    (hb : 0 < a.answer c.options.paper.prices.borrow) (s : Keeper.Setup) {α : Type}
    {qs : List (Keeper.Appointment α)} (hqs : ∀ q ∈ qs, q.SparesFeeds) (stop : ℕ) :
    let f := (s.session r.fund qs stop).1.fund
    f.ReadsSeed c a ∨
      ∃ age, f.feeds.prices f.assets f.now
        = .error (.oracleStale a.collateralFeed age a.maxStaleness) := by
  intro f
  have hs := sound_of_load h
  obtain ⟨a', ha', hrules⟩ := hs.assets
  obtain rfl : a' = a := Except.ok.inj (ha'.symm.trans ha)
  obtain ⟨-, -, -, -, -, hd, -⟩ := Assets.violations_eq_nil.1 hrules
  obtain ⟨hstart, hlt, hlt'⟩ := boot_holds hs ha hboot hshared
  obtain ⟨t, hw⟩ := s.session_holds hstart hqs stop
  rcases Nat.lt_or_ge a'.maxStaleness.toNat (Watched.age ⟨f, t⟩) with hstale | hfresh
  · exact .inr ⟨_, hw.prices_of_stale hstale⟩
  · exact .inl (hw.readsSeed hd ⟨hc, hlt⟩ ⟨hb, hlt'⟩ hfresh)

/-! ### Runs at hand -/

/-- Whatever happens from a start on, the prices of the seed are read while the heartbeat is on
time. -/
def Steadfast (c : Config) : Prop :=
  ∀ start r a (ms : List Moment), c.boot start = .ok r → c.assets.resolve = .ok a →
    (∀ m ∈ ms, m.SparesFeeds) →
    Watched.OnTime c.options.feedPollInterval ⟨r.fund, start⟩ ms →
    (Watched.after ⟨r.fund, start⟩ ms).fund.ReadsSeed c a

open Fund.Trial (number)

namespace Trial

/-- Whether the heartbeat is on time in a run from second 1000 on, and the prices at its end. -/
def outcome (c : Config) (ms : List Moment) : Option (Bool × Option Prices) :=
  (c.boot 1000).toOption.map fun r =>
    let w := Watched.after ⟨r.fund, 1000⟩ ms
    (decide (Watched.OnTime c.options.feedPollInterval ⟨r.fund, 1000⟩ ms),
      (w.fund.feeds.prices w.fund.assets w.fund.now).toOption)

/-- The feeds are stamped every two hours, but a stamp counts for one. -/
def slow : Config := config 7200

/-- Both tokens have the same feed, at two prices. -/
def shared : Config := quoting 10 2 '3' ⟨number 2 0, Decimal.one⟩

/-- The borrowed token costs a hundredth, and feeds speak in tenths. -/
def tiny : Config := quoting 10 1 '4' ⟨Decimal.one, number 1 2⟩

/-- A heartbeat on time, a trade, and ten seconds more. -/
def history : List Moment :=
  [.step (.event (.advance 9)), .beat,
    .step (.call (.engage ⟨0x9999999999999999999999999999999999999999⟩ "dex")),
    .step (.event (.advance 10))]

section Outcome

variable {c : Config} {ms : List Moment} {b : Bool} {q : Option Prices}

lemma outcome_eq_some (h : outcome c ms = some (b, q)) :
    ∃ r, c.boot 1000 = .ok r ∧
      (Watched.OnTime c.options.feedPollInterval ⟨r.fund, 1000⟩ ms ↔ b = true) ∧
      ((Watched.after ⟨r.fund, 1000⟩ ms).fund.feeds.prices
        (Watched.after ⟨r.fund, 1000⟩ ms).fund.assets
        (Watched.after ⟨r.fund, 1000⟩ ms).fund.now).toOption = q := by
  obtain ⟨r, hr, he⟩ := Option.map_eq_some_iff.1 h
  obtain ⟨rfl, rfl⟩ := Prod.mk.inj he
  exact ⟨r, toOption_eq_some.1 hr, decide_eq_true_iff.symm, rfl⟩

/-- A run on time that ends in other prices, or in none, speaks against the configuration. -/
lemma not_steadfast (ha : ∃ a, c.assets.resolve = .ok a) (hms : ∀ m ∈ ms, m.SparesFeeds)
    (h : outcome c ms = some (true, q))
    (hq : ∀ a p, c.assets.resolve = .ok a → q = some p →
      p.collateral.toRat ≠ a.answer c.options.paper.prices.collateral / 10 ^ a.oracleDecimals) :
    ¬ c.Steadfast := by
  intro hsteady
  obtain ⟨a, ha⟩ := ha
  obtain ⟨r, hboot, htime, hprices⟩ := outcome_eq_some h
  obtain ⟨p, hp, hvalue, -⟩ := hsteady 1000 r a ms hboot ha hms (htime.2 rfl)
  rw [hp] at hprices
  exact hq a p ha hprices.symm hvalue

end Outcome

end Trial

open Trial

/-- **Three ways in which the prices of the seed are not there.**  A heartbeat that takes longer
than stamps count lets them grow stale; two prices in one feed leave the second of them; a price
below one unit of its feed is none. -/
theorem paper_prices_fall :
    (load slow.file {} = .ok slow ∧ slow.options.rpcUrl = none ∧ ¬ slow.Steadfast) ∧
      (load shared.file {} = .ok shared ∧ shared.options.rpcUrl = none ∧ ¬ shared.Steadfast) ∧
      (load tiny.file {} = .ok tiny ∧ tiny.options.rpcUrl = none ∧ ¬ tiny.Steadfast) := by
  have hslow : load slow.file {} = .ok slow :=
    load_quoting (by decide +kernel) (by decide +kernel) (by decide +kernel)
  have hshared : load shared.file {} = .ok shared :=
    load_quoting (by decide +kernel) (by decide +kernel) (by decide +kernel)
  have htiny : load tiny.file {} = .ok tiny :=
    load_quoting (by decide +kernel) (by decide +kernel) (by decide +kernel)
  have hresolve : ∀ {c : Config}, load c.file {} = .ok c → ∃ a, c.assets.resolve = .ok a := by
    intro c h
    obtain ⟨a, ha, -⟩ := (sound_of_load h).assets
    exact ⟨a, ha⟩
  refine ⟨⟨hslow, rfl, ?_⟩, ⟨hshared, rfl, ?_⟩, ⟨htiny, rfl, ?_⟩⟩
  · have hrun : outcome slow [.step (.event (.advance 3601))] = some (true, none) := by
      decide +kernel
    exact not_steadfast (hresolve hslow) (by simp [Moment.SparesFeeds, Step.SparesFeeds]) hrun
      fun a p _ hp => by cases hp
  · have hrun : outcome shared [] = some (true, some ⟨number 100 2, number 100 2⟩) := by
      decide +kernel
    refine not_steadfast (hresolve hshared) (by simp) hrun fun a p ha hp => ?_
    cases hp
    have hd : a.oracleDecimals = 2 := (WrittenAssets.resolve_numbers ha).2.2.1
    unfold Assets.answer
    rw [hd]
    decide +kernel
  · have hrun : outcome tiny [] = some (true, none) := by decide +kernel
    exact not_steadfast (hresolve htiny) (by simp) hrun fun a p _ hp => by cases hp

/-- A start followed by a heartbeat, the operator's first trade and ten seconds more: all on time,
and the seed of one unit each is still read. -/
theorem paper_prices_stand_trial :
    load (config 10).file {} = .ok (config 10) ∧ (config 10).options.rpcUrl = none ∧
      ∃ r a, (config 10).boot 1000 = .ok r ∧ (config 10).assets.resolve = .ok a ∧
        Watched.OnTime 10 ⟨r.fund, 1000⟩ history ∧
        (Watched.after ⟨r.fund, 1000⟩ history).fund.ReadsSeed (config 10) a := by
  have hrun : outcome (config 10) history = some (true, some ⟨number 100 2, number 100 2⟩) := by
    decide +kernel
  obtain ⟨r, hboot, htime, -⟩ := outcome_eq_some hrun
  have htime := htime.2 rfl
  obtain ⟨a, ha, -, hread⟩ := paper_prices_stand load_config rfl hboot
  obtain ⟨-, -, hd, hstale⟩ := WrittenAssets.resolve_numbers ha
  have hone : 0 < a.answer Decimal.one := by
    unfold Assets.answer
    rw [show a.oracleDecimals = 2 from hd]
    decide +kernel
  have hspares : ∀ m ∈ history, m.SparesFeeds := by
    simp [history, Moment.SparesFeeds, Step.SparesFeeds]
  refine ⟨load_config, rfl, r, a, hboot, ha, htime, ?_⟩
  refine (hread (fun _ => rfl) hone hone history hspares).2.2 ?_ htime
  rw [show a.maxStaleness = 3600 from hstale]
  show (10 : UInt64) ≤ 3600
  decide

end Config

end LeverageKeeper
