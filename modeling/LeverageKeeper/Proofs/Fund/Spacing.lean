import LeverageKeeper.Proofs.Fund.Reachable

/-!
How far apart in time chunks are.  Every executed chunk stamps its venue and the fund with the time;
the stamp of a venue never goes back while the venue stays registered, whatever the clock does, and
the calls of a keeper look at the stamps first.  The waits that they demand end at the last moment
of the clock at the latest, so at that moment, and only then, a chunk may follow another too soon.
-/

namespace LeverageKeeper.Fund

/-! ### Executed chunks -/

/-- The chunk that a step executes, if it executes one. -/
def chunk? (f : Fund) (s : Step) : Option Report :=
  (f.callOf? s).bind fun c => (f.call c).2.toOption.bind reportOf?

/-- The chunks that a history executes, in their order. -/
def chunks (f : Fund) : List Step → List Report
  | [] => []
  | s :: ss => (f.chunk? s).toList ++ (f.step s).1.chunks ss

/-- Something holds before, between and after the steps of a history. -/
def Throughout (p : Fund → Prop) (f : Fund) (ss : List Step) : Prop :=
  ∀ n ≤ ss.length, p (f.after (ss.take n))

instance (p : Fund → Prop) [DecidablePred p] (f : Fund) (ss : List Step) :
    Decidable (Throughout p f ss) := by
  unfold Throughout
  infer_instance

/-- The time of the last trade on a registered venue. -/
def lastTradeOn (f : Fund) (venue : String) : Option UInt64 :=
  (f.strategy.venues.find? venue).map (·.terms.lastTrade)

/-- The venue is registered. -/
def Lists (f : Fund) (venue : String) : Prop := (f.strategy.venues.find? venue).isSome = true

instance (f : Fund) (venue : String) : Decidable (f.Lists venue) := by
  unfold Lists
  infer_instance

section

variable {f g : Fund} {s : Step} {ss : List Step} {venue : String} {r : Report}

lemma throughout_cons {p : Fund → Prop} :
    Throughout p f (s :: ss) ↔ p f ∧ Throughout p (f.step s).1 ss := by
  unfold Throughout
  constructor
  · intro h
    exact ⟨h 0 (Nat.zero_le _), fun n hn => h (n + 1) (Nat.succ_le_succ hn)⟩
  · rintro ⟨h0, h⟩ n hn
    cases n with
    | zero => exact h0
    | succ n => exact h n (Nat.le_of_succ_le_succ hn)

lemma lists_iff : f.Lists venue ↔ ∃ a, f.lastTradeOn venue = some a := by
  unfold Lists lastTradeOn
  rw [← Option.isSome_iff_exists, Option.isSome_map]

/-- **A step executes a chunk exactly if the call it makes executes a trade.** -/
theorem chunk?_eq_some :
    f.chunk? s = some r ↔ ∃ c t x l, f.callOf? s = some c ∧ f.Executes c t x l r := by
  unfold chunk?
  simp only [Option.bind_eq_some_iff, toOption_eq_some]
  constructor
  · rintro ⟨c, hc, a, ha, hr⟩
    obtain ⟨t, x, l, hx⟩ := executes_of_report ha hr
    exact ⟨c, t, x, l, hc, hx⟩
  · rintro ⟨c, t, x, l, hc, hx⟩
    exact ⟨c, hc, hx.report_of_call⟩

end

/-! ### What a step does to the stamps -/

section Stamps

variable {f : Fund} {c : Call} {t : Trade} {x : Fill} {l : Ledger} {r : Report} {s : Step}
  {venue : String}

/-- What a call does after its trade is settled does not touch the stamps. -/
lemma finish_stamps (g : Fund) (t : Trade) (r : Report) (c : Call) :
    (g.finish t r c).1.strategy.venues = g.strategy.venues ∧
      (g.finish t r c).1.strategy.lastRebalance = g.strategy.lastRebalance := by
  cases c with
  | ripcord caller venue =>
    change ((g.withTwap .idle).payBounty caller).1.strategy.venues = _ ∧
      ((g.withTwap .idle).payBounty caller).1.strategy.lastRebalance = _
    rcases payBounty_cases (g.withTwap .idle) caller with h | ⟨_, -, -, h⟩ <;>
      rw [h] <;> exact ⟨rfl, rfl⟩
  | _ => exact ⟨rfl, rfl⟩

lemma Executes.stamps (h : f.Executes c t x l r) :
    (f.call c).1.strategy.venues = f.strategy.venues.stamp t.venue f.now ∧
      (f.call c).1.strategy.lastRebalance = f.now := by
  rw [h.call_eq]
  exact finish_stamps _ t r c

lemma Executes.venue_eq (h : f.Executes c t x l r) : r.venue = t.venue := by
  obtain ⟨_, _, -, rfl⟩ := h.report_eq
  rfl

/-- The later of two times. -/
lemma le_stamped (a now : UInt64) :
    a ≤ (if a < now then now else a) ∧ now ≤ (if a < now then now else a) := by
  split
  next h => exact ⟨UInt64.le_of_lt h, UInt64.le_refl _⟩
  next h => exact ⟨UInt64.le_refl _, UInt64.not_lt.1 h⟩

lemma stamped_lastTrade {venues : Registry} {name : String} {now a : UInt64}
    (h : (venues.find? venue).map (·.terms.lastTrade) = some a) :
    ∃ b, ((venues.stamp name now).find? venue).map (·.terms.lastTrade) = some b ∧ a ≤ b ∧
      (venue = name → now ≤ b) := by
  obtain ⟨d, hd, rfl⟩ := Option.map_eq_some_iff.1 h
  unfold Registry.stamp
  rw [Registry.find?_modify, hd]
  split
  · exact ⟨_, rfl, (le_stamped _ _).1, fun _ => (le_stamped _ _).2⟩
  next hne => exact ⟨_, rfl, UInt64.le_refl _, fun he => absurd he hne⟩

lemma changes_lastTradeOn {g : Fund} {a b : UInt64} {answer : Answer} (hg : f.Changes g answer)
    (ha : f.lastTradeOn venue = some a) (hb : g.lastTradeOn venue = some b) : a = b := by
  have same : g.strategy.venues.find? venue = f.strategy.venues.find? venue → a = b := by
    intro h
    unfold lastTradeOn at ha hb
    rw [h, ha] at hb
    exact Option.some.inj hb
  cases hg with
  | added name v terms r ok =>
    obtain ⟨-, hn, rfl⟩ := Registry.add_eq_ok ok
    refine same ?_
    change (Registry.insertSorted name ⟨v, terms⟩ f.strategy.venues.entries).lookup venue = _
    rw [Registry.lookup_insertSorted hn, if_neg]
    · rfl
    · rintro rfl
      unfold lastTradeOn at ha
      rw [hn] at ha
      cases ha
  | updated name terms r ok =>
    obtain ⟨-, -, rfl⟩ := Registry.update_eq_ok ok
    unfold lastTradeOn at ha hb
    obtain ⟨d, hd, rfl⟩ := Option.map_eq_some_iff.1 ha
    change Option.map _ ((f.strategy.venues.modify name _).find? venue) = _ at hb
    rw [Registry.find?_modify, hd] at hb
    split at hb <;> cases hb <;> rfl
  | removed name d r ok =>
    obtain ⟨-, rfl⟩ := Registry.remove_eq_ok ok
    refine same ?_
    change (f.strategy.venues.entries.filter fun e => e.1 ≠ name).lookup venue = _
    rw [Registry.lookup_filter_ne, if_neg]
    · rfl
    · rintro rfl
      unfold lastTradeOn at hb
      change Option.map _ ((f.strategy.venues.entries.filter fun e => e.1 ≠ venue).lookup venue)
        = _ at hb
      rw [Registry.lookup_filter_ne, if_pos rfl] at hb
      cases hb
  | _ => exact same rfl

lemma changes_lastRebalance {g : Fund} {answer : Answer} (hg : f.Changes g answer) :
    g.strategy.lastRebalance = f.strategy.lastRebalance := by
  cases hg <;> rfl

/-- A step that executes no chunk leaves the stamps alone. -/
lemma step_of_no_chunk (h : f.chunk? s = none) :
    (f.step s).1.strategy.lastRebalance = f.strategy.lastRebalance ∧
      ∀ venue a b, f.lastTradeOn venue = some a → (f.step s).1.lastTradeOn venue = some b →
        a = b := by
  have same : ∀ g : Fund, g.strategy = f.strategy →
      g.strategy.lastRebalance = f.strategy.lastRebalance ∧
        ∀ venue a b, f.lastTradeOn venue = some a → g.lastTradeOn venue = some b → a = b := by
    intro g hg
    unfold lastTradeOn
    rw [hg]
    exact ⟨rfl, fun venue a b ha hb => Option.some.inj (ha.symm.trans hb)⟩
  cases hc : f.callOf? s with
  | some c =>
    rw [step_of_callOf? hc]
    rcases call_cases f c with ⟨e, he⟩ | ⟨t, x, l, ho⟩ | ⟨t, x, l, r, hx⟩ | ⟨g, a, hg, he⟩
    · rw [he]
      exact same _ (afterFailure_eq e).2
    · rw [ho.call_eq]
      exact same _ rfl
    · rw [chunk?_eq_some.2 ⟨c, t, x, l, hc, hx⟩] at h
      cases h
    · rw [he]
      exact ⟨changes_lastRebalance hg, fun _ _ _ => changes_lastTradeOn hg⟩
  | none =>
    obtain ⟨-, hs | ⟨name, answer, hs⟩⟩ := step_of_no_call hc
    · exact same _ hs
    · unfold lastTradeOn
      rw [hs]
      refine ⟨rfl, fun venue a b ha hb => ?_⟩
      obtain ⟨d, hd, rfl⟩ := Option.map_eq_some_iff.1 ha
      rw [Registry.find?_turn, hd] at hb
      split at hb <;> cases hb <;> rfl

/-- **A chunk stamps its venue and the fund.** -/
lemma step_of_chunk (h : f.chunk? s = some r) :
    (f.step s).1.strategy.lastRebalance = f.now ∧
      ∀ venue a, f.lastTradeOn venue = some a →
        ∃ b, (f.step s).1.lastTradeOn venue = some b ∧ a ≤ b ∧ (venue = r.venue → f.now ≤ b) := by
  obtain ⟨c, t, x, l, hc, hx⟩ := chunk?_eq_some.1 h
  rw [step_of_callOf? hc, hx.venue_eq]
  refine ⟨hx.stamps.2, fun venue a ha => ?_⟩
  unfold lastTradeOn
  rw [hx.stamps.1]
  exact stamped_lastTrade ha

/-- **The stamp of a venue never goes back while the venue stays registered.** -/
theorem lastTradeOn_mono {ss : List Step} {a : UInt64} (h : Throughout (Lists · venue) f ss)
    (ha : f.lastTradeOn venue = some a) :
    ∃ b, (f.after ss).lastTradeOn venue = some b ∧ a ≤ b := by
  induction ss generalizing f a with
  | nil => exact ⟨a, ha, UInt64.le_refl _⟩
  | cons s ss ih =>
    obtain ⟨-, h⟩ := throughout_cons.1 h
    have hstep : ∃ b, (f.step s).1.lastTradeOn venue = some b ∧ a ≤ b := by
      cases hr : f.chunk? s with
      | some r =>
        obtain ⟨b, hb, hab, -⟩ := (step_of_chunk hr).2 venue a ha
        exact ⟨b, hb, hab⟩
      | none =>
        obtain ⟨b, hb⟩ := lists_iff.1 (h 0 (Nat.zero_le _))
        exact ⟨b, hb, UInt64.le_of_eq ((step_of_no_chunk hr).2 venue a b ha hb)⟩
    obtain ⟨b, hb, hab⟩ := hstep
    obtain ⟨c, hc, hbc⟩ := ih h hb
    exact ⟨c, hc, UInt64.le_trans hab hbc⟩

/-- The fund's own stamp is the time of the chunk executed last. -/
theorem lastRebalance_of_no_chunk {ss : List Step} (h : f.chunks ss = []) :
    (f.after ss).strategy.lastRebalance = f.strategy.lastRebalance := by
  induction ss generalizing f with
  | nil => rfl
  | cons s ss ih =>
    obtain ⟨hs, hss⟩ := List.append_eq_nil_iff.1 h
    have hs : f.chunk? s = none := by simpa using hs
    exact (ih hss).trans (step_of_no_chunk hs).1

end Stamps

/-! ### What a chunk has waited for -/

section Waits

variable {f : Fund} {s : Step} {r : Report}

lemma le_of_isOver {last cooldown now : UInt64}
    (h : Cooldown.isOver last cooldown now = true) (hnow : now.toNat < Cooldown.lastMoment) :
    last.toNat + cooldown.toNat ≤ now.toNat := by
  have h : min (last.toNat + cooldown.toNat) Cooldown.lastMoment ≤ now.toNat :=
    Cooldown.isOver_iff.1 h
  omega

lemma isOver_of_due {current : Decimal} (h : f.circumstances.phase current = .rebalanceDue) :
    Cooldown.isOver f.strategy.lastRebalance f.strategy.settings.methodology.interval f.now
      = true := by
  unfold Circumstances.phase at h
  split at h
  · cases h
  · split at h
    · cases h
    · split at h
      next hd => exact decide_eq_true hd.2
      next => cases h

/-- A chunk of the keeper's, or a ripcord's, has waited for the stamp of its venue, and an unforced
rebalance for the stamp of the fund. -/
lemma waited_of_chunk (h : f.chunk? s = some r) :
    ∃ a, f.lastTradeOn r.venue = some a ∧
      ((r.kind = .rebalance ∨ r.kind = .iterate) →
        Cooldown.isOver a f.strategy.settings.execution.cooldown f.now = true) ∧
      (r.kind = .ripcord →
        Cooldown.isOver a f.strategy.settings.incentive.cooldown f.now = true) ∧
      (r.kind = .rebalance →
        Cooldown.isOver f.strategy.lastRebalance f.strategy.settings.methodology.interval f.now
          = true) := by
  obtain ⟨c, t, x, l, -, hx⟩ := chunk?_eq_some.1 h
  have hd := decides_of_tradeOf? hx.decided
  have hkind : r.kind = t.kind := by
    obtain ⟨_, _, -, rfl⟩ := hx.report_eq
    rfl
  have hlast : ∀ kind venue, f.Grounds kind venue t →
      f.lastTradeOn r.venue = some t.listing.terms.lastTrade := by
    intro kind venue hg
    unfold lastTradeOn
    rw [hx.venue_eq, hg.venue_eq, hg.listed]
    rfl
  rw [hkind]
  cases c with
  | engage caller venue =>
    refine ⟨_, hlast _ _ hd.toGrounds, ?_⟩
    rw [hd.kind_eq]
    exact ⟨by simp, nofun, nofun⟩
  | rebalance caller venue =>
    refine ⟨_, hlast _ _ hd.toGrounds, ?_⟩
    rw [hd.kind_eq]
    exact ⟨fun _ => hd.rested, nofun, fun _ => isOver_of_due hd.due⟩
  | iterate caller venue =>
    refine ⟨_, hlast _ _ hd.toGrounds, ?_⟩
    rw [hd.kind_eq]
    exact ⟨fun _ => hd.rested, nofun, nofun⟩
  | ripcord caller venue =>
    refine ⟨_, hlast _ _ hd.toGrounds, ?_⟩
    rw [hd.kind_eq]
    exact ⟨by simp, fun _ => hd.rested, nofun⟩
  | disengage caller venue =>
    refine ⟨_, hlast _ _ hd.toGrounds, ?_⟩
    rw [hd.kind_eq]
    exact ⟨by simp, nofun, nofun⟩
  | _ => exact hd.elim

end Waits

/-! ### Runs -/

section Runs

variable {f : Fund} {ss : List Step} {venue : String} {now : UInt64}

/-- A chunk that waits for the stamp of its venue. -/
def IsKeeperChunk (venue : String) (r : Report) : Prop :=
  r.venue = venue ∧ (r.kind = .rebalance ∨ r.kind = .iterate ∨ r.kind = .ripcord)

instance (venue : String) : DecidablePred (IsKeeperChunk venue) := fun r => by
  unfold IsKeeperChunk
  infer_instance

/-- One moment, with the venue registered and both of its cooldowns positive. -/
structure AtInstant (venue : String) (now : UInt64) (f : Fund) : Prop where
  now_eq : f.now = now
  listed : f.Lists venue
  cooldown : 0 < f.strategy.settings.execution.cooldown
  emergency : 0 < f.strategy.settings.incentive.cooldown

instance (venue : String) (now : UInt64) (f : Fund) : Decidable (AtInstant venue now f) :=
  decidable_of_iff (f.now = now ∧ f.Lists venue ∧
      0 < f.strategy.settings.execution.cooldown ∧ 0 < f.strategy.settings.incentive.cooldown)
    ⟨fun ⟨h, l, c, e⟩ => ⟨h, l, c, e⟩, fun h => ⟨h.now_eq, h.listed, h.cooldown, h.emergency⟩⟩

/-- On a venue with a stamp of this moment nothing that waits for it goes through. -/
lemma not_isKeeperChunk {s : Step} {r : Report} {a : UInt64} (h : AtInstant venue now f)
    (hnow : now.toNat < Cooldown.lastMoment) (ha : f.lastTradeOn venue = some a) (hle : now ≤ a)
    (hr : f.chunk? s = some r) : ¬ IsKeeperChunk venue r := by
  rintro ⟨rfl, hk⟩
  obtain ⟨b, hb, hwait, hwait', -⟩ := waited_of_chunk hr
  obtain rfl : a = b := Option.some.inj (ha.symm.trans hb)
  have hle : now.toNat ≤ a.toNat := hle
  have h0 : 0 < f.strategy.settings.execution.cooldown.toNat := h.cooldown
  have h0' : 0 < f.strategy.settings.incentive.cooldown.toNat := h.emergency
  rw [← or_assoc] at hk
  rw [h.now_eq] at hwait hwait'
  rcases hk with hk | hk
  · have := le_of_isOver (hwait hk) hnow
    omega
  · have := le_of_isOver (hwait' hk) hnow
    omega

lemma keeperChunks_of_stamped {a : UInt64} (h : Throughout (AtInstant venue now) f ss)
    (hnow : now.toNat < Cooldown.lastMoment) (ha : f.lastTradeOn venue = some a) (hle : now ≤ a) :
    (f.chunks ss).filter (IsKeeperChunk venue) = [] := by
  induction ss generalizing f a with
  | nil => rfl
  | cons s ss ih =>
    obtain ⟨h0, h⟩ := throughout_cons.1 h
    have hreg : Throughout (Lists · venue) f [s] := by
      refine throughout_cons.2 ⟨h0.listed, fun n hn => ?_⟩
      obtain rfl : n = 0 := Nat.le_zero.1 hn
      exact (h 0 (Nat.zero_le _)).listed
    obtain ⟨b, hb, hab⟩ := lastTradeOn_mono hreg ha
    unfold chunks
    rw [List.filter_append, ih h hb (UInt64.le_trans hle hab), List.append_nil]
    cases hr : f.chunk? s with
    | none => rfl
    | some r => exact List.filter_cons_of_neg (by simpa using not_isKeeperChunk h0 hnow ha hle hr)

/-- **At one moment at most one chunk that waits for its venue goes through.** -/
theorem keeperChunks_length_le_one (h : Throughout (AtInstant venue now) f ss)
    (hnow : now.toNat < Cooldown.lastMoment) :
    ((f.chunks ss).filter (IsKeeperChunk venue)).length ≤ 1 := by
  induction ss generalizing f with
  | nil => exact Nat.zero_le _
  | cons s ss ih =>
    obtain ⟨h0, h⟩ := throughout_cons.1 h
    unfold chunks
    rw [List.filter_append]
    cases hr : f.chunk? s with
    | none => exact ih h
    | some r =>
      by_cases hk : IsKeeperChunk venue r
      · -- the chunk leaves a stamp, so nothing comes after it
        obtain ⟨a, ha⟩ := lists_iff.1 h0.listed
        obtain ⟨b, hb, -, hle⟩ := (step_of_chunk hr).2 venue a ha
        rw [keeperChunks_of_stamped h hnow hb (h0.now_eq ▸ hle hk.1.symm), List.append_nil]
        exact List.length_filter_le _ _
      · have hnil : [r].filter (IsKeeperChunk venue) = [] :=
          List.filter_cons_of_neg (by simpa using hk)
        change (([r].filter (IsKeeperChunk venue)) ++ _).length ≤ 1
        rw [hnil, List.nil_append]
        exact ih h

/-- A stamp that a chunk has left is still there, or a later one, when the next chunk comes. -/
lemma stamp_of_chunk {s : Step} {r : Report} (h : f.chunk? s = some r)
    (hreg : Throughout (Lists · r.venue) f (s :: ss)) :
    ∃ b, (f.after (s :: ss)).lastTradeOn r.venue = some b ∧ f.now ≤ b := by
  obtain ⟨h0, hreg⟩ := throughout_cons.1 hreg
  obtain ⟨a, ha⟩ := lists_iff.1 h0
  obtain ⟨b, hb, -, hle⟩ := (step_of_chunk h).2 r.venue a ha
  obtain ⟨c, hc, hbc⟩ := lastTradeOn_mono hreg hb
  exact ⟨c, hc, UInt64.le_trans (hle rfl) hbc⟩

end Runs

/-- **Chunks are as far apart as the settings demand, except at the last moment of the clock.**
Whatever else happens in between, a chunk of the keeper's comes at least a cooldown after any
earlier chunk on its venue, and a ripcord at least an emergency's cooldown, while the venue stays
registered; an unforced rebalance comes at least an interval after the chunk executed last on any
venue.  So of all the calls made at one moment at most one per venue goes through that has to wait
for it. -/
theorem chunks_spaced (f : Fund) :
    (∀ s₁ ss s₂ r₁ r₂, f.chunk? s₁ = some r₁ → (f.after (s₁ :: ss)).chunk? s₂ = some r₂ →
      (f.after (s₁ :: ss)).now.toNat < Cooldown.lastMoment →
        (r₁.venue = r₂.venue → Throughout (Lists · r₁.venue) f (s₁ :: ss) →
          ((r₂.kind = .rebalance ∨ r₂.kind = .iterate) →
            f.now.toNat + (f.after (s₁ :: ss)).strategy.settings.execution.cooldown.toNat
              ≤ (f.after (s₁ :: ss)).now.toNat) ∧
          (r₂.kind = .ripcord →
            f.now.toNat + (f.after (s₁ :: ss)).strategy.settings.incentive.cooldown.toNat
              ≤ (f.after (s₁ :: ss)).now.toNat)) ∧
        (r₂.kind = .rebalance → (f.step s₁).1.chunks ss = [] →
          f.now.toNat + (f.after (s₁ :: ss)).strategy.settings.methodology.interval.toNat
            ≤ (f.after (s₁ :: ss)).now.toNat)) ∧
    ∀ ss venue now, Throughout (AtInstant venue now) f ss → now.toNat < Cooldown.lastMoment →
      ((f.chunks ss).filter (IsKeeperChunk venue)).length ≤ 1 := by
  refine ⟨fun s₁ ss s₂ r₁ r₂ h₁ h₂ hnow => ?_, fun ss venue now h => keeperChunks_length_le_one h⟩
  obtain ⟨a, ha, hkeeper, hripcord, hrebalance⟩ := waited_of_chunk h₂
  refine ⟨fun hv hreg => ?_, fun hk hnone => ?_⟩
  · obtain ⟨b, hb, hle⟩ := stamp_of_chunk h₁ hreg
    rw [hv] at hb
    obtain rfl : a = b := Option.some.inj (ha.symm.trans hb)
    have hle : f.now.toNat ≤ a.toNat := hle
    refine ⟨fun hk => ?_, fun hk => ?_⟩
    · have := le_of_isOver (hkeeper hk) hnow
      omega
    · have := le_of_isOver (hripcord hk) hnow
      omega
  · have hlast : (f.after (s₁ :: ss)).strategy.lastRebalance = f.now :=
      (lastRebalance_of_no_chunk hnone).trans (step_of_chunk h₁).1
    have := le_of_isOver (hrebalance hk) hnow
    rwa [hlast] at this

/-! ### In an emergency -/

lemma exists_chunk (f : Fund) (s : Step) (venue : String) (kind : TradeKind)
    (h : ((f.chunk? s).any fun r => r.venue = venue ∧ r.kind = kind) = true) :
    ∃ r, f.chunk? s = some r ∧ r.venue = venue ∧ r.kind = kind := by
  cases hr : f.chunk? s with
  | none => rw [hr] at h; cases h
  | some r => exact ⟨r, rfl, by simpa [hr] using h⟩

namespace Trial

def pull : Step := .call (.ripcord operator "dex")

/-- The collateral recovers an hour later. -/
def recovery : List Step :=
  [.event (.setTime 5400), collateralPrice 100 5400,
    .event (.setReading assets.borrowFeed ⟨100, 2, 5400⟩)]

def mend : Step := .call (.rebalance operator "dex")

/-- A minute after a ripcord. -/
def minuteLater : Fund := (inDanger 1800).after [pull, .event (.advance 60)]

/-- An hour after a ripcord, with a trade due the other way. -/
def hourLater : Fund := (inDanger 1800).after (pull :: recovery)

/-- Two ripcords a minute apart, a rebalance an hour after a ripcord, and two ripcords at one
moment, of which one goes through at most. -/
theorem chunks_spaced_inDanger :
    1800 + minuteLater.strategy.settings.incentive.cooldown.toNat ≤ minuteLater.now.toNat ∧
      1800 + hourLater.strategy.settings.execution.cooldown.toNat ≤ hourLater.now.toNat ∧
      1800 + hourLater.strategy.settings.methodology.interval.toNat ≤ hourLater.now.toNat ∧
      (((inDanger 1800).chunks [pull, pull]).filter (IsKeeperChunk "dex")).length ≤ 1 := by
  obtain ⟨r₁, h₁, hv₁, -⟩ := exists_chunk (inDanger 1800) pull "dex" .ripcord (by decide +kernel)
  obtain ⟨r₂, h₂, hv₂, hk₂⟩ := exists_chunk minuteLater pull "dex" .ripcord (by decide +kernel)
  obtain ⟨r₃, h₃, hv₃, hk₃⟩ := exists_chunk hourLater mend "dex" .rebalance (by decide +kernel)
  have hminute : Throughout (Lists · r₁.venue) (inDanger 1800) [pull, .event (.advance 60)] := by
    rw [hv₁]
    decide +kernel
  have hhour : Throughout (Lists · r₁.venue) (inDanger 1800) (pull :: recovery) := by
    rw [hv₁]
    decide +kernel
  obtain ⟨hpull, -⟩ := (chunks_spaced (inDanger 1800)).1 pull [.event (.advance 60)] pull r₁ r₂
    h₁ h₂ (by decide +kernel)
  obtain ⟨hmend, hlast⟩ := (chunks_spaced (inDanger 1800)).1 pull recovery mend r₁ r₃ h₁ h₃
    (by decide +kernel)
  refine ⟨?_, ?_, hlast hk₃ (by decide +kernel), ?_⟩
  · exact (hpull (hv₁.trans hv₂.symm) hminute).2 hk₂
  · exact (hmend (hv₁.trans hv₃.symm) hhour).1 (.inl hk₃)
  · exact (chunks_spaced (inDanger 1800)).2 [pull, pull] "dex" 1800 (by decide +kernel)
      (by decide +kernel)

def lastMoment : Fund := inDanger 0xffffffffffffffff

def relief : Step := collateralPrice 100 0xffffffffffffffff

/-- At the last moment of the clock a ripcord follows another on its venue at once, and a rebalance
follows it at once after a change of the price. -/
theorem chunks_at_lastMoment :
    lastMoment.Reachable ∧
      (∃ r₁ r₂, lastMoment.chunk? pull = some r₁ ∧ (lastMoment.after [pull]).chunk? pull = some r₂ ∧
        r₁.venue = r₂.venue ∧ Throughout (Lists · r₁.venue) lastMoment [pull] ∧
        r₂.kind = .ripcord ∧
        ¬ lastMoment.now.toNat
          + (lastMoment.after [pull]).strategy.settings.incentive.cooldown.toNat
            ≤ (lastMoment.after [pull]).now.toNat) ∧
      ∃ r₁ r₂, lastMoment.chunk? pull = some r₁ ∧
        (lastMoment.after [pull, relief]).chunk? mend = some r₂ ∧ r₂.kind = .rebalance ∧
        (lastMoment.step pull).1.chunks [relief] = [] ∧
        ¬ lastMoment.now.toNat
          + (lastMoment.after [pull, relief]).strategy.settings.methodology.interval.toNat
            ≤ (lastMoment.after [pull, relief]).now.toNat := by
  obtain ⟨r₁, h₁, hv₁, -⟩ := exists_chunk lastMoment pull "dex" .ripcord (by decide +kernel)
  obtain ⟨r₂, h₂, hv₂, hk₂⟩ := exists_chunk (lastMoment.after [pull]) pull "dex" .ripcord
    (by decide +kernel)
  obtain ⟨r₃, h₃, -, hk₃⟩ := exists_chunk (lastMoment.after [pull, relief]) mend "dex" .rebalance
    (by decide +kernel)
  refine ⟨inDanger_reachable _, ⟨r₁, r₂, h₁, h₂, hv₁.trans hv₂.symm, ?_, hk₂, by decide +kernel⟩,
    ⟨r₁, r₃, h₁, h₃, hk₃, by decide +kernel, by decide +kernel⟩⟩
  rw [hv₁]
  decide +kernel

end Trial

end LeverageKeeper.Fund
