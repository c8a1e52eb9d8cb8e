import LeverageKeeper.Proofs.Fund.Spacing
import LeverageKeeper.Proofs.Sizing.Direction

/-!
The life of a trade that takes several chunks.  A first chunk puts it under way, toward a target of
its own.  From then on every step of a history either leaves target and direction as they are, or
its reply is one of those that end the trade, or one that puts another trade in its place.  As long
as no such reply has come, settings stay frozen, no rebalance goes through, and every chunk goes the
same way toward the same target, which is not reached yet.
-/

namespace LeverageKeeper

/-! ### Replies -/

/-- The reply of a call that ends the trade under way. -/
def Answer.ends : Answer → Bool
  | .iteration (.executed r) => !r.chunked
  | .iteration (.cleared ..) => true
  | .rescue _ => true
  | .report r => r.kind = .disengage || r.kind = .engage && !r.chunked
  | _ => false

/-- The reply of a call that puts another trade in the place of the one under way. -/
def Answer.replaces : Answer → Bool
  | .report r => r.kind = .engage && r.chunked
  | _ => false

namespace Fund

/-- What the call of a step replies, if the step makes one and it succeeds. -/
def replyTo? (f : Fund) (s : Step) : Option Answer :=
  (f.callOf? s).bind fun c => (f.call c).2.toOption

/-- What the calls of a history reply, in their order. -/
def replies (f : Fund) : List Step → List Answer
  | [] => []
  | s :: ss => (f.replyTo? s).toList ++ (f.step s).1.replies ss

/-- A trade to the given target is under way, under the given settings. -/
structure UnderWay (f : Fund) (target : Decimal) (d : Direction) (s : Settings) : Prop where
  twap : ∃ remaining, f.strategy.twap = .under target d remaining
  settings : f.strategy.settings = s

section Calls

variable {f g : Fund} {c : Call} {t : Trade} {x : Fill} {l : Ledger} {r : Report} {a : Answer}
  {target : Decimal} {d : Direction} {s : Settings}

lemma UnderWay.active (h : f.UnderWay target d s) : f.strategy.twap.isActive = true := by
  obtain ⟨remaining, hw⟩ := h.twap
  rw [hw]
  rfl

lemma UnderWay.of_eq (h : f.UnderWay target d s) (hw : g.strategy.twap = f.strategy.twap)
    (hs : g.strategy.settings = f.strategy.settings) : g.UnderWay target d s :=
  ⟨hw ▸ h.twap, hs.trans h.settings⟩

/-! ### What is refused -/

lemma UnderWay.rebalance_refused (h : f.UnderWay target d s) (caller : Address)
    (venue : String) : ∃ e, (f.call (.rebalance caller venue)).2 = .error e := by
  cases hd : f.decideRebalance caller venue with
  | ok t =>
    have hdue := (decideRebalance_eq_ok hd).due
    have hactive : f.circumstances.twap.isActive = true := h.active
    unfold Circumstances.phase at hdue
    rw [if_pos hactive] at hdue
    split at hdue <;> cases hdue
  | error e =>
    refine ⟨e, ?_⟩
    change (answering Answer.report (f.attempt (f.decideRebalance caller venue) _)).2 = _
    rw [hd]
    rfl

lemma UnderWay.settings_refused (h : f.UnderWay target d s) {caller : Address} {action : String}
    {next : Settings} : ∃ e, (f.change (f.decideSettings caller action next)).2 = .error e := by
  cases hd : f.decideSettings caller action next with
  | ok strategy =>
    have hidle := (decideSettings_eq_ok hd).1
    rw [h.active] at hidle
    cases hidle
  | error e => exact ⟨e, rfl⟩

lemma answering_error {α : Type} {into : α → Answer} {y : Fund × Outcome α} {e : Failure}
    (h : y.2 = .error e) : (answering into y).2 = .error e := by
  obtain ⟨g, o⟩ := y
  cases h
  rfl

/-- **While a trade is under way no rebalance goes through and the settings are frozen.** -/
lemma UnderWay.refused (h : f.UnderWay target d s) :
    (∀ caller venue, ∃ e, (f.call (.rebalance caller venue)).2 = .error e) ∧
      (∀ caller m, ∃ e, (f.call (.setMethodology caller m)).2 = .error e) ∧
      (∀ caller x, ∃ e, (f.call (.setExecution caller x)).2 = .error e) ∧
      ∀ caller i, ∃ e, (f.call (.setIncentive caller i)).2 = .error e := by
  refine ⟨h.rebalance_refused, ?_, ?_, ?_⟩
  · intro caller m
    obtain ⟨e, he⟩ := h.settings_refused
    exact ⟨e, answering_error he⟩
  · intro caller x
    obtain ⟨e, he⟩ := h.settings_refused
    exact ⟨e, answering_error he⟩
  · intro caller i
    obtain ⟨e, he⟩ := h.settings_refused
    exact ⟨e, answering_error he⟩

/-! ### What becomes of a trade under way -/

/-- With a reply of a call, the trade that was under way in `f` becomes what it is in `g`. -/
inductive Becomes (f : Fund) (target : Decimal) (d : Direction) (s : Settings) :
    Answer → Fund → Prop
  | chunk (r : Report) (g : Fund) (target_eq : r.target = target) (direction_eq : r.direction = d)
    (leverage : f.leverage = .ok r.leverageBefore) (short : d.Short target r.leverageBefore)
    (after : if r.chunked then g.UnderWay target d s else g.strategy.twap = .idle) :
    Becomes f target d s (.iteration (.executed r)) g
  | cleared (aim current : Decimal) :
    Becomes f target d s (.iteration (.cleared aim current)) (f.withTwap .idle)
  | rescued (x : Rescue) (g : Fund) (idle : g.strategy.twap = .idle) :
    Becomes f target d s (.rescue x) g
  | unwound (r : Report) (g : Fund) (kind : r.kind = .disengage) (idle : g.strategy.twap = .idle) :
    Becomes f target d s (.report r) g
  | engaged (r : Report) (g : Fund) (kind : r.kind = .engage)
    (unlevered : ∃ b, f.ledger.balances = .ok b ∧ b.debt = 0)
    (after : if r.chunked then ∃ remaining, g.strategy.twap = .under r.target r.direction remaining
      else g.strategy.twap = .idle) :
    Becomes f target d s (.report r) g
  | kept (a : Answer) (g : Fund) (other : a = .done ∨ ∃ amount, a = .decimal amount)
    (under : g.UnderWay target d s) : Becomes f target d s a g

lemma leverage_of_position {p : Position} (h : f.position = .ok p) :
    f.leverage = .ok p.leverage := by
  unfold leverage
  rw [h]
  rfl

lemma twapAfter_of_chunked (h : t.chunk.chunked = true) :
    t.twapAfter = .under t.target t.plan.direction t.chunk.remaining := if_pos h

lemma twapAfter_of_not_chunked (h : t.chunk.chunked = false) : t.twapAfter = .idle := by
  unfold Trade.twapAfter Twap.after
  rw [h]
  rfl

/-- What a report takes over from its trade. -/
lemma Executes.report_fields (hx : f.Executes c t x l r) :
    r.kind = t.kind ∧ r.target = t.target ∧ r.direction = t.plan.direction ∧
      r.leverageBefore = t.position.leverage ∧ r.chunked = t.chunk.chunked := by
  obtain ⟨_, _, -, rfl⟩ := hx.report_eq
  exact ⟨rfl, rfl, rfl, rfl, rfl⟩

lemma payBounty_twap (payee : Address) :
    (f.payBounty payee).1.strategy.twap = f.strategy.twap := by
  rcases payBounty_cases f payee with he | ⟨_, -, -, he⟩
  · rw [he]
  · rw [he]
    rfl

lemma UnderWay.executes (h : f.UnderWay target d s) (hx : f.Executes c t x l r) :
    ∃ a, (f.call c).2 = .ok a ∧ f.Becomes target d s a (f.call c).1 := by
  obtain ⟨hkind, htarget, hdirection, hbefore, hchunked⟩ := hx.report_fields
  have hd := decides_of_tradeOf? hx.decided
  rw [hx.call_eq]
  cases c with
  | engage caller venue =>
    refine ⟨.report r, rfl, .engaged r _ (hkind.trans hd.kind_eq) hd.unlevered ?_⟩
    rw [hchunked, htarget, hdirection]
    split
    next hc => exact ⟨_, twapAfter_of_chunked hc⟩
    next hc => exact twapAfter_of_not_chunked (Bool.eq_false_iff.2 hc)
  | rebalance caller venue =>
    obtain ⟨e, he⟩ := h.rebalance_refused caller venue
    rw [hx.call_eq] at he
    cases he
  | iterate caller venue =>
    obtain ⟨_, hw⟩ := h.twap
    obtain ⟨_, hw'⟩ := hd.underWay
    obtain ⟨htarget', hdirection', -⟩ := Twap.under.inj (hw'.symm.trans hw)
    refine ⟨.iteration (.executed r), rfl, .chunk r _ (htarget.trans htarget')
      (hdirection.trans hdirection') ?_ ?_ ?_⟩
    · rw [hbefore]
      exact leverage_of_position hd.position
    · rw [hbefore, ← htarget', ← hdirection']
      exact Sizing.short_of_unreached hd.unreached
    · rw [hchunked]
      split
      next hc =>
        refine ⟨⟨t.chunk.remaining, ?_⟩, h.settings⟩
        rw [← htarget', ← hdirection']
        exact twapAfter_of_chunked hc
      next hc => exact twapAfter_of_not_chunked (Bool.eq_false_iff.2 hc)
  | ripcord caller venue =>
    refine ⟨_, rfl, .rescued _ _ ?_⟩
    exact payBounty_twap (f := (f.settled t l).withTwap .idle) caller
  | disengage caller venue =>
    exact ⟨.report r, rfl, .unwound r _ (hkind.trans hd.kind_eq) rfl⟩
  | _ => exact hd.elim

lemma UnderWay.changes (h : f.UnderWay target d s) (hg : f.Changes g a) :
    f.Becomes target d s a g := by
  cases hg with
  | cleared aim current active => exact .cleared aim current
  | settings next inactive valid =>
    rw [h.active] at inactive
    cases inactive
  | added name venue terms r ok => exact .kept _ _ (.inl rfl) (h.of_eq rfl rfl)
  | updated name terms r ok => exact .kept _ _ (.inl rfl) (h.of_eq rfl rfl)
  | removed name listing r ok => exact .kept _ _ (.inl rfl) (h.of_eq rfl rfl)
  | guard g => exact .kept _ _ (.inl rfl) (h.of_eq rfl rfl)
  | deposited amount reserve positive sum => exact .kept _ _ (.inr ⟨_, rfl⟩) (h.of_eq rfl rfl)
  | kept reserve => exact .kept _ _ (.inr ⟨_, rfl⟩) h
  | withdrawn l caller paid => exact .kept _ _ (.inr ⟨_, rfl⟩) (h.of_eq rfl rfl)

lemma UnderWay.afterFailure (h : f.UnderWay target d s) (e : Failure) :
    (f.afterFailure e).UnderWay target d s :=
  h.of_eq (by rw [(afterFailure_eq e).2]) (by rw [(afterFailure_eq e).2])

/-- **What a call makes of a trade under way**: a call that fails leaves it as it is. -/
theorem UnderWay.call (h : f.UnderWay target d s) (c : Call) :
    (∃ e, (f.call c).2 = .error e ∧ (f.call c).1.UnderWay target d s) ∨
      ∃ a, (f.call c).2 = .ok a ∧ f.Becomes target d s a (f.call c).1 := by
  rcases call_cases f c with ⟨e, he⟩ | ⟨t, x, l, ho⟩ | ⟨t, x, l, r, hx⟩ | ⟨g, a, hg, he⟩
  · left
    rw [he]
    exact ⟨e, rfl, h.afterFailure e⟩
  · left
    rw [ho.call_eq]
    exact ⟨_, rfl, h.of_eq rfl rfl⟩
  · exact .inr (h.executes hx)
  · right
    rw [he]
    exact ⟨a, rfl, h.changes hg⟩

lemma Becomes.underWay (h : f.Becomes target d s a g) (hends : a.ends = false)
    (hreplaces : a.replaces = false) : g.UnderWay target d s := by
  cases h with
  | chunk r g target_eq direction_eq leverage short after =>
    have hc : r.chunked = true := by simpa [Answer.ends] using hends
    rwa [if_pos hc] at after
  | cleared aim current => cases hends
  | rescued x g idle => cases hends
  | unwound r g kind idle => simp [Answer.ends, kind] at hends
  | engaged r g kind unlevered after =>
    simp only [Answer.ends, Answer.replaces, kind] at hends hreplaces
    cases hc : r.chunked <;> simp [hc] at hends hreplaces
  | kept a g other under => exact under

end Calls

/-! ### Histories -/

section Histories

variable {f : Fund} {target : Decimal} {d : Direction} {s : Settings} {r : Report} {st : Step}
  {ss : List Step}

lemma replyTo?_of_callOf? {c : Call} (h : f.callOf? st = some c) :
    f.replyTo? st = (f.call c).2.toOption := by
  unfold replyTo?
  rw [h, Option.bind_some]

/-- **What a step makes of a trade under way.** -/
theorem UnderWay.step (h : f.UnderWay target d s) (st : Step) :
    (f.replyTo? st = none → (f.step st).1.UnderWay target d s) ∧
      ∀ a, f.replyTo? st = some a → f.Becomes target d s a (f.step st).1 := by
  cases hc : f.callOf? st with
  | none =>
    unfold replyTo?
    rw [hc]
    constructor
    · intro _
      obtain ⟨-, hs | ⟨venue, answer, hs⟩⟩ := step_of_no_call hc
      · exact h.of_eq (by rw [hs]) (by rw [hs])
      · exact h.of_eq (by rw [hs]) (by rw [hs])
    · intro a ha
      cases ha
  | some c =>
    rw [step_of_callOf? hc, replyTo?_of_callOf? hc]
    rcases h.call c with ⟨e, he, hu⟩ | ⟨a, ha, hb⟩
    · rw [he]
      refine ⟨fun _ => hu, ?_⟩
      intro a ha
      cases ha
    · rw [ha]
      constructor
      · intro hno
        cases hno
      · intro a' ha'
        cases ha'
        exact hb

/-- **A trade stays under way** as long as no reply ends it or puts another one in its place. -/
theorem UnderWay.after (h : f.UnderWay target d s)
    (hss : ∀ a ∈ f.replies ss, a.ends = false ∧ a.replaces = false) :
    (f.after ss).UnderWay target d s := by
  induction ss generalizing f with
  | nil => exact h
  | cons st ss ih =>
    obtain ⟨hquiet, hreply⟩ := h.step st
    have hst : (f.step st).1.UnderWay target d s := by
      cases ha : f.replyTo? st with
      | none => exact hquiet ha
      | some a =>
        have hmem : a ∈ f.replies (st :: ss) :=
          List.mem_append_left _ (by rw [ha]; exact List.mem_singleton.2 rfl)
        exact (hreply a ha).underWay (hss a hmem).1 (hss a hmem).2
    exact ih hst fun a ha => hss a (List.mem_append_right _ ha)

/-- A first chunk that others are to follow puts its trade under way. -/
lemma underWay_of_chunk (h : f.chunk? st = some r) (hkind : r.kind = .engage ∨ r.kind = .rebalance)
    (hchunked : r.chunked = true) :
    (f.step st).1.UnderWay r.target r.direction f.strategy.settings := by
  obtain ⟨c, t, x, l, hc, hx⟩ := chunk?_eq_some.1 h
  obtain ⟨hk, htarget, hdirection, -, hch⟩ := hx.report_fields
  have hd := decides_of_tradeOf? hx.decided
  have hw := twapAfter_of_chunked (hch.symm.trans hchunked)
  rw [step_of_callOf? hc, hx.call_eq, htarget, hdirection]
  rw [hk] at hkind
  cases c with
  | engage caller venue => exact ⟨⟨_, hw⟩, rfl⟩
  | rebalance caller venue => exact ⟨⟨_, hw⟩, rfl⟩
  | iterate caller venue => rw [hd.kind_eq] at hkind; simp at hkind
  | ripcord caller venue => rw [hd.kind_eq] at hkind; simp at hkind
  | disengage caller venue => rw [hd.kind_eq] at hkind; simp at hkind
  | _ => exact hd.elim

end Histories

/-- **The life of a trade under way.**  From the chunk that starts it until a reply ends or replaces
it, the trade keeps its target and direction and the settings stay as they were; no rebalance and no
change of settings goes through.  Every further chunk reports this target and direction, at a ratio
that is still short of the target by more than the tolerance.  The trade ends with an iterate whose
chunk is the last, with one that finds the target reached and changes nothing else, with a ripcord
or with an unwinding; only an engagement of a position that owes nothing puts its own trade in the
place, or none if its chunk is the last. -/
theorem twap_life_cycle {f : Fund} {st : Step} {r : Report} {ss : List Step}
    (hstart : f.chunk? st = some r) (hkind : r.kind = .engage ∨ r.kind = .rebalance)
    (hchunked : r.chunked = true)
    (hss : ∀ a ∈ (f.step st).1.replies ss, a.ends = false ∧ a.replaces = false) :
    let g := f.after (st :: ss)
    g.UnderWay r.target r.direction f.strategy.settings ∧
      (∀ caller venue, ∃ e, (g.call (.rebalance caller venue)).2 = .error e) ∧
      (∀ caller m, ∃ e, (g.call (.setMethodology caller m)).2 = .error e) ∧
      (∀ caller x, ∃ e, (g.call (.setExecution caller x)).2 = .error e) ∧
      (∀ caller i, ∃ e, (g.call (.setIncentive caller i)).2 = .error e) ∧
      ∀ next,
        (g.replyTo? next = none →
          (g.step next).1.UnderWay r.target r.direction f.strategy.settings) ∧
        ∀ a, g.replyTo? next = some a →
          g.Becomes r.target r.direction f.strategy.settings a (g.step next).1 := by
  intro g
  have hg : g.UnderWay r.target r.direction f.strategy.settings :=
    (underWay_of_chunk hstart hkind hchunked).after hss
  obtain ⟨hrebalance, hmethodology, hexecution, hincentive⟩ := hg.refused
  exact ⟨hg, hrebalance, hmethodology, hexecution, hincentive, hg.step⟩

/-- The levered fund goes on toward a ratio of 2, which it has not reached. -/
theorem twap_life_cycle_levered :
    Trial.levered.UnderWay (Trial.decimal 2 0) .lever Trial.settings ∧
      ∃ r, Trial.levered.replyTo? (.call (.iterate Trial.operator "dex"))
          = some (.iteration (.executed r)) ∧
        r.target = Trial.decimal 2 0 ∧
        Direction.lever.Short (Trial.decimal 2 0) r.leverageBefore := by
  have hfirst : ((Trial.fund (Venue.exact "dex")).chunk? (.call (.engage Trial.operator "dex"))).map
      (fun r => (r.kind, r.target, r.direction, r.chunked))
        = some (.engage, Trial.decimal 2 0, .lever, true) := by decide +kernel
  have hsecond : (Trial.levered.chunk? (.call (.iterate Trial.operator "dex"))).isSome = true := by
    decide +kernel
  obtain ⟨r, hr, he⟩ := Option.map_eq_some_iff.1 hfirst
  obtain ⟨hkind, he⟩ := Prod.mk.inj he
  obtain ⟨htarget, he⟩ := Prod.mk.inj he
  obtain ⟨hdirection, hchunked⟩ := Prod.mk.inj he
  have hquiet : ((Trial.fund (Venue.exact "dex")).step
      (.call (.engage Trial.operator "dex"))).1.replies [.event (.advance 700)] = [] := rfl
  obtain ⟨hunder, -, -, -, -, hnext⟩ := twap_life_cycle hr (.inl hkind) hchunked (by
    rw [hquiet]
    intro a ha
    cases ha)
  rw [htarget, hdirection] at hunder hnext
  refine ⟨hunder, ?_⟩
  obtain ⟨r', hr'⟩ := Option.isSome_iff_exists.1 hsecond
  obtain ⟨_, t, x, l, hc, hx⟩ := chunk?_eq_some.1 hr'
  cases hc
  have hreply : Trial.levered.replyTo? (.call (.iterate Trial.operator "dex"))
      = some (.iteration (.executed r')) := by
    rw [replyTo?_of_callOf? rfl, hx.call_eq]
    rfl
  cases (hnext (.call (.iterate Trial.operator "dex"))).2 _ hreply with
  | chunk _ _ target_eq direction_eq leverage short after => exact ⟨r', hreply, target_eq, short⟩
  | kept _ _ other under => rcases other with h | ⟨_, h⟩ <;> cases h

namespace Trial

/-- A band from 1.2 to 1.3 around 1.25. -/
def low : Methodology :=
  { settings.methodology with
    target := number 125 2
    least := number 12 1
    most := number 13 1 }

/-- A trade downward is under way, of which the first chunk has paid off the whole debt: its venue
pays far above the price. -/
def overpaid : Fund :=
  (fund (Venue.exact "dex")).after
    [.call (.addVenue operator "gift" (Venue.fixed "gift" 30000)
        { terms with cap := number 100 0, incentivizedCap := number 100 0 }),
      .call (.setMethodology operator low), .call (.engage operator "dex"),
      .event (.setTime 5000), collateralPrice 50 5000,
      .event (.setReading assets.borrowFeed ⟨100, 2, 5000⟩), .call (.rebalance operator "gift")]

theorem overpaid_reachable : overpaid.Reachable := (reachable _).after _

end Trial

/-- A single chunk upward that reaches its target ends the trade downward that was under way, and
puts no other in its place. -/
theorem engage_ends_twap :
    Trial.overpaid.Reachable ∧ Trial.overpaid.strategy.twap.isActive = true ∧
      ∃ r, (Trial.overpaid.call (.engage Trial.operator "dex")).2 = .ok (.report r) ∧
        r.kind = .engage ∧
        (Trial.overpaid.call (.engage Trial.operator "dex")).1.strategy.twap = .idle := by
  have hkind : ((Trial.overpaid.call (.engage Trial.operator "dex")).2.toOption.bind
      reportOf?).map (·.kind) = some .engage := by decide +kernel
  obtain ⟨r, hr, hkind⟩ := Option.map_eq_some_iff.1 hkind
  obtain ⟨t, x, l, hx⟩ := executes_of_reported hr
  have hanswer : (Trial.overpaid.call (.engage Trial.operator "dex")).2 = .ok (.report r) := by
    rw [hx.call_eq]
    rfl
  exact ⟨Trial.overpaid_reachable, by decide +kernel, r, hanswer, hkind, by decide +kernel⟩

end Fund

end LeverageKeeper
