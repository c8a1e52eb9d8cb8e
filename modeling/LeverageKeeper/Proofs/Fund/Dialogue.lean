import LeverageKeeper.Proofs.Fund.Reachable
import LeverageKeeper.Proofs.Ledger

/-!
What a venue has to do with a call.  A call that trades is a dialogue: it may ask a venue to fill an
order, and goes on from what it is told.  It asks at most once, and whom and what it asks does not
depend on how any venue would answer.  Of the answer the book takes note only if it is a fill at or
above the minimum, and then of just this fill.
-/

namespace LeverageKeeper

/-! ### Dialogues -/

/-- How venues answer orders, by the names under which they are registered. -/
abbrev Answers := String → Feeds → Order → Outcome ℕ

/-- A course of action that may ask venues to fill orders, and goes on from what they answer. -/
inductive Dialogue (α : Type) where
  | done (a : α)
  | ask (venue : String) (o : Order) (next : Outcome ℕ → Dialogue α)

namespace Dialogue

variable {α : Type}

/-- Where a dialogue ends if the venues answer in the given way. -/
def outcome (ans : String → Order → Outcome ℕ) : Dialogue α → α
  | .done a => a
  | .ask venue o next => (next (ans venue o)).outcome ans

/-- The questions that come up if the venues answer in the given way. -/
def questions (ans : String → Order → Outcome ℕ) : Dialogue α → List (String × Order)
  | .done _ => []
  | .ask venue o next => (venue, o) :: (next (ans venue o)).questions ans

end Dialogue

/-! ### The same fund with other answers -/

def Listing.answeredBy (l : Listing) (answer : Feeds → Order → Outcome ℕ) : Listing :=
  ⟨{ l.venue with answer }, l.terms⟩

def Registry.answeredBy (r : Registry) (ans : Answers) : Registry :=
  ⟨r.entries.map fun e => (e.1, e.2.answeredBy (ans e.1))⟩

/-- The same fund, but for the answers of its venues. -/
def Fund.answeredBy (f : Fund) (ans : Answers) : Fund :=
  { f with strategy := { f.strategy with venues := f.strategy.venues.answeredBy ans } }

def Trade.answeredBy (t : Trade) (ans : Answers) : Trade :=
  { t with listing := t.listing.answeredBy (ans t.venue) }

def Fund.NextStep.answeredBy (ans : Answers) : Fund.NextStep → Fund.NextStep
  | .trade t => .trade (t.answeredBy ans)
  | .clear target current => .clear target current

/-- How the venues of a fund answer by themselves. -/
def Fund.answers (f : Fund) : Answers := fun name feeds o =>
  match f.strategy.venues.find? name with
  | some l => l.venue.answer feeds o
  | none => .error (.refused (.unknownVenue name))

section Answers

variable {ans : Answers} {f : Fund} {name : String} {r : Registry} {t : Trade}

lemma Registry.find?_answeredBy :
    (r.answeredBy ans).find? name = (r.find? name).map (·.answeredBy (ans name)) := by
  unfold Registry.answeredBy Registry.find?
  induction r.entries with
  | nil => rfl
  | cons e es ih =>
    rw [List.map_cons, List.lookup_cons, List.lookup_cons, ih]
    cases hb : name == e.1 with
    | true =>
      rw [beq_iff_eq.1 hb]
      rfl
    | false => rfl

lemma Registry.stamp_answeredBy {now : UInt64} :
    (r.answeredBy ans).stamp name now = (r.stamp name now).answeredBy ans := by
  unfold Registry.stamp Registry.modify Registry.answeredBy
  rw [Registry.mk.injEq, List.map_map, List.map_map]
  refine List.map_congr_left fun e _ => ?_
  dsimp only [Function.comp_apply, Listing.answeredBy]
  split <;> rfl

/-- Venues that answer as they do anyway change nothing. -/
lemma Registry.answeredBy_answers (h : f.strategy.venues.Sound) :
    f.strategy.venues.answeredBy f.answers = f.strategy.venues := by
  have same : ∀ e ∈ f.strategy.venues.entries, (e.1, e.2.answeredBy (f.answers e.1)) = e := by
    intro e he
    have hfind := h.find?_of_mem he
    unfold Fund.answers
    rw [hfind]
    rfl
  unfold Registry.answeredBy
  rw [List.map_congr_left same, List.map_id']

/-- Sequences that go on alike from a venue and from the same venue with other answers. -/
lemma get_bind_eq_map {β : Type} {k k' : Listing → Outcome β} {g : β → β}
    (h : ∀ l, k' (l.answeredBy (ans name)) = (k l).map g) :
    (liftM ((r.answeredBy ans).get name) >>= k' : Outcome β)
      = (liftM (r.get name) >>= k : Outcome β).map g := by
  unfold Registry.get
  rw [Registry.find?_answeredBy]
  cases r.find? name with
  | some l => exact h l
  | none => rfl

lemma Fund.prepare_answeredBy {kind : TradeKind} {l : Listing} {p : Position}
    {target cap slippage : Decimal} {d : Direction} :
    (f.answeredBy ans).prepare kind name (l.answeredBy (ans name)) p target d cap slippage
      = (f.prepare kind name l p target d cap slippage).map (·.answeredBy ans) :=
  bind_eq_map fun _ => bind_eq_map fun _ => rfl

variable {caller : Address}

lemma Fund.decideEngage_answeredBy :
    (f.answeredBy ans).decideEngage caller name
      = (f.decideEngage caller name).map (·.answeredBy ans) := by
  refine bind_eq_map fun _ => bind_eq_map fun _ => get_bind_eq_map fun l => ?_
  refine bind_eq_map fun _ => bind_eq_map fun _ => bind_eq_map fun p => ?_
  exact prepare_answeredBy

lemma Fund.decideRebalance_answeredBy :
    (f.answeredBy ans).decideRebalance caller name
      = (f.decideRebalance caller name).map (·.answeredBy ans) := by
  refine bind_eq_map fun _ => bind_eq_map fun _ => get_bind_eq_map fun l => ?_
  refine bind_eq_map fun p => bind_eq_map fun _ => bind_eq_map fun _ => bind_eq_map fun _ => ?_
  refine bind_eq_map fun _ => bind_eq_map fun target => bind_eq_map fun d => ?_
  exact prepare_answeredBy

lemma Fund.decideIterate_answeredBy :
    (f.answeredBy ans).decideIterate caller name
      = (f.decideIterate caller name).map (·.answeredBy ans) := by
  refine bind_eq_map fun _ => bind_eq_map fun _ => get_bind_eq_map fun l => ?_
  refine bind_eq_map fun x => bind_eq_map fun p => bind_eq_map fun _ => bind_eq_map fun _ => ?_
  refine bind_eq_map fun _ => bind_eq_map fun reached => ?_
  cases reached with
  | true => rfl
  | false =>
    exact map_bind_eq_map prepare_answeredBy fun _ => rfl

lemma Fund.decideRipcord_answeredBy :
    (f.answeredBy ans).decideRipcord name = (f.decideRipcord name).map (·.answeredBy ans) := by
  refine bind_eq_map fun _ => get_bind_eq_map fun l => bind_eq_map fun p => ?_
  refine bind_eq_map fun _ => bind_eq_map fun _ => ?_
  exact prepare_answeredBy

lemma Fund.decideDisengage_answeredBy :
    (f.answeredBy ans).decideDisengage caller name
      = (f.decideDisengage caller name).map (·.answeredBy ans) := by
  refine bind_eq_map fun _ => bind_eq_map fun _ => get_bind_eq_map fun l => ?_
  refine bind_eq_map fun p => bind_eq_map fun _ => bind_eq_map fun chunk => ?_
  dsimp only
  split
  · refine bind_eq_map fun unwind => ?_
    cases unwind with
    | some sale => rfl
    | none => exact bind_eq_map fun _ => rfl
  · refine bind_eq_map fun unwind => ?_
    cases unwind with
    | some sale => rfl
    | none => exact bind_eq_map fun _ => rfl

end Answers

/-! ### A call as a dialogue -/

/-- The call of the given kind. -/
def TradeKind.call (caller : Address) (venue : String) : TradeKind → Call
  | .engage => .engage caller venue
  | .rebalance => .rebalance caller venue
  | .iterate => .iterate caller venue
  | .ripcord => .ripcord caller venue
  | .disengage => .disengage caller venue

/-- What is made of a venue's answer to the order of a trade. -/
def Trade.accept (t : Trade) (a : Assets) (o : Order) (answer : Outcome ℕ) : Outcome Fill := do
  let received ← answer
  if received < o.minOut then
    let got ← Decimal.ofUnits received (a.decimalsOut o.direction)
    throw (.refused (Venue.fault t.listing.venue.name (.shortFill got t.plan.minOut)))
  return ⟨o, received⟩

namespace Fund

/-- Enters a fill in the ledger and reports it. -/
def enter (f : Fund) (t : Trade) (x : Fill) : Fund × Outcome Report :=
  f.attempt (f.ledger.commit x.order.direction x.order.amountIn x.received : Checked Ledger)
    fun ledger =>
      ({ f with ledger } : Fund).attempt (x.amounts f.assets) fun (collateral, borrow) =>
        (f.settled t ledger, .ok ((f.settled t ledger).report t collateral borrow))

/-- Ends a call once it is known what has been filled of its trade. -/
def conclude (f : Fund) (t : Trade) (c : Call) (x : Outcome Fill) : Fund × Outcome Answer :=
  match f.attempt x (f.enter t) with
  | (g, .ok r) => g.finish t r c
  | (g, .error e) => (g, .error e)

/-- The dialogue that a call that trades comes down to. -/
def dialogue (f : Fund) (c : Call) : Dialogue (Fund × Outcome Answer) :=
  match f.tradeOf? c with
  | none => .done (f.call c)
  | some t =>
    match t.plan.order f.assets t.listing.terms with
    | .error r => .done (f.fail (.refused r))
    | .ok o => .ask t.venue o fun answer => .done (f.conclude t c (t.accept f.assets o answer))

section

variable {f : Fund} {t : Trade} {c : Call} {ans : Answers} {kind : TradeKind} {caller : Address}
  {venue : String}

theorem Reachable.answeredBy_answers (hf : f.Reachable) : f.answeredBy f.answers = f :=
  congrArg (fun venues : Registry => ({ f with strategy := { f.strategy with venues } } : Fund))
    (Registry.answeredBy_answers hf.sound.venues)

lemma call_eq_conclude (h : f.tradeOf? c = some t) :
    f.call c = f.conclude t c (t.fill f.assets f.feeds) := call_of_tradeOf? h

lemma tradeOf?_answeredBy :
    (f.answeredBy ans).tradeOf? (kind.call caller venue)
      = (f.tradeOf? (kind.call caller venue)).map (·.answeredBy ans) := by
  have map_toOption : ∀ x : Outcome Trade,
      (x.map (·.answeredBy ans)).toOption = x.toOption.map (·.answeredBy ans) := by
    rintro (_ | _) <;> rfl
  cases kind with
  | engage => exact (congrArg _ decideEngage_answeredBy).trans (map_toOption _)
  | rebalance => exact (congrArg _ decideRebalance_answeredBy).trans (map_toOption _)
  | ripcord => exact (congrArg _ decideRipcord_answeredBy).trans (map_toOption _)
  | disengage => exact (congrArg _ decideDisengage_answeredBy).trans (map_toOption _)
  | iterate =>
    unfold TradeKind.call tradeOf?
    dsimp only
    rw [decideIterate_answeredBy]
    rcases f.decideIterate caller venue with _ | (_ | _) <;> rfl

/-- The same result, but for the answers of the venues. -/
def under {α : Type} (ans : Answers) (y : Fund × Outcome α) : Fund × Outcome α :=
  (y.1.answeredBy ans, y.2)

lemma attempt_answeredBy {α β : Type} {x : Outcome α} {act act' : α → Fund × Outcome β}
    (h : ∀ a, act' a = under ans (act a)) :
    (f.answeredBy ans).attempt x act' = under ans (f.attempt x act) := by
  cases x with
  | ok a => exact h a
  | error e => cases e <;> rfl

lemma settled_answeredBy {l : Ledger} :
    (f.answeredBy ans).settled (t.answeredBy ans) l = (f.settled t l).answeredBy ans :=
  congrArg (fun venues : Registry =>
    ({ f with
      ledger := l
      strategy := { f.strategy with venues, lastRebalance := f.now } } : Fund))
    Registry.stamp_answeredBy

lemma enter_answeredBy (x : Fill) :
    (f.answeredBy ans).enter (t.answeredBy ans) x = under ans (f.enter t x) := by
  refine attempt_answeredBy fun l => ?_
  refine attempt_answeredBy (f := { f with ledger := l }) fun (collateral, borrow) => ?_
  dsimp only
  rw [settled_answeredBy]
  rfl

lemma payBounty_answeredBy :
    (f.answeredBy ans).payBounty caller
      = ((f.payBounty caller).1.answeredBy ans, (f.payBounty caller).2) := by
  have hbounty : (f.answeredBy ans).bounty = f.bounty := rfl
  have hledger : (f.answeredBy ans).ledger = f.ledger := rfl
  unfold payBounty
  rw [hbounty, hledger]
  by_cases h : f.bounty ≤ Decimal.zero
  · rw [if_pos h, if_pos h]
  · rw [if_neg h, if_neg h]
    cases f.ledger.payReward caller f.bounty <;> rfl

lemma finish_ripcord (r : Report) :
    f.finish t r (.ripcord caller venue)
      = (((f.withTwap .idle).payBounty caller).1,
        .ok (.rescue ⟨r, caller, ((f.withTwap .idle).payBounty caller).2⟩)) := rfl

lemma finish_answeredBy (r : Report) :
    (f.answeredBy ans).finish (t.answeredBy ans) r c = under ans (f.finish t r c) := by
  cases c with
  | ripcord caller venue =>
    have h : ((f.answeredBy ans).withTwap .idle).payBounty caller
        = (((f.withTwap .idle).payBounty caller).1.answeredBy ans,
          ((f.withTwap .idle).payBounty caller).2) := payBounty_answeredBy (f := f.withTwap .idle)
    rw [finish_ripcord, finish_ripcord, h]
    rfl
  | _ => rfl

lemma conclude_answeredBy (x : Outcome Fill) :
    (f.answeredBy ans).conclude (t.answeredBy ans) c x = under ans (f.conclude t c x) := by
  unfold conclude
  rw [attempt_answeredBy enter_answeredBy]
  rcases f.attempt x (f.enter t) with ⟨g, e | r⟩
  · rfl
  · exact finish_answeredBy r

/-- A failed decision has the same consequences, however the venues answer. -/
lemma failed_answeredBy {α : Type} {x x' : Outcome Trade} (hx' : x' = x.map (·.answeredBy ans))
    (hx : x.toOption = none) {act act' : Trade → Fund × Outcome α} {into : α → Answer} :
    answering into ((f.answeredBy ans).attempt x' act')
      = under ans (answering into (f.attempt x act)) := by
  subst hx'
  cases x with
  | ok t => cases hx
  | error e => cases e <;> rfl

/-- Without a trade no venue is asked. -/
lemma call_answeredBy_of_no_trade (h : f.tradeOf? (kind.call caller venue) = none) :
    (f.answeredBy ans).call (kind.call caller venue)
      = under ans (f.call (kind.call caller venue)) := by
  cases kind with
  | engage => exact failed_answeredBy decideEngage_answeredBy h
  | rebalance => exact failed_answeredBy decideRebalance_answeredBy h
  | ripcord => exact failed_answeredBy decideRipcord_answeredBy h
  | disengage => exact failed_answeredBy decideDisengage_answeredBy h
  | iterate =>
    change answering _
        ((f.answeredBy ans).attempt ((f.answeredBy ans).decideIterate caller venue) _)
      = under ans (answering _ (f.attempt (f.decideIterate caller venue) _))
    rw [decideIterate_answeredBy]
    cases hd : f.decideIterate caller venue with
    | error e => cases e <;> rfl
    | ok n =>
      cases n with
      | trade t => exact absurd hd (not_trade_of_no_trade h)
      | clear target current => rfl

/-- **A call that trades is its dialogue**, however the venues answer. -/
theorem call_eq_dialogue :
    (f.answeredBy ans).call (kind.call caller venue)
      = under ans ((f.dialogue (kind.call caller venue)).outcome fun name => ans name f.feeds) := by
  unfold dialogue
  split
  next h => exact call_answeredBy_of_no_trade h
  next t h =>
    have h' : (f.answeredBy ans).tradeOf? (kind.call caller venue) = some (t.answeredBy ans) := by
      rw [tradeOf?_answeredBy, h]
      rfl
    have hfill : (t.answeredBy ans).fill f.assets f.feeds
        = (liftM (t.plan.order f.assets t.listing.terms) >>= fun o =>
          t.accept f.assets o (ans t.venue f.feeds o) : Outcome Fill) := rfl
    rw [call_eq_conclude h', conclude_answeredBy]
    change under ans (f.conclude t _ ((t.answeredBy ans).fill f.assets f.feeds)) = _
    rw [hfill]
    cases t.plan.order f.assets t.listing.terms <;> rfl

end

end Fund

/-! ### What is booked -/

/-- The amounts of a book, but for the bounties, stay as they are. -/
def Book.SameAmounts (k k' : Book) : Prop :=
  k'.collateral = k.collateral ∧ k'.debt = k.debt ∧ k'.idle = k.idle

lemma Book.SameAmounts.refl (k : Book) : k.SameAmounts k := ⟨rfl, rfl, rfl⟩

/-- The amounts of a book once an order is filled for `out`. -/
def Book.Books (k : Book) (o : Order) (out : ℕ) (k' : Book) : Prop :=
  match o.direction with
  | .lever =>
    k'.debt = k.debt + o.amountIn ∧ k'.collateral = k.collateral + out ∧ k'.idle = k.idle
  | .delever =>
    o.amountIn ≤ k.collateral ∧ k'.collateral = k.collateral - o.amountIn ∧
      k'.debt = k.debt - min out k.debt ∧ k'.idle = k.idle + (out - min out k.debt)

lemma Ledger.commit_books {l l' : Ledger} {o : Order} {out : ℕ}
    (h : l.commit o.direction o.amountIn out = .ok l') : l.book.Books o out l'.book := by
  obtain ⟨d, paid, minOut, route⟩ := o
  obtain ⟨-, k, rfl, hk⟩ := Ledger.commit_eq_ok h
  cases d with
  | lever =>
    obtain ⟨rfl, -, -⟩ := Book.lever_eq_ok hk
    exact ⟨rfl, rfl, rfl⟩
  | delever =>
    obtain ⟨repaid, hk⟩ := hk
    obtain ⟨hle, rfl, rfl, -⟩ := Book.delever_eq_ok hk
    exact ⟨hle, rfl, rfl, rfl⟩

lemma Ledger.payReward_amounts {l l' : Ledger} {payee : Address} {amount : Decimal}
    (h : l.payReward payee amount = .ok l') : l.book.SameAmounts l'.book := by
  obtain rfl := payReward_eq_ok h
  exact ⟨rfl, rfl, rfl⟩

namespace Fund

section

variable {f : Fund} {t : Trade} {c : Call} {x : Fill} {l : Ledger} {o : Order}

lemma payBounty_amounts (payee : Address) :
    f.ledger.book.SameAmounts (f.payBounty payee).1.ledger.book := by
  rcases payBounty_cases f payee with h | ⟨l, hl, -, h⟩
  · rw [h]
    exact Book.SameAmounts.refl _
  · rw [h]
    exact Ledger.payReward_amounts hl

lemma finish_amounts (r : Report) :
    f.ledger.book.SameAmounts (f.finish t r c).1.ledger.book := by
  cases c with
  | ripcord caller venue => exact payBounty_amounts (f := f.withTwap .idle) caller
  | _ => exact Book.SameAmounts.refl _

lemma fail_amounts {α : Type} (e : Failure) :
    f.ledger.book.SameAmounts (f.fail e : Fund × Outcome α).1.ledger.book := by
  cases e <;> exact Book.SameAmounts.refl _

/-- Once the ledger has the trade, nothing that follows touches the amounts. -/
lemma call_amounts_of_enters (h : f.tradeOf? c = some t) (hx : f.Enters t x l) :
    f.ledger.book.Books x.order x.received (f.call c).1.ledger.book := by
  have hb : f.ledger.book.Books x.order x.received l.book := Ledger.commit_books hx.commit
  have hsame : l.book.SameAmounts (f.call c).1.ledger.book := by
    rcases Nat.lt_or_ge x.received Decimal.bound with hlt | hge
    · obtain ⟨_, _, -, hs⟩ := settle_of_lt hx hlt
      rw [call_of_tradeOf? h, hs]
      exact finish_amounts _
    · rw [Overfills.call_eq ⟨h, hx, hge⟩]
      exact Book.SameAmounts.refl _
  obtain ⟨hc, hd, hi⟩ := hsame
  unfold Book.Books at hb ⊢
  rw [hc, hd, hi]
  exact hb

lemma call_amounts_of_not_enters (h : f.tradeOf? c = some t) (hx : ¬ ∃ x l, f.Enters t x l) :
    f.ledger.book.SameAmounts (f.call c).1.ledger.book := by
  obtain ⟨e, he⟩ := settle_of_not_enters hx
  rw [call_of_tradeOf? h, he]
  exact fail_amounts (α := Report) e

lemma call_amounts_of_no_trade (h : f.tradeOf? c = none) :
    f.ledger.book.SameAmounts (f.call c).1.ledger.book := by
  rcases call_of_no_trade h with ⟨e, he⟩ | ⟨g, a, hg, he⟩
  · rw [he]
    exact fail_amounts e
  · rw [he]
    cases hg with
    | withdrawn l caller paid => exact Ledger.payReward_amounts paid
    | _ => exact Book.SameAmounts.refl _

/-- The venue pays at least the minimum, and the ledger takes it. -/
def Takes (f : Fund) (o : Order) (answer : Outcome ℕ) (out : ℕ) : Prop :=
  answer = .ok out ∧ o.minOut ≤ out ∧ ∃ l, f.ledger.commit o.direction o.amountIn out = .ok l

/-- A trade gets into the ledger just if the ledger takes what the venue pays for its order. -/
lemma enters_iff (ho : t.plan.order f.assets t.listing.terms = .ok o) {out : ℕ} :
    (∃ l, f.Enters t ⟨o, out⟩ l) ↔ f.Takes o (t.listing.venue.answer f.feeds o) out := by
  constructor
  · rintro ⟨l, hx⟩
    obtain ⟨-, hanswer, hmin⟩ := Trade.fill_eq_ok hx.fill
    exact ⟨hanswer, hmin, l, hx.commit⟩
  · rintro ⟨hanswer, hmin, l, hl⟩
    refine ⟨l, ?_, hl⟩
    unfold Trade.fill
    rw [ho, lift_ok, ok_bind, hanswer, ok_bind, if_neg (Nat.not_lt.2 hmin)]
    rfl

lemma call_amounts_of_order (ht : f.tradeOf? c = some t)
    (ho : t.plan.order f.assets t.listing.terms = .ok o) :
    (∀ out, f.Takes o (t.listing.venue.answer f.feeds o) out →
        f.ledger.book.Books o out (f.call c).1.ledger.book) ∧
      ((∀ out, ¬ f.Takes o (t.listing.venue.answer f.feeds o) out) →
        f.ledger.book.SameAmounts (f.call c).1.ledger.book) := by
  constructor
  · intro out hout
    obtain ⟨l, hx⟩ := (enters_iff ho).2 hout
    exact call_amounts_of_enters ht hx
  · intro hno
    refine call_amounts_of_not_enters ht ?_
    rintro ⟨⟨o', out⟩, l, hx⟩
    obtain rfl : o = o' := Except.ok.inj (ho.symm.trans (Trade.fill_eq_ok hx.fill).1)
    exact hno out ((enters_iff ho).1 ⟨l, hx⟩)

lemma call_amounts_of_no_order (h : ∀ t o, f.tradeOf? c = some t →
    t.plan.order f.assets t.listing.terms ≠ .ok o) :
    f.ledger.book.SameAmounts (f.call c).1.ledger.book := by
  cases ht : f.tradeOf? c with
  | none => exact call_amounts_of_no_trade ht
  | some t =>
    refine call_amounts_of_not_enters ht ?_
    rintro ⟨x, l, hx⟩
    exact h t x.order ht (Trade.fill_eq_ok hx.fill).1

end

/-! ### What a call asks -/

section

variable {f : Fund} {t : Trade} {c : Call} {o : Order} {kind : TradeKind} {caller : Address}
  {venue : String}

/-- A call asks nobody unless it has decided on a trade and the order for it can be made out. -/
lemma dialogue_of_no_order (h : ∀ t o, f.tradeOf? c = some t →
    t.plan.order f.assets t.listing.terms ≠ .ok o) : ∃ y, f.dialogue c = .done y := by
  unfold dialogue
  split
  · exact ⟨_, rfl⟩
  next t ht =>
    split
    · exact ⟨_, rfl⟩
    next o ho => exact absurd ho (h t o ht)

/-- With an order made out, a call asks the venue of its trade to fill it, and nothing else. -/
lemma dialogue_of_order (ht : f.tradeOf? c = some t)
    (ho : t.plan.order f.assets t.listing.terms = .ok o) :
    f.dialogue c
      = .ask t.venue o fun answer => .done (f.conclude t c (t.accept f.assets o answer)) := by
  unfold dialogue
  rw [ht]
  dsimp only
  rw [ho]

lemma grounds_of_call (h : f.tradeOf? (kind.call caller venue) = some t) :
    f.Grounds kind venue t := by
  have hd := decides_of_tradeOf? h
  cases kind with
  | engage => exact hd.toGrounds
  | rebalance => exact hd.toGrounds
  | iterate => exact hd.toGrounds
  | ripcord => exact hd.toGrounds
  | disengage => exact hd.toGrounds

lemma call_of_callFor {a : Action} (hc : callFor caller venue a = some c) :
    ∃ kind : TradeKind, c = kind.call caller venue := by
  cases a with
  | rebalance => exact ⟨.rebalance, (Option.some.inj hc).symm⟩
  | iterate => exact ⟨.iterate, (Option.some.inj hc).symm⟩
  | ripcord => exact ⟨.ripcord, (Option.some.inj hc).symm⟩
  | none => cases hc

/-- A look of the keeper calls what an action amounts to. -/
lemma callFor_of_tick (h : f.callOf? (.tick caller) = some c) :
    ∃ venue a, callFor caller venue a = some c := by
  unfold callOf? at h
  dsimp only at h
  split at h
  · obtain ⟨⟨venue, a⟩, -, hc⟩ := Option.bind_eq_some_iff.1 h
    exact ⟨venue, a, hc⟩
  · cases h

/-- A call that trades fails once it has decided on nothing. -/
lemma fails_of_undecided (ht : f.tradeOf? (kind.call caller venue) = none)
    (hc : ∀ target current, f.decideIterate caller venue ≠ .ok (.clear target current)) :
    ∃ e, f.call (kind.call caller venue) = f.fail e := by
  have fails : ∀ {α β : Type} {decision : Outcome α} {act : α → Fund × Outcome β}
      {into : β → Answer}, (∀ d, decision ≠ .ok d) →
      ∃ e, answering into (f.attempt decision act) = f.fail e := by
    intro α β decision act into h
    obtain ⟨e, rfl⟩ := exists_error h
    exact ⟨e, rfl⟩
  cases kind with
  | engage => exact fails fun _ => not_ok_of_no_trade ht
  | rebalance => exact fails fun _ => not_ok_of_no_trade ht
  | iterate =>
    refine fails fun n hn => ?_
    cases n with
    | trade t => exact not_trade_of_no_trade ht hn
    | clear target current => exact hc target current hn
  | ripcord => exact fails fun _ => not_ok_of_no_trade ht
  | disengage => exact fails fun _ => not_ok_of_no_trade ht

/-- The order is that of the trade which the call has decided on, for the venue that it names: in
the direction of the trade, along the route agreed for that direction. -/
structure Sends (f : Fund) (c : Call) (venue : String) (t : Trade) (o : Order) : Prop where
  decided : f.tradeOf? c = some t
  listed : f.strategy.venues.find? venue = some t.listing
  order : t.plan.order f.assets t.listing.terms = .ok o
  direction : o.direction = t.plan.direction
  route : o.route = t.listing.terms.route t.plan.direction

lemma sends_of_order (ht : f.tradeOf? (kind.call caller venue) = some t)
    (ho : t.plan.order f.assets t.listing.terms = .ok o) :
    f.Sends (kind.call caller venue) venue t o := by
  obtain ⟨hdirection, hroute, -, -⟩ := Plan.order_eq_ok ho
  exact ⟨ht, (grounds_of_call ht).listed, ho, hdirection, hroute⟩

end

/-- **A venue can make a call book nothing but a fill at or above the minimum.**  However the venues
answer, a call that trades is its dialogue.  Either it asks nobody, and the amounts of the book stay
as they are; or it asks the venue that it names once, to fill the order of the chunk.  If the venue
pays at least the minimum and the ledger takes it, just this fill is booked; whatever else the venue
does, the amounts stay as they are. -/
theorem call_books_accepted_fill {f : Fund} (hf : f.Reachable) (kind : TradeKind)
    (caller : Address) (venue : String) (ans : Answers) :
    let c := kind.call caller venue
    let y := (f.answeredBy ans).call c
    let asked := (f.dialogue c).questions fun name => ans name f.feeds
    f.answeredBy f.answers = f ∧
      y = under ans ((f.dialogue c).outcome fun name => ans name f.feeds) ∧
      ((asked = [] ∧ f.ledger.book.SameAmounts y.1.ledger.book) ∨
        ∃ t o, asked = [(venue, o)] ∧ f.Sends c venue t o ∧
          (∀ a r, y.2 = .ok a → reportOf? a = some r → r.direction = o.direction) ∧
          (∀ out, f.Takes o (ans venue f.feeds o) out →
            f.ledger.book.Books o out y.1.ledger.book) ∧
          ((∀ out, ¬ f.Takes o (ans venue f.feeds o) out) →
            f.ledger.book.SameAmounts y.1.ledger.book)) := by
  intro c y asked
  refine ⟨hf.answeredBy_answers, call_eq_dialogue, ?_⟩
  have htrade : (f.answeredBy ans).tradeOf? c = (f.tradeOf? c).map (·.answeredBy ans) :=
    tradeOf?_answeredBy
  by_cases hsends : ∃ t o, f.tradeOf? c = some t ∧ t.plan.order f.assets t.listing.terms = .ok o
  · right
    obtain ⟨t, o, ht, ho⟩ := hsends
    have hs : f.Sends c venue t o := sends_of_order ht ho
    have hvenue : t.venue = venue := (grounds_of_call ht).venue_eq
    rw [ht] at htrade
    obtain ⟨hbooks, hsame⟩ := call_amounts_of_order (f := f.answeredBy ans) htrade ho
    change (∀ out, f.Takes o (ans t.venue f.feeds o) out → _) at hbooks
    change (∀ out, ¬ f.Takes o (ans t.venue f.feeds o) out) → _ at hsame
    rw [hvenue] at hbooks hsame
    refine ⟨t, o, ?_, hs, ?_, hbooks, hsame⟩
    · simp only [asked, dialogue_of_order ht ho, Dialogue.questions, hvenue]
    · intro a r ha hr
      obtain ⟨t', _, _, hx⟩ := executes_of_report ha hr
      obtain ⟨_, _, -, rfl⟩ := hx.report_eq
      obtain rfl : t.answeredBy ans = t' := Option.some.inj (htrade.symm.trans hx.decided)
      exact hs.direction.symm
  · left
    obtain ⟨y, hy⟩ := dialogue_of_no_order fun t o ht ho => hsends ⟨t, o, ht, ho⟩
    refine ⟨by simp only [asked, hy, Dialogue.questions], ?_⟩
    refine call_amounts_of_no_order fun t' o ht' ho => ?_
    obtain ⟨t, ht, rfl⟩ := Option.map_eq_some_iff.1 (htrade.symm.trans ht')
    exact hsends ⟨t, o, ht, ho⟩

/-- Venues that pay one unit less than the minimum. -/
def Trial.scant : Answers := fun _ _ o => .ok (o.minOut - 1)

/-- A venue that pays the minimum for the first chunk upward, and one that pays a unit less: the
first has its fill booked, the other changes nothing. -/
theorem call_books_accepted_fill_engage :
    let f := Trial.fund (Venue.exact "dex")
    f.ledger.book.Books ⟨.lever, 30000, 29400, []⟩ 29400
        (f.call (TradeKind.engage.call Trial.operator "dex")).1.ledger.book ∧
      f.ledger.book.SameAmounts ((f.answeredBy Trial.scant).call
        (TradeKind.engage.call Trial.operator "dex")).1.ledger.book := by
  intro f
  have hf : f.Reachable := Trial.reachable _
  constructor
  · have hasks : (f.dialogue (TradeKind.engage.call Trial.operator "dex")).questions
        (fun name => f.answers name f.feeds)
        = [("dex", ⟨.lever, 30000, 29400, []⟩)] := by decide +kernel
    obtain ⟨hself, -, ⟨hno, -⟩ | ⟨t, o, hasked, -, -, hbooks, -⟩⟩ :=
      call_books_accepted_fill hf .engage Trial.operator "dex" f.answers
    · cases hasks.symm.trans hno
    · obtain ⟨-, rfl⟩ := Prod.mk.inj (List.cons.inj (hasks.symm.trans hasked)).1
      have hcommit : (f.ledger.commit .lever 30000 29400).toOption.isSome = true := by
        decide +kernel
      obtain ⟨l, hl⟩ := Option.isSome_iff_exists.1 hcommit
      have hanswer : f.answers "dex" f.feeds ⟨.lever, 30000, 29400, []⟩ = .ok 29400 := rfl
      rw [hself] at hbooks
      exact hbooks 29400 ⟨hanswer, Nat.le_refl _, l, toOption_eq_some.1 hl⟩
  · have hasks : (f.dialogue (TradeKind.engage.call Trial.operator "dex")).questions
        (fun name => Trial.scant name f.feeds)
        = [("dex", ⟨.lever, 30000, 29400, []⟩)] := by decide +kernel
    obtain ⟨-, -, ⟨hno, -⟩ | ⟨t, o, hasked, -, -, -, hsame⟩⟩ :=
      call_books_accepted_fill hf .engage Trial.operator "dex" Trial.scant
    · cases hasks.symm.trans hno
    · obtain ⟨-, rfl⟩ := Prod.mk.inj (List.cons.inj (hasks.symm.trans hasked)).1
      refine hsame ?_
      rintro out ⟨hanswer, hmin, -⟩
      obtain rfl : 29400 - 1 = out := Except.ok.inj hanswer
      exact Nat.not_succ_le_self 29399 hmin

end Fund

end LeverageKeeper
