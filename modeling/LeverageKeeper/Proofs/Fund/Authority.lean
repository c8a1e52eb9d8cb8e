import LeverageKeeper.Proofs.Fund.Agreement
import LeverageKeeper.Proofs.Fund.Dialogue

/-!
Who may do what.  A call that is not its caller's to make is refused before anything else is looked
at, and changes nothing.  Who may do ordinary upkeep is what the operator last said, whatever else
has happened in between.  And without the operator an unlevered fund stays one: there is no debt to
rebalance, nothing to go on with, and at the ratio one no danger, so that nobody but the operator
can open a position.
-/

namespace LeverageKeeper

/-! ### Calls that need authority -/

namespace Call

/-- The caller of a call that only the operator may make, and the words for what it does. -/
def operatorOnly? : Call → Option (Address × String)
  | .engage caller _ => some (caller, "engage")
  | .disengage caller _ => some (caller, "disengage")
  | .setMethodology caller _ => some (caller, "set methodology")
  | .setExecution caller _ => some (caller, "set execution")
  | .setIncentive caller _ => some (caller, "set incentive")
  | .addVenue caller .. => some (caller, "add venue")
  | .updateVenue caller .. => some (caller, "update venue")
  | .removeVenue caller _ => some (caller, "remove venue")
  | .setCallerStatus caller .. => some (caller, "update allow-list")
  | .setAnyoneCallable caller _ => some (caller, "toggle anyone-callable")
  | .withdrawReward caller => some (caller, "withdraw reward")
  | .rebalance .. | .iterate .. | .ripcord .. | .depositReward _ => none

/-- The caller of a call that is for callers on the list, and the words for what it does. -/
def listOnly? : Call → Option (Address × String)
  | .rebalance caller _ => some (caller, "rebalance")
  | .iterate caller _ => some (caller, "iterate")
  | _ => none

/-- Whether the call, made by the operator, opens ordinary upkeep to everyone or closes it. -/
def opens? (operator : Address) : Call → Option Bool
  | .setAnyoneCallable caller isOpen => if caller = operator then some isOpen else none
  | _ => none

/-- Whether the call, made by the operator, puts an account on the list or takes it off. -/
def lists? (operator account : Address) : Call → Option Bool
  | .setCallerStatus caller a allowed =>
    if caller = operator ∧ a = account then some allowed else none
  | _ => none

end Call

namespace Step

/-- The call that a step is, if it is one; a look of the keeper is not. -/
def call? : Step → Option Call
  | .call c => some c
  | _ => none

def opens? (operator : Address) (s : Step) : Option Bool := s.call?.bind (·.opens? operator)

def lists? (operator account : Address) (s : Step) : Option Bool :=
  s.call?.bind (·.lists? operator account)

/-- The operator makes a call that only the operator may make. -/
def IsCommand (operator : Address) (s : Step) : Prop :=
  ∃ c action, s = .call c ∧ c.operatorOnly? = some (operator, action)

end Step

namespace Guard

variable {g : Guard} {caller account : Address} {b : Bool}

lemma setStatus_eq : g.setStatus caller account b
    = if caller = g.operator then .ok { g with list := g.list.set account b }
      else .error (.unauthorized caller "update allow-list") := by
  unfold setStatus requireOperator demand
  split <;> rfl

lemma setOpen_eq : g.setOpen caller b
    = if caller = g.operator then .ok { g with list := { g.list with anyoneCallable := b } }
      else .error (.unauthorized caller "toggle anyone-callable") := by
  unfold setOpen requireOperator demand
  split <;> rfl

end Guard

/-- An account stands on the list as it was last set. -/
lemma AccessList.contains_set {l : AccessList} (hl : l.allowed.Nodup) (account : Address)
    (b : Bool) (a : Address) :
    (l.set account b).allowed.contains a = if a = account then b else l.allowed.contains a := by
  rw [Bool.eq_iff_iff]
  cases b with
  | true =>
    simp only [set, ↓reduceIte, List.contains_iff_mem, List.mem_insert_iff]
    split <;> simp_all
  | false =>
    simp only [set, Bool.false_eq_true, ↓reduceIte, List.contains_iff_mem, hl.mem_erase_iff]
    split <;> simp_all

/-- A list as it is made has each account at most once. -/
lemma AccessList.nodup_ofList (callers : List Address) : (ofList callers).allowed.Nodup := by
  have key : ∀ xs : List Address, xs.Nodup →
      (callers.foldl (fun xs a => xs.insert a) xs).Nodup := by
    induction callers with
    | nil => exact fun _ h => h
    | cons a callers ih => exact fun xs h => ih _ h.insert
  exact key [] List.nodup_nil

lemma AccessList.mem_ofList {callers : List Address} {x : Address} :
    x ∈ (ofList callers).allowed ↔ x ∈ callers := by
  have key : ∀ xs : List Address,
      x ∈ callers.foldl (fun xs a => xs.insert a) xs ↔ x ∈ xs ∨ x ∈ callers := by
    induction callers with
    | nil => simp
    | cons a callers ih =>
      intro xs
      rw [List.foldl_cons, ih, List.mem_insert_iff, List.mem_cons, or_assoc, or_left_comm]
  exact (key []).trans (by simp)

lemma AccessList.nodup_set {l : AccessList} (hl : l.allowed.Nodup) (account : Address) (b : Bool) :
    (l.set account b).allowed.Nodup := by
  cases b with
  | true => exact hl.insert
  | false => exact hl.erase account

namespace Fund

section Refusals

variable {f : Fund} {c : Call} {caller : Address} {action : String}

/-- A decision that begins with a check that fails. -/
lemma attempt_refused {α β : Type} {check : Checked Unit} {rest : Unit → Outcome α}
    {act : α → Fund × Outcome β} {into : β → Answer} {r : Refusal} (h : check = .error r) :
    answering into (f.attempt (liftM check >>= rest) act) = (f, .error (.refused r)) := by
  rw [h]
  rfl

lemma requireOperator_error (h : caller ≠ f.guard.operator) (action : String) :
    f.guard.requireOperator caller action = .error (.unauthorized caller action) := if_neg h

lemma requireAllowed_error (h : f.guard.list.isAllowed caller = false) (action : String) :
    f.guard.requireAllowed caller action = .error (.unauthorized caller action) :=
  if_neg (by simp [h])

/-- **What only the operator may do is refused to everyone else**, halted or not. -/
theorem call_of_stranger (hc : c.operatorOnly? = some (caller, action))
    (h : caller ≠ f.guard.operator) :
    f.call c = (f, .error (.refused (.unauthorized caller action))) := by
  cases c with
  | setCallerStatus caller' account allowed =>
    cases hc
    change answering _ (f.changeGuard (f.guard.setStatus caller account allowed)) = _
    rw [Guard.setStatus_eq, if_neg h]
    rfl
  | setAnyoneCallable caller' isOpen =>
    cases hc
    change answering _ (f.changeGuard (f.guard.setOpen caller isOpen)) = _
    rw [Guard.setOpen_eq, if_neg h]
    rfl
  | rebalance | iterate | ripcord | depositReward => cases hc
  | _ =>
    cases hc
    exact attempt_refused (requireOperator_error h _)

/-- **Ordinary upkeep is refused to callers that are not on the list**, halted or not. -/
theorem call_of_unlisted (hc : c.listOnly? = some (caller, action))
    (h : f.guard.list.isAllowed caller = false) :
    f.call c = (f, .error (.refused (.unauthorized caller action))) := by
  cases c with
  | rebalance | iterate =>
    cases hc
    exact attempt_refused (requireAllowed_error h _)
  | _ => cases hc

end Refusals

/-! ### The list of callers -/

section List

variable {f : Fund}

/-- An attempt leaves of the fund what a failure and its act leave of it. -/
lemma attempt_fst {α β : Type} {P : Fund → Prop} {decision : Outcome α}
    {act : α → Fund × Outcome β} (hfail : ∀ e, P (f.afterFailure e)) (hact : ∀ a, P (act a).1) :
    P (f.attempt decision act).1 := by
  cases decision with
  | ok a => exact hact a
  | error e => exact hfail e

lemma afterFailure_guard (e : Failure) : (f.afterFailure e).guard = f.guard := by
  cases e <;> rfl

lemma attempt_guard {α β : Type} {decision : Outcome α} {act : α → Fund × Outcome β}
    (h : ∀ a, (act a).1.guard = f.guard) : (f.attempt decision act).1.guard = f.guard :=
  attempt_fst (P := fun g => g.guard = f.guard) afterFailure_guard h

lemma settle_guard (t : Trade) : (f.settle t).1.guard = f.guard :=
  attempt_guard fun _ => attempt_guard fun l =>
    attempt_guard (f := { f with ledger := l }) fun _ => rfl

lemma settleThen_guard {α : Type} {t : Trade} {act : Fund → Report → Fund × Outcome α}
    (h : ∀ g r, (act g r).1.guard = g.guard) : (f.settleThen t act).1.guard = f.guard := by
  have hs := settle_guard (f := f) t
  unfold settleThen
  revert hs
  rcases f.settle t with ⟨g, e | r⟩
  · exact id
  · exact (h g r).trans

lemma payBounty_guard (payee : Address) : (f.payBounty payee).1.guard = f.guard := by
  rcases payBounty_cases f payee with h | ⟨_, -, -, h⟩
  · rw [h]
  · rw [h]
    rfl

/-- A call that trades does not reach the list. -/
lemma call_guard_of_trade (kind : TradeKind) (caller : Address) (venue : String) :
    (f.call (kind.call caller venue)).1.guard = f.guard := by
  cases kind with
  | engage => exact attempt_guard fun _ => settleThen_guard fun _ _ => rfl
  | rebalance => exact attempt_guard fun _ => settleThen_guard fun _ _ => rfl
  | iterate =>
    refine attempt_guard fun n => ?_
    cases n with
    | trade t => exact settleThen_guard fun _ _ => rfl
    | clear target current => rfl
  | ripcord => exact attempt_guard fun _ => settleThen_guard fun _ _ => payBounty_guard _
  | disengage => exact attempt_guard fun _ => settleThen_guard fun _ _ => rfl

/-- How a guard comes to stand: the operator stays, and the list follows what was said. -/
structure Heeds (g g' : Guard) (opens : Option Bool) (lists : Address → Option Bool) : Prop where
  operator : g'.operator = g.operator
  nodup : g'.list.allowed.Nodup
  isOpen : g'.list.anyoneCallable = opens.getD g.list.anyoneCallable
  listed : ∀ a, g'.list.allowed.contains a = (lists a).getD (g.list.allowed.contains a)

variable (hl : f.guard.list.allowed.Nodup)

include hl

lemma heeds_of_eq {g : Guard} (h : g = f.guard) : Heeds f.guard g none fun _ => none := by
  subst h
  exact ⟨rfl, hl, rfl, fun _ => rfl⟩

lemma setCallerStatus_heeds (caller account : Address) (b : Bool) :
    Heeds f.guard (f.setCallerStatus caller account b).1.guard none fun a =>
      (Call.setCallerStatus caller account b).lists? f.guard.operator a := by
  unfold setCallerStatus changeGuard
  rw [Guard.setStatus_eq]
  by_cases hc : caller = f.guard.operator
  · rw [if_pos hc]
    refine ⟨rfl, AccessList.nodup_set hl account b, rfl, fun a => ?_⟩
    simp only [Call.lists?, hc, true_and, attempt_ok, lift_ok, AccessList.contains_set hl,
      eq_comm (a := account)]
    split <;> rfl
  · rw [if_neg hc]
    simp only [Call.lists?, hc, false_and, ↓reduceIte]
    exact heeds_of_eq hl rfl

lemma setAnyoneCallable_heeds (caller : Address) (b : Bool) :
    Heeds f.guard (f.setAnyoneCallable caller b).1.guard
      ((Call.setAnyoneCallable caller b).opens? f.guard.operator) fun _ => none := by
  unfold setAnyoneCallable changeGuard
  rw [Guard.setOpen_eq]
  by_cases hc : caller = f.guard.operator
  · rw [if_pos hc]
    refine ⟨rfl, hl, ?_, fun _ => rfl⟩
    simp only [Call.opens?, hc, ↓reduceIte]
    rfl
  · rw [if_neg hc]
    simp only [Call.opens?, hc, ↓reduceIte]
    exact heeds_of_eq hl rfl

/-- **What a call does to the list of callers**: what the operator says, and nothing else. -/
theorem call_heeds (c : Call) :
    Heeds f.guard (f.call c).1.guard (c.opens? f.guard.operator)
      fun a => c.lists? f.guard.operator a := by
  cases c with
  | engage caller venue => exact heeds_of_eq hl (call_guard_of_trade .engage caller venue)
  | rebalance caller venue => exact heeds_of_eq hl (call_guard_of_trade .rebalance caller venue)
  | iterate caller venue => exact heeds_of_eq hl (call_guard_of_trade .iterate caller venue)
  | ripcord caller venue => exact heeds_of_eq hl (call_guard_of_trade .ripcord caller venue)
  | disengage caller venue => exact heeds_of_eq hl (call_guard_of_trade .disengage caller venue)
  | setCallerStatus caller account b => exact setCallerStatus_heeds hl caller account b
  | setAnyoneCallable caller b => exact setAnyoneCallable_heeds hl caller b
  | withdrawReward caller =>
    refine heeds_of_eq hl (attempt_guard fun l => ?_)
    split <;> rfl
  | _ => exact heeds_of_eq hl (attempt_guard fun _ => rfl)

omit hl in
lemma around_guard {change : Checked Fund} (h : ∀ g, change = .ok g → g.guard = f.guard) :
    (f.around change).1.guard = f.guard := by
  rcases around_cases f change with he | he
  · rw [he]
  · exact h _ he

omit hl in
lemma event_guard (e : Event) : (f.event e).1.guard = f.guard := by
  cases e with
  | setPrice feed price time =>
    refine around_guard fun g hg => ?_
    obtain ⟨_, -, rfl⟩ := map_eq_ok.1 hg
    rfl
  | deposit amount =>
    refine around_guard fun g hg => ?_
    obtain ⟨_, -, rfl⟩ := map_eq_ok.1 hg
    rfl
  | _ => rfl

/-- **What a step does to the list of callers.** -/
theorem step_heeds (s : Step) :
    Heeds f.guard (f.step s).1.guard (s.opens? f.guard.operator)
      fun a => s.lists? f.guard.operator a := by
  cases s with
  | call c => exact call_heeds hl c
  | tick keeper =>
    refine heeds_of_eq hl ?_
    cases hc : f.callOf? (.tick keeper) with
    | some c =>
      obtain ⟨_, _, ha⟩ := callFor_of_tick hc
      obtain ⟨kind, rfl⟩ := call_of_callFor ha
      rw [step_of_callOf? hc]
      exact call_guard_of_trade kind _ _
    | none =>
      change (Keeper.tick f keeper).1.guard = _
      rcases tick_of_no_call hc with h | ⟨e, h⟩
      · rw [h]
      · rw [h, afterFailure_guard]
  | ask q =>
    refine heeds_of_eq hl ?_
    change (f.ask q).1.guard = _
    rcases ask_cases f q with h | ⟨e, h⟩
    · rw [h]
    · rw [h, afterFailure_guard]
  | event e => exact heeds_of_eq hl (event_guard e)

end List

/-! ### What was said last -/

/-- What the steps of a history say last, or what held at first. -/
def lastSaid (word? : Step → Option Bool) (first : Bool) (ss : List Step) : Bool :=
  (ss.filterMap word?).getLast?.getD first

lemma lastSaid_cons (word? : Step → Option Bool) (first : Bool) (s : Step) (ss : List Step) :
    lastSaid word? first (s :: ss) = lastSaid word? ((word? s).getD first) ss := by
  unfold lastSaid
  cases hs : word? s with
  | none => rw [List.filterMap_cons_none hs, Option.getD_none]
  | some b =>
    rw [List.filterMap_cons_some hs, List.getLast?_cons, Option.getD_some, Option.getD_some]

/-- **The list of callers after a history is what the operator said last.** -/
theorem list_after {f : Fund} (hl : f.guard.list.allowed.Nodup) (ss : List Step) :
    let op := f.guard.operator
    let g := (f.after ss).guard
    g.operator = op ∧
      g.list.anyoneCallable = lastSaid (·.opens? op) f.guard.list.anyoneCallable ss ∧
      ∀ a, g.list.allowed.contains a
        = lastSaid (·.lists? op a) (f.guard.list.allowed.contains a) ss := by
  induction ss generalizing f with
  | nil => exact ⟨rfl, rfl, fun _ => rfl⟩
  | cons s ss ih =>
    have hs := step_heeds hl s
    obtain ⟨hop, hopen, hlisted⟩ := ih hs.nodup
    rw [hs.operator] at hop hopen
    simp only [hs.operator] at hlisted
    intro op g
    refine ⟨hop, ?_, fun a => ?_⟩
    · rw [lastSaid_cons, ← hs.isOpen]
      exact hopen
    · rw [lastSaid_cons, ← hs.listed a]
      exact hlisted a

/-! ### Without the operator -/

/-- The registry once a step has changed the way a venue answers, if it does. -/
def turnedBy (r : Registry) : Step → Registry
  | .event (.turn venue answer) => r.turn venue answer
  | _ => r

/-- The collateral once a step has brought some in, if it does and there is room for it. -/
def suppliedBy (collateral : ℕ) : Step → ℕ
  | .event (.deposit amount) =>
    if collateral + amount < Book.capacity then collateral + amount else collateral
  | _ => collateral

/-- Nothing has moved but what reaches a fund from outside: venues that answer in another way,
collateral, and what is set aside for bounties. -/
structure Rests (f g : Fund) (venues : Registry) (collateral : ℕ) : Prop where
  guard : g.guard = f.guard
  strategy : g.strategy = { f.strategy with venues, reserve := g.strategy.reserve }
  book : g.ledger.book = { f.ledger.book with collateral }

section Quiet

variable {f g : Fund} {c : Call}

lemma Rests.refl (f : Fund) : f.Rests f f.strategy.venues f.ledger.book.collateral :=
  ⟨rfl, rfl, rfl⟩

lemma Rests.trans {h : Fund} {r r' : Registry} {n n' : ℕ} (hf : f.Rests g r n)
    (hg : g.Rests h r' n') : f.Rests h r' n' := by
  refine ⟨hg.guard.trans hf.guard, ?_, ?_⟩
  · have hs := hg.strategy
    rw [hf.strategy] at hs
    exact hs
  · have hb := hg.book
    rw [hf.book] at hb
    exact hb

lemma rests_afterFailure (e : Failure) :
    f.Rests (f.afterFailure e) f.strategy.venues f.ledger.book.collateral := by
  cases e <;> exact ⟨rfl, rfl, rfl⟩

variable (hd : f.ledger.book.debt = 0)

include hd

/-- Where nothing is owed, no position is engaged. -/
lemma not_engaged_of_no_debt {p : Position} (hp : f.position = .ok p) : p.isEngaged = false := by
  unfold position at hp
  simp only [bind_eq_ok, lift_eq_ok] at hp
  obtain ⟨_, -, b, hb, hp⟩ := hp
  have hunits := (Balances.position_eq_ok hp).debtUnits
  rw [Ledger.balances_eq_ok hb] at hunits
  have hz : p.debtUnits.toRat = 0 := by
    rw [(ofUnits_eq_ok hunits).2]
    simp [Book.balances, hd]
  simp [Position.isEngaged, Decimal.isZero_iff.2 hz]

/-- **Without debt no call trades but `engage`**: there is nothing to rebalance, to go on with or to
unwind, and at the ratio one there is no danger. -/
theorem fails_of_no_debt (hs : f.Sound) {kind : TradeKind} (hk : kind ≠ .engage)
    (caller : Address) (venue : String) : ∃ e, f.call (kind.call caller venue) = f.fail e := by
  apply fails_of_undecided
  · cases ht : f.tradeOf? (kind.call caller venue) with
    | none => rfl
    | some t =>
      exfalso
      have hp := (grounds_of_call ht).position
      have hn := not_engaged_of_no_debt hd hp
      have hg := decides_of_tradeOf? ht
      cases kind with
      | engage => exact hk rfl
      | rebalance => exact Bool.false_ne_true (hn.symm.trans hg.engaged)
      | iterate => exact Bool.false_ne_true (hn.symm.trans hg.engaged)
      | ripcord => exact Decimal.not_lt.2 hg.danger (hs.lt_ratio_of_not_engaged hp hn)
      | disengage => exact Bool.false_ne_true (hn.symm.trans hg.engaged)
  · intro target current hc
    obtain ⟨p, hp, he, -⟩ := decideIterate_position hc
    exact Bool.false_ne_true ((not_engaged_of_no_debt hd hp).symm.trans he)

lemma rests_of_trade (hs : f.Sound) {kind : TradeKind} (hk : kind ≠ .engage) (caller : Address)
    (venue : String) :
    f.Rests (f.call (kind.call caller venue)).1 f.strategy.venues f.ledger.book.collateral := by
  obtain ⟨e, he⟩ := fails_of_no_debt hd hs hk caller venue
  rw [he]
  exact rests_afterFailure e

/-- A call that the operator does not command leaves an unlevered fund at rest. -/
theorem call_rests (hs : f.Sound)
    (hc : ∀ action, c.operatorOnly? ≠ some (f.guard.operator, action)) :
    f.Rests (f.call c).1 f.strategy.venues f.ledger.book.collateral := by
  cases h : c.operatorOnly? with
  | some x =>
    obtain ⟨caller, action⟩ := x
    have hne : caller ≠ f.guard.operator := by
      rintro rfl
      exact hc action h
    rw [call_of_stranger h hne]
    exact Rests.refl f
  | none =>
    cases c with
    | rebalance caller venue =>
      exact rests_of_trade (f := f) hd hs (nofun : TradeKind.rebalance ≠ .engage) caller venue
    | iterate caller venue =>
      exact rests_of_trade (f := f) hd hs (nofun : TradeKind.iterate ≠ .engage) caller venue
    | ripcord caller venue =>
      exact rests_of_trade (f := f) hd hs (nofun : TradeKind.ripcord ≠ .engage) caller venue
    | depositReward amount =>
      cases hr : f.decideDeposit amount with
      | ok reserve =>
        rw [call, depositReward, hr]
        exact ⟨rfl, rfl, rfl⟩
      | error e =>
        rw [call, depositReward, hr]
        exact rests_afterFailure e
    | _ => cases h

omit hd in
lemma operatorOnly?_of_callFor {keeper : Address} {venue : String} {a : Action}
    (h : callFor keeper venue a = some c) : c.operatorOnly? = none := by
  cases a <;> cases h <;> rfl

omit hd in
/-- **What happens around a fund reaches** the clock, the feeds, what is out of order in the ledger,
the way that venues answer, and the collateral. -/
theorem event_eq (e : Event) :
    ∃ now feeds outage blind, (f.event e).1 =
      { f with
        now, feeds
        strategy := { f.strategy with venues := turnedBy f.strategy.venues (.event e) }
        ledger :=
          { f.ledger with
            outage, blind
            book :=
              { f.ledger.book with
                collateral := suppliedBy f.ledger.book.collateral (.event e) } } } := by
  cases e with
  | advance seconds => exact ⟨f.now + seconds, _, _, _, rfl⟩
  | setTime now => exact ⟨now, _, _, _, rfl⟩
  | setPrice feed price time =>
    change ∃ _ _ _ _, (f.around _).1 = _
    rcases around_cases f ((f.feeds.setPrice feed price f.assets.oracleDecimals
      (time.getD f.now)).map fun feeds => { f with feeds }) with h | h
    · exact ⟨_, f.feeds, _, _, h⟩
    · obtain ⟨feeds, -, h⟩ := map_eq_ok.1 h
      exact ⟨_, feeds, _, _, h.symm⟩
  | setReading feed reading => exact ⟨_, f.feeds.set feed reading, _, _, rfl⟩
  | touch feed time => exact ⟨_, (f.feeds.touch feed time).1, _, _, rfl⟩
  | deposit amount =>
    simp only [event, suppliedBy, turnedBy, Ledger.deposit, Book.deposit, Book.sum]
    by_cases hroom : f.ledger.book.collateral + amount < Book.capacity
    · rw [if_pos hroom, if_pos hroom]
      exact ⟨_, _, _, _, rfl⟩
    · rw [if_neg hroom, if_neg hroom]
      exact ⟨_, _, _, _, rfl⟩
  | outage o => exact ⟨_, _, o, false, rfl⟩
  | turn venue answer => exact ⟨_, _, _, _, rfl⟩

omit hd in
/-- Whatever happens around a fund, it stays at rest but for what comes in from there. -/
lemma event_rests (e : Event) :
    f.Rests (f.event e).1 (turnedBy f.strategy.venues (.event e))
      (suppliedBy f.ledger.book.collateral (.event e)) := by
  obtain ⟨now, feeds, outage, blind, h⟩ := event_eq (f := f) e
  rw [h]
  exact ⟨rfl, rfl, rfl⟩

/-- **A step without the operator leaves an unlevered fund at rest.** -/
theorem step_rests (hs : f.Sound) {s : Step} (hq : ¬ s.IsCommand f.guard.operator) :
    f.Rests (f.step s).1 (turnedBy f.strategy.venues s)
      (suppliedBy f.ledger.book.collateral s) := by
  cases s with
  | call c => exact call_rests hd hs fun action hc => hq ⟨c, action, rfl, hc⟩
  | tick keeper =>
    cases hc : f.callOf? (.tick keeper) with
    | some c =>
      obtain ⟨venue, a, ha⟩ := callFor_of_tick hc
      rw [step_of_callOf? hc]
      refine call_rests hd hs fun action h => ?_
      rw [operatorOnly?_of_callFor ha] at h
      cases h
    | none =>
      change f.Rests (Keeper.tick f keeper).1 f.strategy.venues f.ledger.book.collateral
      rcases tick_of_no_call hc with h | ⟨e, h⟩
      · rw [h]
        exact Rests.refl f
      · rw [h]
        exact rests_afterFailure e
  | ask q =>
    change f.Rests (f.ask q).1 f.strategy.venues f.ledger.book.collateral
    rcases ask_cases f q with h | ⟨e, h⟩
    · rw [h]
      exact Rests.refl f
    · rw [h]
      exact rests_afterFailure e
  | event e => exact event_rests e

/-- **Without the operator an unlevered fund stays at rest.** -/
theorem after_rests (hs : f.Sound) {ss : List Step}
    (hq : ∀ s ∈ ss, ¬ s.IsCommand f.guard.operator) :
    f.Rests (f.after ss) (ss.foldl turnedBy f.strategy.venues)
      (ss.foldl suppliedBy f.ledger.book.collateral) := by
  induction ss generalizing f with
  | nil => exact Rests.refl f
  | cons s ss ih =>
    have hstep := step_rests hd hs (hq s List.mem_cons_self)
    have hdebt : (f.step s).1.ledger.book.debt = 0 := by
      rw [hstep.book]
      exact hd
    have hrest := ih hdebt (hs.step s) fun s' hs' => by
      rw [hstep.guard]
      exact hq s' (List.mem_cons_of_mem _ hs')
    rw [hstep.strategy, hstep.book] at hrest
    exact hstep.trans hrest

end Quiet

/-- A venue that answers in another way keeps its name and what is agreed for it. -/
lemma turned_terms (r : Registry) (ss : List Step) :
    ((ss.foldl turnedBy r).entries.map fun e => (e.1, e.2.terms))
      = r.entries.map fun e => (e.1, e.2.terms) := by
  induction ss generalizing r with
  | nil => rfl
  | cons s ss ih =>
    rw [List.foldl_cons, ih]
    unfold turnedBy
    split
    · rw [Registry.turn, List.map_map]
      apply List.map_congr_left
      intro e _
      dsimp only [Function.comp_apply]
      split <;> rfl
    · rfl

/-- Somebody who is neither the operator nor on the list. -/
def Trial.stranger : Address := ⟨7⟩

/-- **Authority.**  Halted or not, what only the operator may do is refused to everyone else, and
ordinary upkeep to everyone who is not on the list; such a refusal changes nothing.  After any
history a caller may do ordinary upkeep just if the operator last opened it to everyone, or last put
the caller on the list.  A fund that owes nothing stays as it is for as long as the operator
commands nothing: settings, a trade under way, the venues and what is agreed for them, every time of
a trade, debt and idle amounts are the same, and collateral only comes in from outside. -/
theorem authority {f : Fund} (hf : f.Reachable) :
    let op := f.guard.operator
    let list := f.guard.list
    (∀ c caller action, c.operatorOnly? = some (caller, action) → caller ≠ op →
        f.call c = (f, .error (.refused (.unauthorized caller action)))) ∧
      (∀ c caller action, c.listOnly? = some (caller, action) → list.isAllowed caller = false →
        f.call c = (f, .error (.refused (.unauthorized caller action)))) ∧
      (list.allowed.Nodup → ∀ ss caller,
        (f.after ss).guard.list.isAllowed caller
          = (lastSaid (·.opens? op) list.anyoneCallable ss ||
            lastSaid (·.lists? op caller) (list.allowed.contains caller) ss)) ∧
      (f.ledger.book.debt = 0 → ∀ ss, (∀ s ∈ ss, ¬ s.IsCommand op) →
        f.Rests (f.after ss) (ss.foldl turnedBy f.strategy.venues)
            (ss.foldl suppliedBy f.ledger.book.collateral) ∧
          ((f.after ss).strategy.venues.entries.map fun e => (e.1, e.2.terms))
            = f.strategy.venues.entries.map fun e => (e.1, e.2.terms)) := by
  intro op list
  refine ⟨fun _ _ _ => call_of_stranger, fun _ _ _ => call_of_unlisted, ?_, ?_⟩
  · intro hl ss caller
    obtain ⟨-, hopen, hlisted⟩ := list_after hl ss
    rw [AccessList.isAllowed, hopen, hlisted caller]
  · intro hd ss hq
    have hrest := after_rests hd hf.sound hq
    refine ⟨hrest, ?_⟩
    rw [hrest.strategy]
    exact turned_terms _ ss

/-- A stranger can open no position, by whatever call, in a fund that owes nothing; may do upkeep
while that is open, and is refused once it is closed, until the operator lists the stranger. -/
theorem authority_unlevered :
    let f := Trial.fund (Venue.exact "dex")
    let op := Trial.operator
    let closed := f.after [.call (.setAnyoneCallable op false)]
    f.call (.engage Trial.stranger "dex")
        = (f, .error (.refused (.unauthorized Trial.stranger "engage"))) ∧
      closed.call (.rebalance Trial.stranger "dex")
        = (closed, .error (.refused (.unauthorized Trial.stranger "rebalance"))) ∧
      (f.after [.call (.setAnyoneCallable op false),
        .call (.setCallerStatus op Trial.stranger true),
        .call (.setCallerStatus Trial.stranger op false)]).guard.list.isAllowed Trial.stranger
          = true ∧
      (f.after [.call (.engage Trial.stranger "dex"), .call (.ripcord Trial.stranger "dex"),
        .event (.deposit 5), .tick Trial.stranger]).ledger.book
          = { f.ledger.book with collateral := 100005 } := by
  intro f op closed
  have hf : f.Reachable := Trial.reachable _
  obtain ⟨hop, -, hsaid, hrests⟩ := authority hf
  obtain ⟨-, hlist, -⟩ := authority (hf.after [.call (.setAnyoneCallable op false)])
  refine ⟨?_, ?_, ?_, ?_⟩
  · exact hop (.engage Trial.stranger "dex") _ _ rfl (by decide)
  · exact hlist (.rebalance Trial.stranger "dex") _ _ rfl (by decide +kernel)
  · exact (hsaid (AccessList.nodup_ofList [op]) _ _).trans (by decide)
  · refine (hrests (by decide +kernel) _ ?_).1.book
    intro s hs
    rintro ⟨c, action, rfl, hc⟩
    simp only [List.mem_cons, Step.call.injEq, reduceCtorEq, List.not_mem_nil, or_false] at hs
    rcases hs with rfl | rfl
    · cases hc
    · cases hc

end Fund

end LeverageKeeper
