import LeverageKeeper.Proofs.Fund.Authority

/-!
What a crash leaves behind.  A step that crashes while it has the strategy leaves everything as it
was, but for the fund being halted.  From then on every step that needs the strategy is refused, be
it for want of authority, for a deposit of nothing, or because the fund is halted; the strategy and
the book stay as they are, whatever else is tried, and only what reaches a fund from outside still
reaches it: venues that answer in another way, and collateral.
-/

namespace LeverageKeeper

/-! ### Steps that need the strategy -/

/-- All calls need the strategy but those that change the list of callers. -/
def Call.needsStrategy : Call → Bool
  | .setCallerStatus .. | .setAnyoneCallable .. => false
  | _ => true

/-- The ratio and the position follow from prices and balances alone, and the list, the operator
and the assets are not the strategy's. -/
def Question.needsStrategy : Question → Bool
  | .actions | .preview _ | .settings | .terms _ => true
  | .leverage | .position | .accessList | .operator | .assets => false

def Step.needsStrategy : Step → Bool
  | .call c => c.needsStrategy
  | .tick _ => true
  | .ask q => q.needsStrategy
  | .event _ => false

/-- What a call is refused for before the strategy is looked at, if it is. -/
def Call.refusedAtOnce? (g : Guard) : Call → Option Refusal
  | .depositReward amount =>
    if Decimal.zero < amount then none else some (.invalidSettings (.notPositive amount))
  | c =>
    match c.operatorOnly?, c.listOnly? with
    | some (caller, action), _ =>
      if caller = g.operator then none else some (.unauthorized caller action)
    | none, some (caller, action) =>
      if g.list.isAllowed caller then none else some (.unauthorized caller action)
    | none, none => none

/-- What a halted fund refuses a step for that needs the strategy. -/
def Step.refusedFor (g : Guard) : Step → Refusal
  | .call c => (c.refusedAtOnce? g).getD .halted
  | _ => .halted

namespace Fund

/-- The fund once it is halted. -/
def halt (f : Fund) : Fund := { f with halted := true }

section Crash

variable {f : Fund} {c : Call} {e : Crash}

/-! ### The step that crashes -/

/-- A call crashes without having done anything. -/
lemma call_of_crash (h : (f.call c).2 = .error (.crashed e)) : (f.call c).1 = f.halt := by
  rcases call_cases f c with ⟨e', he⟩ | ⟨t, x, l, ho⟩ | ⟨t, x, l, r, hx⟩ | ⟨g, a, -, he⟩
  · rw [he] at h ⊢
    cases h
    rfl
  -- once the ledger has the trade nothing crashes
  · rw [ho.call_eq] at h
    cases h
  · rw [hx.call_eq] at h
    unfold finish at h
    split at h <;> cases h
  · rw [he] at h
    cases h

lemma look_of_crash {α : Type} {decision : Outcome α}
    (h : (f.look decision).2 = .error (.crashed e)) : (f.look decision).1 = f.halt := by
  cases decision with
  | ok a => cases h
  | error e' =>
    cases h
    rfl

lemma crash_of_perform {keeper : Address} {venue : String} {a : Action}
    (h : (Keeper.perform f keeper venue a).2 = .error (.crashed e)) :
    ∃ c, callFor keeper venue a = some c ∧ (f.call c).2 = .error (.crashed e) := by
  cases a with
  | none => cases h
  | _ => exact ⟨_, rfl, map_eq_error.2 (map_eq_error.1 h)⟩

lemma conclude_of_crash {venue : String} {a : Action} {r : Outcome (Option Decimal)}
    (h : Keeper.conclude venue a r = .error (.crashed e)) : r = .error (.crashed e) := by
  rcases r with (r | e') | leverageAfter
  · simp only [Keeper.conclude] at h
    split at h <;> cases h
  · cases h
    rfl
  · cases h

lemma tick_of_crash {keeper : Address} (h : (Keeper.tick f keeper).2 = .error (.crashed e)) :
    (Keeper.tick f keeper).1 = f.halt := by
  unfold Keeper.tick at h ⊢
  cases ha : f.actions with
  | error e' =>
    rw [ha] at h
    cases h
    rfl
  | ok actions =>
    rw [ha, attempt_ok] at h
    rw [attempt_ok]
    cases hp : Keeper.pick? actions with
    | none =>
      rw [hp] at h
      cases h
    | some p =>
      rw [hp] at h
      obtain ⟨venue, a⟩ := p
      obtain ⟨c, hc, hcrash⟩ := crash_of_perform (conclude_of_crash h)
      exact (perform_of_callFor hc).trans (call_of_crash hcrash)

/-- **A step that crashes while it has the strategy leaves everything as it was**, and the fund
halted. -/
theorem step_of_crash {s : Step} (hs : s.needsStrategy = true)
    (h : (f.step s).2 = .error (.crashed e)) : (f.step s).1 = f.halt := by
  cases s with
  | call c => exact call_of_crash h
  | tick keeper => exact tick_of_crash (map_eq_error.1 h)
  | ask q =>
    cases q with
    | actions => exact look_of_crash h
    | preview venue => exact look_of_crash h
    | settings => exact look_of_crash h
    | terms venue => exact look_of_crash h
    | _ => cases hs
  | event e => cases hs

/-- A crash of the venue that is asked to fill an order is one of the call. -/
theorem call_of_venue_crash {t : Trade} {o : Order} (ht : f.tradeOf? c = some t)
    (ho : t.plan.order f.assets t.listing.terms = .ok o)
    (hv : t.listing.venue.answer f.feeds o = .error (.crashed e)) :
    f.call c = (f.halt, .error (.crashed e)) := by
  have hfill : t.fill f.assets f.feeds = .error (.crashed e) := by
    unfold Trade.fill
    rw [ho, lift_ok, ok_bind, hv]
    rfl
  rw [call_of_tradeOf? ht, settle, hfill]
  rfl

end Crash

section Halted

variable {f : Fund} (hf : f.halted = true)

include hf

/-! ### Steps of a halted fund -/

lemma requireLive_error : f.requireLive = .error .halted := by
  unfold requireLive demand
  rw [hf]
  rfl

/-- A decision that looks at the strategy once its first check has passed. -/
lemma attempt_halted {α β : Type} {check : Checked Unit} {rest : Unit → Outcome α}
    {act : α → Fund × Outcome β} {into : β → Answer} (h : check = .ok ()) :
    answering into (f.attempt (liftM check >>= fun _ => liftM f.requireLive >>= rest) act)
      = (f, .error (.refused .halted)) := by
  rw [h, requireLive_error hf]
  rfl

/-- What only the operator may do is refused even to the operator. -/
lemma call_of_halted_operator {c : Call} (hc : c.needsStrategy = true) {action : String}
    (h : c.operatorOnly? = some (f.guard.operator, action)) :
    f.call c = (f, .error (.refused .halted)) := by
  have hcheck : ∀ action, f.guard.requireOperator f.guard.operator action = .ok () :=
    fun _ => if_pos rfl
  cases c with
  | setCallerStatus | setAnyoneCallable => cases hc
  | rebalance | iterate | ripcord | depositReward => cases h
  | _ =>
    cases h
    exact attempt_halted hf (hcheck _)

lemma call_of_halted_listed {c : Call} {caller : Address} {action : String}
    (h : c.listOnly? = some (caller, action)) (hl : f.guard.list.isAllowed caller = true) :
    f.call c = (f, .error (.refused .halted)) := by
  have hcheck : ∀ action, f.guard.requireAllowed caller action = .ok () := fun _ => if_pos hl
  cases c with
  | rebalance | iterate =>
    cases h
    exact attempt_halted hf (hcheck _)
  | _ => cases h

lemma depositReward_of_halted (amount : Decimal) :
    f.call (.depositReward amount) = (f, .error (.refused
      (((Call.depositReward amount).refusedAtOnce? f.guard).getD .halted))) := by
  unfold Call.refusedAtOnce?
  dsimp only
  split
  next hp => exact attempt_halted hf (if_pos hp)
  next hp => exact attempt_refused (if_neg hp)

/-- **A halted fund refuses every call that needs the strategy.** -/
theorem call_of_halted {c : Call} (hc : c.needsStrategy = true) :
    f.call c = (f, .error (.refused ((c.refusedAtOnce? f.guard).getD .halted))) := by
  cases ho : c.operatorOnly? with
  | some x =>
    obtain ⟨caller, action⟩ := x
    have hfirst : c.refusedAtOnce? f.guard
        = if caller = f.guard.operator then none else some (.unauthorized caller action) := by
      cases c <;> cases ho <;> rfl
    rw [hfirst]
    split
    next h =>
      subst h
      exact call_of_halted_operator hf hc ho
    next h => exact call_of_stranger ho h
  | none =>
    cases hl : c.listOnly? with
    | some x =>
      obtain ⟨caller, action⟩ := x
      have hfirst : c.refusedAtOnce? f.guard
          = if f.guard.list.isAllowed caller then none
            else some (.unauthorized caller action) := by
        cases c <;> cases hl <;> rfl
      rw [hfirst]
      split
      next h => exact call_of_halted_listed hf hl h
      next h => exact call_of_unlisted hl (Bool.eq_false_iff.2 h)
    | none =>
      cases c with
      | ripcord caller venue => exact attempt_refused (requireLive_error hf)
      | depositReward amount => exact depositReward_of_halted hf amount
      | rebalance | iterate => cases hl
      | _ => cases ho

/-- **A halted fund refuses every step that needs the strategy**, and stays as it is. -/
theorem step_of_halted {s : Step} (hs : s.needsStrategy = true) :
    f.step s = (f, .error (.refused (s.refusedFor f.guard))) := by
  cases s with
  | call c => exact call_of_halted hf hs
  | tick keeper => exact attempt_refused (requireLive_error hf)
  | ask q =>
    have hlook : ∀ {α : Type} (rest : Unit → Outcome α) (into : α → Answer),
        f.look ((liftM f.requireLive >>= rest).map into) = (f, .error (.refused .halted)) := by
      intro α rest into
      rw [requireLive_error hf]
      rfl
    cases q with
    | actions => exact hlook _ _
    | preview venue => exact hlook _ _
    | settings => exact hlook _ _
    | terms venue => exact hlook _ _
    | _ => cases hs
  | event e => cases hs

/-- What the strategy keeps is kept from everyone. -/
lemma kept_of_halted {α : Type} (part : Strategy → Checked α) :
    f.kept part = .error (.refused .halted) := by
  unfold kept
  rw [requireLive_error hf]
  rfl

end Halted

/-! ### Histories of a halted fund -/

/-- The fund is still halted, and nothing has moved but what reaches it from outside: venues that
answer in another way, and collateral. -/
structure Stands (f g : Fund) (venues : Registry) (collateral : ℕ) : Prop where
  halted : g.halted = true
  strategy : g.strategy = { f.strategy with venues }
  book : g.ledger.book = { f.ledger.book with collateral }

section Stands

variable {f g : Fund}

lemma Stands.trans {h : Fund} {r r' : Registry} {n n' : ℕ} (hf : f.Stands g r n)
    (hg : g.Stands h r' n') : f.Stands h r' n' := by
  refine ⟨hg.halted, ?_, ?_⟩
  · rw [hg.strategy, hf.strategy]
  · rw [hg.book, hf.book]

variable (hf : f.halted = true)

include hf

lemma Stands.refl : f.Stands f f.strategy.venues f.ledger.book.collateral := ⟨hf, rfl, rfl⟩

lemma stands_of_changeGuard (decision : Checked Guard) :
    f.Stands (f.changeGuard decision).1 f.strategy.venues f.ledger.book.collateral := by
  cases decision with
  | ok g => exact ⟨hf, rfl, rfl⟩
  | error r => exact Stands.refl hf

/-- **A step leaves a halted fund standing.** -/
theorem stands_step (s : Step) :
    f.Stands (f.step s).1 (turnedBy f.strategy.venues s)
      (suppliedBy f.ledger.book.collateral s) := by
  cases s with
  | call c =>
    cases hc : c.needsStrategy with
    | true =>
      rw [step_of_halted hf (s := .call c) hc]
      exact Stands.refl hf
    | false =>
      cases c with
      | setCallerStatus caller account b => exact stands_of_changeGuard hf _
      | setAnyoneCallable caller b => exact stands_of_changeGuard hf _
      | _ => cases hc
  | tick keeper =>
    rw [step_of_halted hf rfl]
    exact Stands.refl hf
  | ask q =>
    cases hq : q.needsStrategy with
    | true =>
      rw [step_of_halted hf (s := .ask q) hq]
      exact Stands.refl hf
    | false =>
      cases q with
      | leverage | position | accessList | operator | assets => exact Stands.refl hf
      | _ => cases hq
  | event e =>
    obtain ⟨now, feeds, outage, blind, h⟩ := event_eq (f := f) e
    change f.Stands (f.event e).1 _ _
    rw [h]
    exact ⟨hf, rfl, rfl⟩

/-- **A halted fund stands, whatever else is tried.** -/
theorem stands_after (ss : List Step) :
    f.Stands (f.after ss) (ss.foldl turnedBy f.strategy.venues)
      (ss.foldl suppliedBy f.ledger.book.collateral) := by
  induction ss generalizing f with
  | nil => exact Stands.refl hf
  | cons s ss ih =>
    have hstep := stands_step hf s
    have hrest := ih hstep.halted
    rw [hstep.strategy, hstep.book] at hrest
    exact hstep.trans hrest

end Stands

/-- **A crash is final.**  A call whose venue crashes crashes itself.  A step that crashes while it
has the strategy leaves everything as it was, but for the fund being halted.  After that and
whatever else, every step that needs the strategy is refused and changes nothing: a call that is not
its caller's to make for that reason, a deposit of nothing or less for that reason, and everything
else because the fund is halted.  Settings, a trade under way, the venues and what is agreed for
them, every time of a trade, the reserve, debt, idle amounts and bounties paid are the same for
good, and collateral only comes in from outside. -/
theorem halting_is_final (f : Fund) :
    (∀ c t o e, f.tradeOf? c = some t → t.plan.order f.assets t.listing.terms = .ok o →
      t.listing.venue.answer f.feeds o = .error (.crashed e) →
        f.call c = (f.halt, .error (.crashed e))) ∧
      ∀ s e, s.needsStrategy = true → (f.step s).2 = .error (.crashed e) →
        (f.step s).1 = f.halt ∧
          ∀ ss,
            let g := f.after (s :: ss)
            (∀ s', s'.needsStrategy = true →
              g.step s' = (g, .error (.refused (s'.refusedFor g.guard)))) ∧
            (∀ (α : Type) (part : Strategy → Checked α),
              g.kept part = .error (.refused .halted)) ∧
            g.strategy = { f.strategy with venues := ss.foldl turnedBy f.strategy.venues } ∧
            (g.strategy.venues.entries.map fun e => (e.1, e.2.terms))
              = (f.strategy.venues.entries.map fun e => (e.1, e.2.terms)) ∧
            g.ledger.book
              = { f.ledger.book with
                  collateral := ss.foldl suppliedBy f.ledger.book.collateral } := by
  refine ⟨fun c t o e => call_of_venue_crash, fun s e hs hcrash => ?_⟩
  have hhalt : (f.step s).1 = f.halt := step_of_crash hs hcrash
  refine ⟨hhalt, ?_⟩
  intro ss g
  have hafter : g = f.halt.after ss := congrArg (·.after ss) hhalt
  have hg := stands_after (f := f.halt) rfl ss
  rw [← hafter] at hg
  refine ⟨fun s' hs' => step_of_halted hg.halted hs', fun α part => kept_of_halted hg.halted part,
    hg.strategy, ?_, hg.book⟩
  rw [hg.strategy]
  exact turned_terms _ ss

/-- A venue that breaks down halts the fund at its first order, even for the operator, while a
stranger is still refused as one and collateral still comes in. -/
theorem halting_is_final_broken :
    let f := Trial.fund (Venue.broken "dex")
    let op := Trial.operator
    let ss : List Step := [.tick op, .call (.depositReward Decimal.one), .event (.deposit 5)]
    let g := f.after (.call (.engage op "dex") :: ss)
    f.call (.engage op "dex") = (f.halt, .error (.crashed (.venue "venue exploded"))) ∧
      g.call (.disengage op "dex") = (g, .error (.refused .halted)) ∧
      g.call (.engage Trial.stranger "dex")
        = (g, .error (.refused (.unauthorized Trial.stranger "engage"))) ∧
      g.ledger.book = { f.ledger.book with collateral := 100005 } := by
  intro f op ss g
  obtain ⟨hvenue, hfinal⟩ := halting_is_final f
  have hasked : ((f.tradeOf? (.engage op "dex")).bind fun t =>
      (t.plan.order f.assets t.listing.terms).toOption.bind fun o =>
        crash? (t.listing.venue.answer f.feeds o)) = some (.venue "venue exploded") := by
    decide +kernel
  obtain ⟨t, ht, hasked⟩ := Option.bind_eq_some_iff.1 hasked
  obtain ⟨o, ho, hcrash⟩ := Option.bind_eq_some_iff.1 hasked
  have hcall := hvenue _ t o _ ht (toOption_eq_some.1 ho) (crash?_eq_some.1 hcrash)
  obtain ⟨-, hafter⟩ := hfinal (.call (.engage op "dex")) _ rfl (congrArg Prod.snd hcall)
  obtain ⟨hrefused, -, -, -, hbook⟩ := hafter ss
  have hown : Step.refusedFor g.guard (.call (.disengage op "dex")) = .halted := by
    decide +kernel
  have hother : Step.refusedFor g.guard (.call (.engage Trial.stranger "dex"))
      = .unauthorized Trial.stranger "engage" := by decide +kernel
  have hsupplied : ss.foldl suppliedBy f.ledger.book.collateral = 100005 := by decide +kernel
  have refused : ∀ {r : Refusal} (c : Call), c.needsStrategy = true →
      Step.refusedFor g.guard (.call c) = r → g.call c = (g, .error (.refused r)) := by
    rintro r c hc rfl
    exact hrefused (.call c) hc
  refine ⟨hcall, refused _ rfl hown, refused _ rfl hother, ?_⟩
  rw [hbook, hsupplied]

end Fund

end LeverageKeeper
