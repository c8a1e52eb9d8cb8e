import LeverageKeeper.Proofs.Fund.Reachable
import LeverageKeeper.Proofs.Ledger

/-!
What a refused call leaves behind.  It leaves the fund as it was, with one exception: a venue may
pay out an amount of `2 ^ 96` native units or more, which no decimal can report.  The ledger has
taken the trade by the time this is noticed, so its entry stays although the call is refused, while
the strategy takes no note of the trade.
-/

namespace LeverageKeeper.Fund

open Decimal (bound)

section

variable {f : Fund} {c : Call}

lemma unchanged_or_overfilled {r : Refusal} (h : (f.call c).2 = .error (.refused r)) :
    (f.call c).1 = f ∨ ∃ t x l, f.Overfills c t x l := by
  rcases call_cases f c with ⟨e, he⟩ | ho | ⟨t, x, l, r', hx⟩ | ⟨g, a, -, he⟩
  · rw [he] at h ⊢
    cases h
    exact .inl rfl
  · exact .inr ho
  · rw [hx.call_eq] at h
    unfold finish at h
    split at h <;> cases h
  · rw [he] at h
    cases h

lemma Overfills.book_ne {t : Trade} {x : Fill} {l : Ledger} (h : f.Overfills c t x l) :
    l.book ≠ f.ledger.book :=
  Ledger.book_ne_of_commit h.enters.commit (Nat.lt_of_lt_of_le (by decide) h.large)

/-- The trade by which a call overfills the ledger, its fill, and the ledger then. -/
def overfill? (f : Fund) (c : Call) : Option (Trade × Fill × Ledger) := do
  let t ← f.tradeOf? c
  let x ← (t.fill f.assets f.feeds).toOption
  let l ← (f.ledger.commit x.order.direction x.order.amountIn x.received).toOption
  if bound ≤ x.received then some (t, x, l) else none

lemma overfill?_eq_some {t : Trade} {x : Fill} {l : Ledger} :
    f.overfill? c = some (t, x, l) ↔ f.Overfills c t x l := by
  unfold overfill?
  simp only [Option.bind_eq_bind, Option.bind_eq_some_iff, Option.ite_none_right_eq_some,
    Option.some.injEq, Prod.mk.injEq, toOption_eq_some]
  constructor
  · rintro ⟨t, ht, x, hx, l, hl, hb, rfl, rfl, rfl⟩
    exact ⟨ht, ⟨hx, hl⟩, hb⟩
  · rintro ⟨ht, ⟨hx, hl⟩, hb⟩
    exact ⟨t, ht, x, hx, l, hl, hb, rfl, rfl, rfl⟩

instance : Decidable (∃ t x l, f.Overfills c t x l) :=
  decidable_of_iff ((f.overfill? c).isSome = true) <| by
    simp only [Option.isSome_iff_exists, Prod.exists, overfill?_eq_some]

end

/-- **A refused call changes nothing at all, except where it overfills the ledger**; there the
ledger keeps the entry, its book is another one, and nothing else has changed. -/
theorem call_atomic_iff (f : Fund) (c : Call) :
    ((∀ r, (f.call c).2 = .error (.refused r) → (f.call c).1 = f)
        ↔ ¬ ∃ t x l, f.Overfills c t x l) ∧
      ∀ t x l, f.Overfills c t x l →
        f.call c = ({ f with ledger := l },
          .error (.refused (.numeric (.unitsTooLarge x.received)))) ∧
        l.book ≠ f.ledger.book := by
  refine ⟨⟨?_, ?_⟩, fun t x l h => ⟨h.call_eq, h.book_ne⟩⟩
  · rintro h ⟨t, x, l, ho⟩
    have he := h (.numeric (.unitsTooLarge x.received)) (by rw [ho.call_eq])
    rw [ho.call_eq] at he
    exact ho.book_ne (congrArg (·.ledger.book) he)
  · intro h r hr
    exact (unchanged_or_overfilled hr).resolve_right h

/-- A fund whose venue pays out more than a decimal can report. -/
def Trial.lavish : Fund := fund (Venue.fixed "dex" bound)

lemma Trial.lavish_overfills :
    ∃ t x l, lavish.Overfills (.engage operator "dex") t x l := by decide +kernel

theorem call_atomic_iff_engage :
    (¬ ∀ r, (Trial.lavish.call (.engage Trial.operator "dex")).2 = .error (.refused r) →
      (Trial.lavish.call (.engage Trial.operator "dex")).1 = Trial.lavish) ∧
      ∃ x l, Trial.lavish.call (.engage Trial.operator "dex")
          = ({ Trial.lavish with ledger := l },
            .error (.refused (.numeric (.unitsTooLarge x)))) ∧
        l.book ≠ Trial.lavish.ledger.book := by
  obtain ⟨hiff, hover⟩ := call_atomic_iff Trial.lavish (.engage Trial.operator "dex")
  refine ⟨fun h => hiff.1 h Trial.lavish_overfills, ?_⟩
  obtain ⟨t, x, l, h⟩ := Trial.lavish_overfills
  exact ⟨x.received, l, hover t x l h⟩

/-- A refused call can change the book of a fund that a history leads to. -/
theorem refused_engage_enters_ledger :
    ∃ (f : Fund) (c : Call) (r : Refusal), f.Reachable ∧ (f.call c).2 = .error (.refused r) ∧
      (f.call c).1.ledger.book.collateral ≠ f.ledger.book.collateral := by
  obtain ⟨t, x, l, h⟩ := Trial.lavish_overfills
  exact ⟨Trial.lavish, .engage Trial.operator "dex", _, Trial.reachable _, by rw [h.call_eq],
    by decide +kernel⟩

end LeverageKeeper.Fund
