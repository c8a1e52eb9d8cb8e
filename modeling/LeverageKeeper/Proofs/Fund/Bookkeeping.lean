import LeverageKeeper.Proofs.Fund.Bounties
import LeverageKeeper.Proofs.Ledger.Conservation

/-!
The book of a fund is kept by entries alone.  A trade makes one entry, a bounty or a withdrawal one,
collateral from outside one, and nothing else reaches the book.  So what holds of a book after any
entries holds of the book of a fund after any history.
-/

namespace LeverageKeeper

/-- The entry of a chunk: what was paid went out, what was received came in. -/
def Entry.chunk (paid received : ℕ) : Direction → Entry
  | .lever => .lever paid received
  | .delever => .delever paid received

namespace Book

/-- The book `k'` is what some entries make of `k`. -/
def Reaches (k k' : Book) : Prop := ∃ es, k' = k.after es

section

variable {k k' k'' : Book}

lemma Reaches.refl (k : Book) : k.Reaches k := ⟨[], rfl⟩

lemma reaches_next (k : Book) (e : Entry) : k.Reaches (k.next e) := ⟨[e], rfl⟩

lemma Reaches.trans (h : k.Reaches k') (h' : k'.Reaches k'') : k.Reaches k'' := by
  obtain ⟨es, rfl⟩ := h
  obtain ⟨es', rfl⟩ := h'
  refine ⟨es ++ es', ?_⟩
  unfold after
  rw [List.foldl_append]

lemma Reaches.fits (h : k.Reaches k') (hk : k.Fits) : k'.Fits := by
  obtain ⟨es, rfl⟩ := h
  exact hk.after es

end

end Book

namespace Ledger

variable {l l' : Ledger}

lemma commit_reaches {d : Direction} {paid received : ℕ}
    (h : l.commit d paid received = .ok l') : l.book.Reaches l'.book := by
  obtain ⟨-, k, rfl, hk⟩ := commit_eq_ok h
  suffices hnext : l.book.next (.chunk paid received d) = k from hnext ▸ l.book.reaches_next _
  unfold Book.next
  cases d with
  | lever =>
    simp only [Entry.chunk, Book.post, hk]
    rfl
  | delever =>
    obtain ⟨repaid, hk⟩ := hk
    simp only [Entry.chunk, Book.post, hk]

lemma payReward_reaches {payee : Address} {amount : Decimal}
    (h : l.payReward payee amount = .ok l') : l.book.Reaches l'.book := by
  obtain rfl := payReward_eq_ok h
  exact l.book.reaches_next (.reward payee amount)

lemma deposit_reaches {amount : ℕ} (h : l.deposit amount = .ok l') : l.book.Reaches l'.book := by
  obtain ⟨k, hk, rfl⟩ := map_eq_ok.1 h
  suffices hnext : l.book.next (.deposit amount) = k from hnext ▸ l.book.reaches_next _
  unfold Book.next
  simp only [Book.post, hk]
  rfl

end Ledger

namespace Fund

section

variable {f : Fund} {t : Trade} {r : Report} {c : Call}

lemma reaches_afterFailure (e : Failure) :
    f.ledger.book.Reaches (f.afterFailure e).ledger.book := by
  cases e <;> exact Book.Reaches.refl _

/-- After its trade only a ripcord has something to enter. -/
lemma finish_reaches : f.ledger.book.Reaches (f.finish t r c).1.ledger.book := by
  cases c with
  | ripcord caller venue =>
    rw [finish_ripcord]
    rcases payBounty_cases (f.withTwap .idle) caller with h | ⟨l, hl, -, h⟩
    · rw [h]
      exact Book.Reaches.refl _
    · rw [h]
      exact Ledger.payReward_reaches hl
  | _ => exact Book.Reaches.refl _

lemma changes_reaches {g : Fund} {a : Answer} (h : f.Changes g a) :
    f.ledger.book.Reaches g.ledger.book := by
  cases h with
  | withdrawn l caller paid => exact Ledger.payReward_reaches paid
  | _ => exact Book.Reaches.refl _

/-- **A call reaches the book by entries alone.** -/
theorem call_reaches (f : Fund) (c : Call) : f.ledger.book.Reaches (f.call c).1.ledger.book := by
  rcases call_cases f c with ⟨e, he⟩ | ⟨t, x, l, ho⟩ | ⟨t, x, l, r, hx⟩ | ⟨g, a, hg, he⟩
  · rw [he]
    exact reaches_afterFailure e
  · rw [ho.call_eq]
    exact Ledger.commit_reaches ho.enters.commit
  · rw [hx.call_eq]
    have hsettled : f.ledger.book.Reaches (f.settled t l).ledger.book :=
      Ledger.commit_reaches hx.enters.commit
    exact hsettled.trans finish_reaches
  · rw [he]
    exact changes_reaches hg

lemma event_reaches (e : Event) : f.ledger.book.Reaches (f.event e).1.ledger.book := by
  cases e with
  | deposit amount =>
    change f.ledger.book.Reaches (f.around _).1.ledger.book
    rcases around_cases f ((f.ledger.deposit amount).map fun ledger => { f with ledger })
      with h | h
    · rw [h]
      exact Book.Reaches.refl _
    · obtain ⟨l, hl, h⟩ := map_eq_ok.1 h
      rw [← h]
      exact Ledger.deposit_reaches hl
  | setPrice feed price time =>
    obtain ⟨now, feeds, outage, blind, h⟩ := event_eq (f := f) (.setPrice feed price time)
    rw [h]
    exact Book.Reaches.refl _
  | _ => exact Book.Reaches.refl _

/-- **A step reaches the book by entries alone.** -/
theorem step_reaches (f : Fund) (s : Step) : f.ledger.book.Reaches (f.step s).1.ledger.book := by
  cases hc : f.callOf? s with
  | some c =>
    rw [step_of_callOf? hc]
    exact call_reaches f c
  | none =>
    rcases idle_cases hc with ⟨e, rfl⟩ | he | ⟨e, he⟩
    · exact event_reaches e
    · rw [he]
      exact Book.Reaches.refl _
    · rw [he]
      exact reaches_afterFailure e

end

/-- **The book of a fund is kept by entries alone**, whatever happens; so none of its amounts ever
wraps around. -/
theorem book_of_history (f : Fund) (ss : List Step) :
    f.ledger.book.Reaches (f.after ss).ledger.book ∧
      (f.ledger.book.Fits → (f.after ss).ledger.book.Fits) := by
  have hreaches : f.ledger.book.Reaches (f.after ss).ledger.book := by
    induction ss generalizing f with
    | nil => exact Book.Reaches.refl _
    | cons s ss ih => exact (step_reaches f s).trans (ih (f.step s).1)
  exact ⟨hreaches, hreaches.fits⟩

end Fund

end LeverageKeeper
