import LeverageKeeper.Venue.Registry
import LeverageKeeper.Proofs.Outcome
import Mathlib.Data.String.Basic

/-!
What the operations on the registered venues do to a single venue, and what they keep of the whole:
every name stands at most once, in the order of the names, with terms that break no rule.
-/

namespace LeverageKeeper.Registry

/-! ### One venue -/

section Lookup

variable {name n : String} {l : Listing} {es : List (String × Listing)}

/-- A change of the entries of one name. -/
lemma lookup_map_at (g : Listing → Listing) :
    (es.map fun e => if e.1 = name then (e.1, g e.2) else e).lookup n
      = if n = name then (es.lookup n).map g else es.lookup n := by
  induction es with
  | nil => simp
  | cons e es ih =>
    obtain ⟨k, v⟩ := e
    rw [List.map_cons]
    by_cases hn : n = k
    · subst hn
      by_cases hk : n = name
      · simp [hk]
      · simp [hk]
    · have hb : (n == k) = false := beq_eq_false_iff_ne.2 hn
      by_cases hk : k = name
      · simp only [hk, ↓reduceIte, List.lookup_cons] at hb ⊢
        rw [hb, ih]
      · simp only [hk, ↓reduceIte, List.lookup_cons, hb, ih]

lemma lookup_insertSorted (h : es.lookup name = none) :
    (insertSorted name l es).lookup n = if n = name then some l else es.lookup n := by
  have first : ∀ ds : List (String × Listing), ((name, l) :: ds).lookup n
      = if n = name then some l else ds.lookup n := by
    intro ds
    by_cases hn : n = name
    · simp [hn]
    · simp only [List.lookup_cons, beq_eq_false_iff_ne.2 hn, hn, ↓reduceIte]
  induction es with
  | nil => exact first []
  | cons e es ih =>
    obtain ⟨k, v⟩ := e
    have hk : (name == k) = false := by
      cases hb : name == k with
      | false => rfl
      | true => simp [List.lookup_cons, hb] at h
    have hne : name ≠ k := beq_eq_false_iff_ne.1 hk
    rw [List.lookup_cons, hk] at h
    unfold insertSorted
    split
    · exact first _
    · rw [List.lookup_cons, List.lookup_cons, ih h]
      by_cases hn : n = k
      · subst hn
        simp [hne.symm]
      · rw [beq_eq_false_iff_ne.2 hn]

lemma lookup_filter_ne :
    (es.filter fun e => e.1 ≠ name).lookup n = if n = name then none else es.lookup n := by
  induction es with
  | nil => simp
  | cons e es ih =>
    obtain ⟨k, v⟩ := e
    by_cases hk : k = name
    · rw [List.filter_cons_of_neg (by simpa using hk), ih, List.lookup_cons]
      by_cases hn : n = name
      · simp [hn]
      · have hb : (n == k) = false := beq_eq_false_iff_ne.2 (hk ▸ hn)
        simp [hn, hb]
    · rw [List.filter_cons_of_pos (by simpa using hk), List.lookup_cons, List.lookup_cons, ih]
      by_cases hn : n = name
      · have hb : (n == k) = false := beq_eq_false_iff_ne.2 fun h => hk (h ▸ hn)
        simp [hn, hn ▸ hb]
      · simp [hn]

end Lookup

section Find

variable {r r' : Registry} {name n : String} {l : Listing}

theorem find?_modify (g : Terms → Terms) :
    (r.modify name g).find? n
      = if n = name then (r.find? n).map fun l => ⟨l.venue, g l.terms⟩ else r.find? n :=
  lookup_map_at fun l => ⟨l.venue, g l.terms⟩

theorem find?_turn (answer : Feeds → Order → Outcome Nat) :
    (r.turn name answer).find? n
      = if n = name then (r.find? n).map fun l => ⟨{ l.venue with answer }, l.terms⟩
        else r.find? n :=
  lookup_map_at fun l => ⟨{ l.venue with answer }, l.terms⟩

lemma get_eq_ok : r.get name = .ok l ↔ r.find? name = some l := orRefuse_eq_ok

lemma check_eq_ok {t : Terms} {u : Unit} : check name t = .ok u ↔ t.violations name = [] :=
  demand_eq_ok

theorem add_eq_ok {venue : Venue} {t : Terms} (h : r.add name venue t = .ok r') :
    t.violations name = [] ∧ r.find? name = none ∧
      r' = ⟨insertSorted name ⟨venue, t⟩ r.entries⟩ := by
  unfold add at h
  simp only [bind_eq_ok, check_eq_ok] at h
  obtain ⟨_, ht, h⟩ := h
  split at h
  · cases h
  next hn =>
    cases h
    exact ⟨ht, by simpa using hn, rfl⟩

/-- A name that is not listed yet can be added under allowed terms. -/
theorem add_ok (venue : Venue) {t : Terms} (ht : t.violations name = [])
    (hn : r.find? name = none) :
    r.add name venue t = .ok ⟨insertSorted name ⟨venue, t⟩ r.entries⟩ := by
  unfold add
  rw [check_eq_ok (u := ()).2 ht, ok_bind, hn]
  rfl

theorem update_eq_ok {t : Terms} (h : r.update name t = .ok r') :
    t.violations name = [] ∧ (∃ l, r.find? name = some l) ∧
      r' = r.modify name fun old => { t with lastTrade := old.lastTrade } := by
  unfold update at h
  simp only [bind_eq_ok, check_eq_ok, get, orRefuse_eq_ok, pure_eq_ok] at h
  obtain ⟨_, ht, l, hl, rfl⟩ := h
  exact ⟨ht, ⟨l, hl⟩, rfl⟩

theorem remove_eq_ok (h : r.remove name = .ok (r', l)) :
    r.find? name = some l ∧ r' = ⟨r.entries.filter fun e => e.1 ≠ name⟩ := by
  unfold remove at h
  simp only [bind_eq_ok, get, orRefuse_eq_ok, pure_eq_ok] at h
  obtain ⟨l', hl, he⟩ := h
  cases he
  exact ⟨hl, rfl⟩

end Find

/-! ### The whole registry -/

/-- Every name stands once, in order, and the terms are allowed. -/
structure Sound (r : Registry) : Prop where
  ordered : r.entries.Pairwise fun d e => d.1 < e.1
  allowed : ∀ e ∈ r.entries, e.2.terms.violations e.1 = []

section Sound

variable {r r' : Registry} {name : String} {l : Listing}

theorem sound_empty : empty.Sound := ⟨.nil, nofun⟩

lemma perm_insertSorted (es : List (String × Listing)) :
    (insertSorted name l es).Perm ((name, l) :: es) := by
  induction es with
  | nil => exact .refl _
  | cons d es ih =>
    unfold insertSorted
    split
    · exact .refl _
    · exact (ih.cons d).trans (.swap _ _ _)

lemma mem_insertSorted {e : String × Listing} {es : List (String × Listing)} :
    e ∈ insertSorted name l es ↔ e = (name, l) ∨ e ∈ es :=
  (perm_insertSorted es).mem_iff.trans List.mem_cons

lemma pairwise_insertSorted {es : List (String × Listing)} (h : es.Pairwise fun d e => d.1 < e.1)
    (hn : es.lookup name = none) : (insertSorted name l es).Pairwise fun d e => d.1 < e.1 := by
  induction es with
  | nil => simp [insertSorted]
  | cons d es ih =>
    obtain ⟨hd, hes⟩ := List.pairwise_cons.1 h
    have hne : name ≠ d.1 ∧ es.lookup name = none := by
      rw [List.lookup_cons] at hn
      cases hb : name == d.1 with
      | true => rw [hb] at hn; cases hn
      | false => exact ⟨beq_eq_false_iff_ne.1 hb, by rwa [hb] at hn⟩
    unfold insertSorted
    split
    next hlt =>
      refine List.pairwise_cons.2 ⟨fun e he => ?_, h⟩
      rcases List.mem_cons.1 he with rfl | he
      · exact hlt
      · exact hlt.trans (hd e he)
    next hge =>
      refine List.pairwise_cons.2 ⟨fun e he => ?_, ih hes hne.2⟩
      rcases mem_insertSorted.1 he with rfl | he
      · exact lt_of_le_of_ne (not_lt.1 hge) hne.1.symm
      · exact hd e he

theorem Sound.add {venue : Venue} {t : Terms} (h : r.Sound) (ha : r.add name venue t = .ok r') :
    r'.Sound := by
  obtain ⟨ht, hn, rfl⟩ := add_eq_ok ha
  refine ⟨pairwise_insertSorted h.ordered hn, fun e he => ?_⟩
  rcases mem_insertSorted.1 he with rfl | he
  · exact ht
  · exact h.allowed e he

/-- A change of entries that leaves the names alone and the terms allowed. -/
lemma Sound.map (h : r.Sound) (g : String × Listing → String × Listing)
    (hg : ∀ e ∈ r.entries, (g e).1 = e.1 ∧ (g e).2.terms.violations e.1 = []) :
    Sound ⟨r.entries.map g⟩ := by
  refine ⟨?_, fun e he => ?_⟩
  · refine List.pairwise_map.2 (h.ordered.imp_of_mem fun {d e} hd he hlt => ?_)
    rw [(hg d hd).1, (hg e he).1]
    exact hlt
  · obtain ⟨d, hd, rfl⟩ := List.mem_map.1 he
    rw [(hg d hd).1]
    exact (hg d hd).2

theorem Sound.modify {g : Terms → Terms} (h : r.Sound)
    (hg : ∀ t, t.violations name = [] → (g t).violations name = []) : (r.modify name g).Sound := by
  refine h.map _ fun e he => ?_
  split
  next hn => exact ⟨rfl, hn ▸ hg _ (hn ▸ h.allowed e he)⟩
  next => exact ⟨rfl, h.allowed e he⟩

theorem Sound.update {t : Terms} (h : r.Sound) (hu : r.update name t = .ok r') : r'.Sound := by
  obtain ⟨ht, -, rfl⟩ := update_eq_ok hu
  exact h.modify fun _ _ => ht

theorem Sound.stamp (h : r.Sound) (now : UInt64) : (r.stamp name now).Sound :=
  h.modify fun _ ht => ht

theorem Sound.turn (h : r.Sound) (answer : Feeds → Order → Outcome Nat) :
    (r.turn name answer).Sound := by
  refine h.map _ fun e he => ?_
  split <;> exact ⟨rfl, h.allowed e he⟩

lemma mem_of_find? (h : r.find? name = some l) : (name, l) ∈ r.entries := by
  obtain ⟨before, after, he, -⟩ := List.lookup_eq_some_iff.1 h
  rw [he]
  exact List.mem_append_right _ List.mem_cons_self

/-- The entries are what can be found. -/
theorem Sound.find?_of_mem (h : r.Sound) {e : String × Listing} (he : e ∈ r.entries) :
    r.find? e.1 = some e.2 := by
  have key : ∀ es : List (String × Listing), es.Pairwise (fun d e => d.1 < e.1) → e ∈ es →
      es.lookup e.1 = some e.2 := by
    intro es hes hmem
    induction es with
    | nil => cases hmem
    | cons d es ih =>
      obtain ⟨hd, hes⟩ := List.pairwise_cons.1 hes
      rcases List.mem_cons.1 hmem with rfl | hmem
      · exact List.lookup_cons_self
      · rw [List.lookup_cons, beq_eq_false_iff_ne.2 (hd e hmem).ne']
        exact ih hes hmem
  exact key _ h.ordered he

lemma mem_names : name ∈ r.names ↔ ∃ l, r.find? name = some l := by
  rw [← Option.isSome_iff_exists]
  unfold find? names
  rw [List.lookup_isSome_iff, List.mem_map]
  simp only [beq_iff_eq, eq_comm (a := name)]

theorem Sound.remove (h : r.Sound) (hr : r.remove name = .ok (r', l)) : r'.Sound := by
  obtain ⟨-, rfl⟩ := remove_eq_ok hr
  exact ⟨h.ordered.sublist List.filter_sublist,
    fun e he => h.allowed e (List.mem_of_mem_filter he)⟩

end Sound

end LeverageKeeper.Registry
