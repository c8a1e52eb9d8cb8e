import LeverageKeeper.Proofs.Registry
import LeverageKeeper.Proofs.Text.ByteOrder
import Mathlib.Data.List.Infix

/-!
# The history of a venue

Venues are added, updated, removed and traded on, in any order and under any names.  Of the edits
that go through a journal is kept, and the registry can be read off it.  The listing of a name goes
back to the last time the name was added, provided that it was not removed since: the venue is the
one added then, the terms are those of the last edit that brought some, and the last trade is the
latest one known since, which no new terms can reset.

The core lemma (`Follows.made`) extends the journal by one edit.  It reads a listing as the edits
since the addition applied to what was added (`Told`); the closed form (`Stands`) is derived from
it.
-/

namespace LeverageKeeper.Registry

/-! ### Edits -/

/-- What can be done to the registry. -/
inductive Edit where
  | add (name : String) (venue : Venue) (t : Terms)
  | update (name : String) (t : Terms)
  | remove (name : String)
  | record (name : String) (time : UInt64)

namespace Edit

def name : Edit → String
  | .add n _ _ | .update n _ | .remove n | .record n _ => n

/-- The edit settles whether the name is registered. -/
def Turns (n : String) : Edit → Prop
  | .add m _ _ | .remove m => m = n
  | _ => False

/-- The terms that the edit brings for the name, if it is registered. -/
def terms? (n : String) : Edit → Option Terms
  | .update m t => if m = n then some t else none
  | _ => none

/-- What becomes of the listing of the name if it stays registered. -/
def amend (n : String) (l : Listing) : Edit → Listing
  | .update m t => if m = n then ⟨l.venue, { t with lastTrade := l.terms.lastTrade }⟩ else l
  | .record m time =>
    if m = n then
      ⟨l.venue, { l.terms with
        lastTrade := if l.terms.lastTrade < time then time else l.terms.lastTrade }⟩
    else l
  | _ => l

/-- What an edit that goes through leaves under the name. -/
def leaves (n : String) (x : Option Listing) : Edit → Option Listing
  | .add m venue t => if m = n then some ⟨venue, t⟩ else x
  | .remove m => if m = n then none else x
  | e => x.map fun l => e.amend n l

section

variable {n : String} {e : Edit} {l : Listing} {x : Option Listing}

lemma Turns.name_eq (h : e.Turns n) : e.name = n := by
  cases e with
  | add m venue t => exact h
  | remove m => exact h
  | update m t => exact h.elim
  | record m time => exact h.elim

lemma amend_of_ne (h : e.name ≠ n) : e.amend n l = l := by
  cases e with
  | add m venue t => rfl
  | remove m => rfl
  | update m t => exact if_neg h
  | record m time => exact if_neg h

lemma leaves_of_not_turns (h : ¬ e.Turns n) : e.leaves n x = x.map fun l => e.amend n l := by
  cases e with
  | add m venue t =>
    have hm : m ≠ n := h
    simp [leaves, amend, hm]
  | remove m =>
    have hm : m ≠ n := h
    simp [leaves, amend, hm]
  | update m t => rfl
  | record m time => rfl

/-- An edit leaves other names as they are. -/
lemma leaves_of_ne (h : e.name ≠ n) : e.leaves n x = x := by
  rw [leaves_of_not_turns fun ht => h ht.name_eq]
  simp [amend_of_ne h]

@[simp] lemma amend_venue : (e.amend n l).venue = l.venue := by
  cases e with
  | add m venue t => rfl
  | remove m => rfl
  | update m t =>
    simp only [amend]
    split <;> rfl
  | record m time =>
    simp only [amend]
    split <;> rfl

/-- The last trade does not go back. -/
lemma le_amend : l.terms.lastTrade ≤ (e.amend n l).terms.lastTrade := by
  cases e with
  | add m venue t => exact UInt64.le_refl _
  | remove m => exact UInt64.le_refl _
  | update m t =>
    simp only [amend]
    split <;> exact UInt64.le_refl _
  | record m time =>
    simp only [amend]
    split
    · show _ ≤ if l.terms.lastTrade < time then time else l.terms.lastTrade
      split
      next hlt => exact UInt64.le_of_lt hlt
      next => exact UInt64.le_refl _
    · exact UInt64.le_refl _

end

end Edit

/-- Makes an edit. -/
def post (r : Registry) : Edit → Checked Registry
  | .add n venue t => r.add n venue t
  | .update n t => r.update n t
  | .remove n => (r.remove n).map (·.1)
  | .record n time => r.record n time

/-- The registry once an edit has been tried. -/
def next (r : Registry) (e : Edit) : Registry :=
  match r.post e with
  | .ok r' => r'
  | .error _ => r

/-- The registry once some edits have been tried, one after the other. -/
def after (r : Registry) (es : List Edit) : Registry := es.foldl next r

/-- The edits that went through. -/
def journal (r : Registry) : List Edit → List Edit
  | [] => []
  | e :: es =>
    match r.post e with
    | .ok r' => e :: r'.journal es
    | .error _ => r.journal es

/-- Why an edit does not go through, if it does not. -/
def fault? (r : Registry) : Edit → Option Refusal
  | .add n _ t =>
    if t.violations n ≠ [] then some (.invalidSettings (.violated (t.violations n)))
    else if n ∈ r.names then some (.invalidSettings (.duplicate n))
    else none
  | .update n t =>
    if t.violations n ≠ [] then some (.invalidSettings (.violated (t.violations n)))
    else if n ∉ r.names then some (.unknownVenue n)
    else none
  | .remove n | .record n _ => if n ∉ r.names then some (.unknownVenue n) else none

/-- What an edit that goes through makes of the registry. -/
def made (r : Registry) : Edit → Registry
  | .add n venue t => ⟨insertSorted n ⟨venue, t⟩ r.entries⟩
  | .update n t => r.modify n fun old => { t with lastTrade := old.lastTrade }
  | .remove n => ⟨r.entries.filter fun e => e.1 ≠ n⟩
  | .record n time => r.stamp n time

section OneEdit

variable {r r' : Registry} {e : Edit} {n : String} {l : Listing} {f : Refusal}

lemma notMem_names : n ∉ r.names ↔ r.find? n = none := by
  rw [mem_names, ← Option.isSome_iff_exists, Option.not_isSome_iff_eq_none]

/-- **A name is unknown exactly when it is not listed.** -/
theorem get_eq_error : r.get n = .error f ↔ n ∉ r.names ∧ f = .unknownVenue n := by
  rw [notMem_names]
  unfold get
  cases r.find? n with
  | none => simp [orRefuse, eq_comm]
  | some l => simp [orRefuse]

lemma get_of_notMem (h : n ∉ r.names) : r.get n = .error (.unknownVenue n) :=
  get_eq_error.2 ⟨h, rfl⟩

lemma get_of_mem (h : n ∈ r.names) : ∃ l, r.get n = .ok l := by
  obtain ⟨l, hl⟩ := mem_names.1 h
  exact ⟨l, get_eq_ok.2 hl⟩

/-- What follows a check happens if the terms break no rule. -/
lemma check_bind {t : Terms} (x : Checked Registry) :
    (check n t >>= fun _ => x)
      = if t.violations n ≠ [] then .error (.invalidSettings (.violated (t.violations n)))
        else x := by
  unfold check demand
  split_ifs <;> first | rfl | contradiction

/-- What follows a look for a name happens if it is listed. -/
lemma get_bind (r g : Registry) (n : String) :
    (r.get n >>= fun _ => (.ok g : Checked Registry))
      = if n ∉ r.names then .error (.unknownVenue n) else .ok g := by
  by_cases hn : n ∈ r.names
  · obtain ⟨l, hl⟩ := get_of_mem hn
    rw [hl, if_neg (not_not_intro hn), ok_bind]
  · rw [get_of_notMem hn, if_pos hn]
    rfl

/-- **An edit is stopped by what `fault?` names** and by nothing else. -/
theorem post_eq (r : Registry) (e : Edit) :
    r.post e = match r.fault? e with
      | some f => .error f
      | none => .ok (r.made e) := by
  cases e with
  | add m venue t =>
    have hfree : (r.find? m).isSome ↔ m ∈ r.names :=
      Option.isSome_iff_exists.trans mem_names.symm
    show (check m t >>= fun _ => if (r.find? m).isSome then
      .error (.invalidSettings (.duplicate m)) else .ok (r.made (.add m venue t))) = _
    rw [check_bind]
    simp only [fault?, hfree]
    split_ifs <;> rfl
  | update m t =>
    show (check m t >>= fun _ => r.get m >>= fun _ => .ok (r.made (.update m t))) = _
    rw [check_bind, get_bind]
    simp only [fault?]
    split_ifs <;> rfl
  | remove m =>
    have hremove : r.post (.remove m) = r.get m >>= fun _ => .ok (r.made (.remove m)) := by
      show (r.get m >>= fun l => pure (r.made (.remove m), l)).map (·.1) = _
      cases r.get m <;> rfl
    rw [hremove, get_bind]
    simp only [fault?]
    split_ifs <;> rfl
  | record m time =>
    show (r.get m >>= fun _ => .ok (r.made (.record m time))) = _
    rw [get_bind]
    simp only [fault?]
    split_ifs <;> rfl

theorem post_eq_ok : r.post e = .ok r' ↔ r.fault? e = none ∧ r.made e = r' := by
  rw [post_eq]
  cases r.fault? e with
  | none => simp
  | some f => simp

theorem post_eq_error : r.post e = .error f ↔ r.fault? e = some f := by
  rw [post_eq]
  cases r.fault? e with
  | none => simp
  | some f => simp

lemma notMem_of_add {venue : Venue} {t : Terms} (h : r.fault? (.add n venue t) = none) :
    n ∉ r.names := by
  intro hn
  simp only [fault?, hn, ↓reduceIte] at h
  split at h <;> cases h

/-- **What an edit does to each name.** -/
theorem find?_made (h : r.fault? e = none) (n : String) :
    (r.made e).find? n = e.leaves n (r.find? n) := by
  have keep : ∀ x : Option Listing, x.map (fun l => l) = x := fun x => by cases x <;> rfl
  cases e with
  | add m venue t =>
    simp only [Edit.leaves, eq_comm (a := m)]
    exact lookup_insertSorted (notMem_names.1 (notMem_of_add h))
  | remove m =>
    simp only [Edit.leaves, eq_comm (a := m)]
    exact lookup_filter_ne
  | update m t =>
    show (r.modify m _).find? n = _
    rw [find?_modify]
    by_cases hn : n = m
    · simp only [hn, ↓reduceIte, Edit.leaves, Edit.amend]
    · simp only [hn, Ne.symm hn, ↓reduceIte, Edit.leaves, Edit.amend, keep]
  | record m time =>
    show (r.modify m _).find? n = _
    rw [find?_modify]
    by_cases hn : n = m
    · simp only [hn, ↓reduceIte, Edit.leaves, Edit.amend]
    · simp only [hn, Ne.symm hn, ↓reduceIte, Edit.leaves, Edit.amend, keep]

/-- **Other names are left alone.** -/
theorem find?_next_of_ne (h : e.name ≠ n) : (r.next e).find? n = r.find? n := by
  unfold next
  split
  next r' hr =>
    obtain ⟨hf, rfl⟩ := post_eq_ok.1 hr
    rw [find?_made hf, Edit.leaves_of_ne h]
  next => rfl

theorem Sound.next (h : r.Sound) (e : Edit) : (r.next e).Sound := by
  unfold Registry.next
  split
  next r' hr =>
    cases e with
    | add m venue t => exact h.add hr
    | update m t => exact h.update hr
    | remove m =>
      obtain ⟨⟨r'', l⟩, hm, rfl⟩ := map_eq_ok.1 hr
      exact h.remove hm
    | record m time =>
      obtain ⟨-, rfl⟩ := post_eq_ok.1 hr
      exact h.stamp time
  next => exact h

end OneEdit

/-! ### The journal as edits to a listing -/

/-- The name was added and neither added again nor removed since; the edits since make the listing
of what was added. -/
def Told (j : List Edit) (n : String) (l : Listing) : Prop :=
  ∃ before venue t since, j = before ++ .add n venue t :: since ∧
    (∀ e ∈ since, ¬ e.Turns n) ∧ l = since.foldl (Edit.amend n) ⟨venue, t⟩

section Told

variable {j : List Edit} {e : Edit} {n : String} {l : Listing}

/-- The last edit either is the addition itself or comes after it. -/
lemma concat_eq_append_cons {before since : List Edit} {a : Edit}
    (h : j ++ [e] = before ++ a :: since) :
    since = [] ∧ a = e ∨ ∃ since', since = since' ++ [e] ∧ j = before ++ a :: since' := by
  rcases List.eq_nil_or_concat since with rfl | ⟨since', b, rfl⟩
  · left
    obtain ⟨-, he⟩ := List.append_inj' h rfl
    exact ⟨rfl, (List.singleton_inj.1 he).symm⟩
  · right
    have h' : j ++ [e] = (before ++ a :: since') ++ [b] := by simpa using h
    obtain ⟨hj, he⟩ := List.append_inj' h' rfl
    exact ⟨since', by rw [List.singleton_inj.1 he, List.concat_eq_append], hj⟩

lemma told_concat_add {venue : Venue} {t : Terms} :
    Told (j ++ [.add n venue t]) n l ↔ l = ⟨venue, t⟩ := by
  constructor
  · rintro ⟨before, v, u, since, hj, hs, rfl⟩
    rcases concat_eq_append_cons hj with ⟨rfl, ha⟩ | ⟨since', rfl, -⟩
    · cases ha
      rfl
    · exact absurd rfl (hs (.add n venue t) (by simp))
  · rintro rfl
    exact ⟨j, venue, t, [], rfl, nofun, rfl⟩

lemma not_told_concat_remove : ¬ Told (j ++ [.remove n]) n l := by
  rintro ⟨before, v, u, since, hj, hs, rfl⟩
  rcases concat_eq_append_cons hj with ⟨-, ha⟩ | ⟨since', rfl, -⟩
  · cases ha
  · exact absurd rfl (hs (.remove n) (by simp))

lemma told_concat (he : ¬ e.Turns n) :
    Told (j ++ [e]) n l ↔ ∃ l₀, Told j n l₀ ∧ e.amend n l₀ = l := by
  constructor
  · rintro ⟨before, v, u, since, hj, hs, rfl⟩
    rcases concat_eq_append_cons hj with ⟨-, rfl⟩ | ⟨since', rfl, hj'⟩
    · exact absurd rfl he
    · refine ⟨_, ⟨before, v, u, since', hj', fun d hd => hs d (by simp [hd]), rfl⟩, ?_⟩
      rw [List.foldl_append]
      rfl
  · rintro ⟨l₀, ⟨before, v, u, since, rfl, hs, rfl⟩, rfl⟩
    refine ⟨before, v, u, since ++ [e], by simp, fun d hd => ?_, ?_⟩
    · rcases List.mem_append.1 hd with hd | hd
      · exact hs d hd
      · exact List.mem_singleton.1 hd ▸ he
    · rw [List.foldl_append]
      rfl

end Told

/-- What the registry holds is what the journal tells. -/
def Follows (r : Registry) (j : List Edit) : Prop := ∀ n l, r.find? n = some l ↔ Told j n l

section Follows

variable {r : Registry} {j : List Edit} {e : Edit}

lemma follows_empty : Follows empty [] := by
  intro n l
  constructor
  · intro h
    cases h
  · rintro ⟨before, v, u, since, hj, -⟩
    simp at hj

/-- **The core lemma**: an edit that goes through extends the journal. -/
theorem Follows.made (h : Follows r j) (hf : r.fault? e = none) :
    Follows (r.made e) (j ++ [e]) := by
  intro n l
  have ht : ∀ l, r.find? n = some l ↔ Told j n l := h n
  rw [find?_made hf]
  by_cases he : e.Turns n
  · -- the name is added or removed
    cases e with
    | add m venue t =>
      obtain rfl : m = n := he
      simp only [Edit.leaves, ↓reduceIte, told_concat_add, Option.some_inj, eq_comm]
    | remove m =>
      obtain rfl : m = n := he
      simp only [Edit.leaves, ↓reduceIte, not_told_concat_remove, reduceCtorEq]
    | update m t => exact he.elim
    | record m time => exact he.elim
  · rw [told_concat he, Edit.leaves_of_not_turns he, Option.map_eq_some_iff]
    simp only [ht]

/-- The registry after any edits follows its journal. -/
theorem follows_after (h : Follows r j) (es : List Edit) :
    Follows (r.after es) (j ++ r.journal es) := by
  induction es generalizing r j with
  | nil => simpa [after, journal] using h
  | cons e es ih =>
    show Follows ((r.next e).after es) (j ++ r.journal (e :: es))
    unfold journal next
    cases hp : r.post e with
    | ok r' =>
      obtain ⟨hf, rfl⟩ := post_eq_ok.1 hp
      have hs := ih (h.made hf)
      rwa [List.append_assoc, List.singleton_append] at hs
    | error f => exact ih h

end Follows

/-! ### The journal read off directly -/

/-- The terms last brought for a name that was added with `t`. -/
def agreed (n : String) (t : Terms) (since : List Edit) : Terms :=
  (since.filterMap (Edit.terms? n)).getLast?.getD t

/-- The time is the latest of the first one and those at which trades on the venue were noted. -/
structure Latest (n : String) (first : UInt64) (since : List Edit) (time : UInt64) : Prop where
  first_le : first ≤ time
  noted_le : ∀ x, .record n x ∈ since → x ≤ time
  attained : time = first ∨ .record n time ∈ since

/-- The listing of a name by the journal: the venue with which it was last added, the terms agreed
since, and the latest trade noted since. -/
def Stands (j : List Edit) (n : String) (l : Listing) : Prop :=
  ∃ before venue t since, j = before ++ .add n venue t :: since ∧ (∀ e ∈ since, ¬ e.Turns n) ∧
    l.venue = venue ∧
    l.terms = { agreed n t since with lastTrade := l.terms.lastTrade } ∧
    Latest n t.lastTrade since l.terms.lastTrade

section Stands

variable {n : String} {first x y : UInt64} {since : List Edit} {e : Edit} {t : Terms}

lemma Latest.unique (hx : Latest n first since x) (hy : Latest n first since y) : x = y := by
  have le : ∀ {x y}, Latest n first since x → Latest n first since y → x ≤ y := by
    intro x y hx hy
    rcases hx.attained with rfl | hm
    · exact hy.first_le
    · exact hy.noted_le x hm
  exact UInt64.le_antisymm (le hx hy) (le hy hx)

lemma Latest.concat (h : Latest n first since x) (he : ∀ y, e ≠ .record n y) :
    Latest n first (since ++ [e]) x := by
  refine ⟨h.first_le, fun z hz => ?_, h.attained.imp_right fun hm => List.mem_append_left _ hm⟩
  rcases List.mem_append.1 hz with hz | hz
  · exact h.noted_le z hz
  · exact absurd (List.mem_singleton.1 hz).symm (he z)

lemma Latest.concat_record (h : Latest n first since x) (y : UInt64) :
    Latest n first (since ++ [.record n y]) (if x < y then y else x) := by
  have hx : x ≤ if x < y then y else x := by
    split
    next hlt => exact UInt64.le_of_lt hlt
    next => exact UInt64.le_refl x
  have hy : y ≤ if x < y then y else x := by
    split
    next => exact UInt64.le_refl y
    next hge => exact UInt64.not_lt.1 hge
  refine ⟨UInt64.le_trans h.first_le hx, fun z hz => ?_, ?_⟩
  · rcases List.mem_append.1 hz with hz | hz
    · exact UInt64.le_trans (h.noted_le z hz) hx
    · cases List.mem_singleton.1 hz
      exact hy
  · split
    · exact .inr (by simp)
    · exact h.attained.imp_right fun hm => List.mem_append_left _ hm

lemma agreed_concat :
    agreed n t (since ++ [e]) = (e.terms? n).getD (agreed n t since) := by
  unfold agreed
  rw [List.filterMap_append]
  cases he : e.terms? n with
  | none => simp [he]
  | some u => simp [he]

/-- What the edits since an addition make of a listing. -/
lemma foldl_amend (venue : Venue) (t : Terms) (since : List Edit) :
    (since.foldl (Edit.amend n) ⟨venue, t⟩).venue = venue ∧
      ∃ time, Latest n t.lastTrade since time ∧
        (since.foldl (Edit.amend n) ⟨venue, t⟩).terms
          = { agreed n t since with lastTrade := time } := by
  induction since using List.reverseRecOn with
  | nil => exact ⟨rfl, t.lastTrade, ⟨UInt64.le_refl _, nofun, .inl rfl⟩, rfl⟩
  | append_singleton since e ih =>
    obtain ⟨hv, time, hl, ht⟩ := ih
    rw [List.foldl_append, List.foldl_cons, List.foldl_nil, agreed_concat]
    generalize since.foldl (Edit.amend n) ⟨venue, t⟩ = l at hv ht ⊢
    refine ⟨by rw [Edit.amend_venue, hv], ?_⟩
    cases e with
    | add m venue' u => exact ⟨time, hl.concat nofun, ht⟩
    | remove m => exact ⟨time, hl.concat nofun, ht⟩
    | update m u =>
      refine ⟨time, hl.concat nofun, ?_⟩
      by_cases hm : m = n
      · simp [Edit.amend, Edit.terms?, hm, ht]
      · simp [Edit.amend, Edit.terms?, hm, ht]
    | record m y =>
      by_cases hm : m = n
      · subst hm
        refine ⟨_, hl.concat_record y, ?_⟩
        simp [Edit.amend, Edit.terms?, ht]
      · refine ⟨time, hl.concat fun z hz => hm ?_, ?_⟩
        · cases hz
          rfl
        · simp [Edit.amend, Edit.terms?, hm, ht]

theorem told_iff_stands {j : List Edit} {l : Listing} : Told j n l ↔ Stands j n l := by
  constructor
  · rintro ⟨before, venue, t, since, hj, hs, rfl⟩
    obtain ⟨hv, time, hl, ht⟩ := foldl_amend (n := n) venue t since
    refine ⟨before, venue, t, since, hj, hs, hv, ?_, ?_⟩
    · rw [ht]
    · rw [ht]
      exact hl
  · rintro ⟨before, venue, t, since, hj, hs, hv, ht, hl⟩
    obtain ⟨hv', time, hl', ht'⟩ := foldl_amend (n := n) venue t since
    refine ⟨before, venue, t, since, hj, hs, ?_⟩
    rw [hl.unique hl', ← ht'] at ht
    cases l
    generalize since.foldl (Edit.amend n) ⟨venue, t⟩ = l' at hv' ht
    cases l'
    simp only at hv hv' ht
    rw [hv, hv', ht]

end Stands

/-! ### All edits together -/

section Runs

variable {r : Registry} {n : String} {l l' : Listing} {e : Edit}

/-- The last trade does not go back while the name stays registered. -/
lemma lastTrade_le_next (h : r.find? n = some l) (h' : (r.next e).find? n = some l') :
    l.terms.lastTrade ≤ l'.terms.lastTrade := by
  unfold next at h'
  split at h'
  next r' hr =>
    obtain ⟨hf, rfl⟩ := post_eq_ok.1 hr
    rw [find?_made hf, h] at h'
    by_cases he : e.Turns n
    · cases e with
      | add m venue t =>
        obtain rfl : m = n := he
        exact absurd (mem_names.2 ⟨l, h⟩) (notMem_of_add hf)
      | remove m =>
        obtain rfl : m = n := he
        simp [Edit.leaves] at h'
      | update m t => exact he.elim
      | record m time => exact he.elim
    · rw [Edit.leaves_of_not_turns he, Option.map_some, Option.some_inj] at h'
      exact h' ▸ Edit.le_amend
  next =>
    rw [h] at h'
    cases h'
    exact UInt64.le_refl _

lemma lastTrade_le_after (es : List Edit) (h : r.find? n = some l)
    (hes : ∀ ds, ds <+: es → n ∈ (r.after ds).names) :
    ∃ l', (r.after es).find? n = some l' ∧ l.terms.lastTrade ≤ l'.terms.lastTrade := by
  induction es generalizing r l with
  | nil => exact ⟨l, h, UInt64.le_refl _⟩
  | cons e es ih =>
    have hn : n ∈ (r.next e).names := hes [e] (by simp)
    obtain ⟨l₁, hl₁⟩ := mem_names.1 hn
    have hle := lastTrade_le_next h hl₁
    obtain ⟨l', hl', hle'⟩ := ih hl₁ fun ds hds => hes (e :: ds) (by simpa using hds)
    exact ⟨l', hl', UInt64.le_trans hle hle'⟩

theorem Sound.after (h : r.Sound) (es : List Edit) : (r.after es).Sound := by
  induction es generalizing r with
  | nil => exact h
  | cons e es ih => exact ih (h.next e)

lemma Sound.bytes_increasing (h : r.Sound) : (r.names.map Text.bytes).Pairwise (· < ·) := by
  unfold names
  rw [List.map_map, List.pairwise_map]
  refine h.ordered.imp fun hlt => ?_
  exact Text.bytes_lt_bytes.2 hlt

lemma Sound.nodup_names (h : r.Sound) : r.names.Nodup := by
  unfold names List.Nodup
  rw [List.pairwise_map]
  exact h.ordered.imp fun hlt => hlt.ne

/-- **The registry by its history.**  After any edits the names are listed once each, in the order
of their bytes; the listing of a name is what the journal tells of it, and a name that is not
listed is unknown; the last trade of a name does not go back for as long as the name stays
registered; an edit leaves all other names alone, and one that fails leaves everything alone. -/
theorem registry_tells_journal (es : List Edit) :
    ((empty.after es).names.map Text.bytes).Pairwise (· < ·) ∧ (empty.after es).names.Nodup ∧
    (∀ n f, (empty.after es).get n = .error f ↔ n ∉ (empty.after es).names ∧ f = .unknownVenue n) ∧
    (∀ n l, (empty.after es).get n = .ok l ↔ Stands (empty.journal es) n l) ∧
    (∀ n l more, (empty.after es).get n = .ok l →
      (∀ ds, ds <+: more → n ∈ ((empty.after es).after ds).names) →
        ∃ l', ((empty.after es).after more).get n = .ok l' ∧
          l.terms.lastTrade ≤ l'.terms.lastTrade) ∧
    (∀ e n, e.name ≠ n → ((empty.after es).next e).get n = (empty.after es).get n) ∧
    (∀ e f, (empty.after es).post e = .error f ↔ (empty.after es).fault? e = some f) ∧
    (∀ e f, (empty.after es).post e = .error f → (empty.after es).next e = empty.after es) := by
  have sound : (empty.after es).Sound := sound_empty.after es
  have follows : Follows (empty.after es) (empty.journal es) := follows_after follows_empty es
  refine ⟨sound.bytes_increasing, sound.nodup_names, fun n f => get_eq_error, fun n l => ?_,
    fun n l more hl hmore => ?_, fun e n hn => ?_, fun e f => post_eq_error, fun e f hf => ?_⟩
  · rw [get_eq_ok, follows n l, told_iff_stands]
  · obtain ⟨l', hl', hle⟩ := lastTrade_le_after more (get_eq_ok.1 hl) hmore
    exact ⟨l', get_eq_ok.2 hl', hle⟩
  · unfold get
    rw [find?_next_of_ne hn]
  · unfold next
    rw [hf]

end Runs

end LeverageKeeper.Registry
