import LeverageKeeper.Failure
import Mathlib.Tactic.Common

/-!
Sequences of computations that can fail: what it takes for one to succeed, what one breaks on, when
one is bound to be refused or not to crash, which refusals one can end in, and when two of them come
to the same but for their values.
-/

namespace LeverageKeeper

section

variable {ε α β : Type}

/-! ### Success and failure of a sequence -/

theorem bind_eq_ok {x : Except ε α} {k : α → Except ε β} {b : β} :
    x >>= k = .ok b ↔ ∃ a, x = .ok a ∧ k a = .ok b := by
  cases x <;> simp [bind, Except.bind]

theorem bind_eq_error {x : Except ε α} {k : α → Except ε β} {e : ε} :
    x >>= k = .error e ↔ x = .error e ∨ ∃ a, x = .ok a ∧ k a = .error e := by
  cases x <;> simp [bind, Except.bind]

theorem ok_bind (a : α) (k : α → Except ε β) : (Except.ok a >>= k) = k a := rfl

@[simp] lemma pure_eq_ok {a b : α} : (pure a : Except ε α) = .ok b ↔ a = b := by
  simp [pure, Except.pure]

@[simp] lemma lift_ok (a : α) : (liftM (Except.ok a : Checked α) : Outcome α) = .ok a := rfl

@[simp] lemma lift_error (r : Refusal) :
    (liftM (Except.error r : Checked α) : Outcome α) = .error (.refused r) := rfl

lemma lift_eq_ok {x : Checked α} {a : α} : (liftM x : Outcome α) = .ok a ↔ x = .ok a := by
  cases x <;> simp

lemma lift_eq_error {x : Checked α} {e : Failure} :
    (liftM x : Outcome α) = .error e ↔ ∃ r, x = .error r ∧ e = .refused r := by
  cases x <;> simp [eq_comm]

lemma map_eq_ok {x : Except ε α} {g : α → β} {b : β} :
    x.map g = .ok b ↔ ∃ a, x = .ok a ∧ g a = b := by
  cases x <;> simp [Except.map]

lemma map_eq_error {x : Except ε α} {g : α → β} {e : ε} :
    x.map g = .error e ↔ x = .error e := by
  cases x <;> simp [Except.map]

lemma toOption_eq_some {x : Except ε α} {a : α} : x.toOption = some a ↔ x = .ok a := by
  cases x <;> simp [Except.toOption]

lemma exists_error {x : Except ε α} (h : ∀ a, x ≠ .ok a) : ∃ e, x = .error e := by
  cases x with
  | ok a => exact absurd rfl (h a)
  | error e => exact ⟨e, rfl⟩

/-! ### Crashes -/

/-- What the computation broke on, if it did. -/
def crash? : Outcome α → Option Crash
  | .error (.crashed c) => some c
  | _ => none

lemma crash?_eq_some {x : Outcome α} {c : Crash} : crash? x = some c ↔ x = .error (.crashed c) := by
  rcases x with (r | c') | a <;> simp [crash?]

/-! ### Bound to be refused -/

/-- The computation is refused, whatever the reason. -/
def Refused (x : Outcome α) : Prop := ∃ r, x = .error (.refused r)

variable {k : α → Outcome β}

/-- A check either refuses itself or hands on to what is refused. -/
lemma refused_bind {x : Checked α} (h : ∀ a, x = .ok a → Refused (k a)) :
    Refused ((liftM x : Outcome α) >>= k) := by
  cases x with
  | ok a => exact h a rfl
  | error r => exact ⟨r, rfl⟩

/-- What is refused at its start is refused. -/
lemma Refused.bind {x : Outcome α} (h : Refused x) : Refused (x >>= k) := by
  obtain ⟨r, rfl⟩ := h
  exact ⟨r, rfl⟩

lemma Refused.map {x : Outcome α} (h : Refused x) (g : α → β) : Refused (x.map g) := by
  obtain ⟨r, rfl⟩ := h
  exact ⟨r, rfl⟩

/-! ### Bound not to crash -/

/-- The computation succeeds or is refused. -/
def Steady (x : Outcome α) : Prop := ∀ c, x ≠ .error (.crashed c)

lemma steady_ok (a : α) : Steady (.ok a) := nofun

lemma steady_of_ok {x : Outcome α} (h : ∃ a, x = .ok a) : Steady x := by
  obtain ⟨a, rfl⟩ := h
  exact steady_ok a

lemma steady_refused (r : Refusal) : Steady (.error (.refused r) : Outcome α) := nofun

/-- What neither crashes nor succeeds is refused. -/
lemma Steady.refused {x : Outcome α} (hx : Steady x) (h : ∀ a, x ≠ .ok a) : Refused x := by
  rcases x with (r | c) | a
  · exact ⟨r, rfl⟩
  · exact absurd rfl (hx c)
  · exact absurd rfl (h a)

/-- A check does not crash. -/
lemma steady_lift (x : Checked α) : Steady (liftM x : Outcome α) := by
  cases x with
  | ok a => exact steady_ok a
  | error r => exact steady_refused r

lemma steady_bind {x : Outcome α} (hx : Steady x) (hk : ∀ a, x = .ok a → Steady (k a)) :
    Steady (x >>= k) := by
  cases x with
  | ok a => exact hk a rfl
  | error e =>
    intro c hc
    obtain rfl : e = .crashed c := by simpa [bind, Except.bind] using hc
    exact hx c rfl

/-- What is only checked hands its value on. -/
lemma steady_lift_bind {x : Checked α} (hk : ∀ a, x = .ok a → Steady (k a)) :
    Steady ((liftM x : Outcome α) >>= k) :=
  steady_bind (steady_lift x) fun a ha => hk a (lift_eq_ok.1 ha)

/-! ### Kinds of refusal -/

/-- Every refusal of the computation is of the given kind. -/
def RefusesOnly (kind : Refusal → Prop) (x : Outcome α) : Prop :=
  ∀ r, x = .error (.refused r) → kind r

variable {kind : Refusal → Prop}

lemma refusesOnly_ok (a : α) : RefusesOnly kind (.ok a) := nofun

lemma refusesOnly_error {r : Refusal} (h : kind r) :
    RefusesOnly kind (.error (.refused r) : Outcome α) := by
  intro r' hr
  cases hr
  exact h

lemma refusesOnly_bind {x : Outcome α} (hx : RefusesOnly kind x)
    (hk : ∀ a, x = .ok a → RefusesOnly kind (k a)) : RefusesOnly kind (x >>= k) := by
  cases x with
  | ok a => exact hk a rfl
  | error e =>
    intro r hr
    obtain rfl : e = .refused r := by simpa [bind, Except.bind] using hr
    exact hx r rfl

lemma refusesOnly_lift {x : Checked α} (h : ∀ r, x = .error r → kind r) :
    RefusesOnly kind (liftM x : Outcome α) := by
  intro r hr
  obtain ⟨r', hx, he⟩ := lift_eq_error.1 hr
  cases he
  exact h r hx

lemma refusesOnly_orCrash (c : Crash) (x : Option α) : RefusesOnly kind (orCrash c x) := by
  cases x with
  | some a => exact refusesOnly_ok a
  | none => exact nofun

lemma refusesOnly_orRefuse {r : Refusal} (x : Option α) (h : kind r) :
    RefusesOnly kind (liftM (orRefuse r x) : Outcome α) := by
  cases x with
  | some a => exact refusesOnly_ok a
  | none => exact refusesOnly_error h

lemma refusesOnly_demand {p : Prop} [Decidable p] {r : Refusal} (h : ¬ p → kind r) :
    RefusesOnly kind (liftM (demand p r) : Outcome Unit) := by
  unfold demand
  split
  next => exact refusesOnly_ok _
  next hp => exact refusesOnly_error (h hp)

lemma RefusesOnly.mono {kind' : Refusal → Prop} {x : Outcome α} (h : RefusesOnly kind x)
    (hk : ∀ r, kind r → kind' r) : RefusesOnly kind' x := fun r hr => hk r (h r hr)

/-! ### The same but for the values -/

/-- Sequences that go on alike from starts that are alike. -/
lemma map_bind_eq_map {α' γ : Type} {x : Except ε α} {x' : Except ε α'} {k : α → Except ε β}
    {k' : α' → Except ε γ} {i : α → α'} {g : β → γ} (hx : x' = x.map i)
    (h : ∀ a, k' (i a) = (k a).map g) : x' >>= k' = (x >>= k).map g := by
  subst hx
  cases x with
  | ok a => exact h a
  | error e => rfl

/-- Sequences that go on alike from the same start. -/
lemma bind_eq_map {γ : Type} {x : Except ε α} {k : α → Except ε β} {k' : α → Except ε γ}
    {g : β → γ} (h : ∀ a, k' a = (k a).map g) : x >>= k' = (x >>= k).map g :=
  map_bind_eq_map (i := id) (by cases x <;> rfl) h

end

end LeverageKeeper
