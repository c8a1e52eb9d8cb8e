import LeverageKeeper.Decimal.Text
import Mathlib.Data.List.TakeWhile
import Mathlib.Tactic.Positivity

/-!
What the texts of numbers spell, said without a reader.  A plain text of a decimal is a sign or none
and digits with at most one point among them.  It spells the number that the digits come to, at as
many of its places as fit into a decimal; the places that do not fit are rounded away, half up.
Readers of decimals differ in what else they take, an exponent or underscores between the digits,
but on plain texts they read what is spelled.

The core lemma (`foldlM_fraction`) follows the reader through the digits behind the point: what is
spelled does not depend on how far it has come.
-/

namespace LeverageKeeper

/-! ### Rows of digits -/

/-- Digits, at least one of them, that come to `n`. -/
structure DigitRow (cs : List Char) (n : ℕ) : Prop where
  digits : ∀ c ∈ cs, c.isDigit
  nonempty : cs ≠ []
  value : Nat.ofDigitChars 10 cs 0 = n

section Rows

variable {cs : List Char} {n m : ℕ}

lemma digit?_of_isDigit {c : Char} (h : c.isDigit) : digit? c = some (c.toNat - '0'.toNat) := by
  have hc : '0' ≤ c ∧ c ≤ '9' := by
    rw [Char.isDigit, Bool.and_eq_true, decide_eq_true_eq, decide_eq_true_eq] at h
    exact h
  exact if_pos hc

lemma digit?_of_not_isDigit {c : Char} (h : ¬ c.isDigit) : digit? c = none := by
  refine if_neg fun hc => h ?_
  rw [Char.isDigit, Bool.and_eq_true, decide_eq_true_eq, decide_eq_true_eq]
  exact hc

lemma toNat_sub_lt_of_isDigit {c : Char} (h : c.isDigit) : c.toNat - '0'.toNat < 10 := by
  rw [Char.isDigit, Bool.and_eq_true, decide_eq_true_eq, decide_eq_true_eq] at h
  have hle : c.toNat ≤ '9'.toNat := UInt32.le_iff_toNat_le.1 h.2
  have hnine : '9'.toNat = 57 := rfl
  have hzero : '0'.toNat = 48 := rfl
  omega

lemma foldlM_digit? (h : ∀ c ∈ cs, c.isDigit) (n : ℕ) :
    cs.foldlM (fun n c => (digit? c).map (n * 10 + ·)) n = some (Nat.ofDigitChars 10 cs n) := by
  induction cs generalizing n with
  | nil => rfl
  | cons c cs ih =>
    have hc : digit? c = some (c.toNat - '0'.toNat) := digit?_of_isDigit (h c (by simp))
    rw [List.foldlM_cons, hc, Nat.ofDigitChars_cons, Nat.mul_comm 10 n]
    exact ih (fun d hd => h d (by simp [hd])) _

lemma foldlM_digit?_eq_some :
    cs.foldlM (fun n c => (digit? c).map (n * 10 + ·)) n = some m ↔
      (∀ c ∈ cs, c.isDigit) ∧ Nat.ofDigitChars 10 cs n = m := by
  by_cases h : ∀ c ∈ cs, c.isDigit
  · rw [foldlM_digit? h, Option.some.injEq, and_iff_right h]
  · refine iff_of_false (fun hread => h ?_) fun hread => h hread.1
    clear h
    induction cs generalizing n with
    | nil => exact fun c hc => absurd hc List.not_mem_nil
    | cons c cs ih =>
      rw [List.foldlM_cons] at hread
      obtain ⟨k, hk, hread⟩ := Option.bind_eq_some_iff.1 hread
      have hc : c.isDigit := by
        by_contra hc
        rw [digit?_of_not_isDigit hc] at hk
        cases hk
      exact List.forall_mem_cons.2 ⟨hc, ih hread⟩

/-- **A row of digits is read as what it comes to**, and nothing else is read as a number. -/
theorem readDigits?_eq_some : readDigits? cs = some n ↔ DigitRow cs n := by
  have key : DigitRow cs n ↔
      cs ≠ [] ∧ (∀ c ∈ cs, c.isDigit) ∧ Nat.ofDigitChars 10 cs 0 = n :=
    ⟨fun h => ⟨h.nonempty, h.digits, h.value⟩, fun h => ⟨h.2.1, h.1, h.2.2⟩⟩
  rw [key]
  unfold readDigits?
  split
  · exact iff_of_false nofun fun h => h.1 rfl
  next hne => rw [foldlM_digit?_eq_some, and_iff_right hne]

theorem readUnsigned?_eq_some :
    readUnsigned? cs = some n ↔
      ∃ digits, (cs = digits ∨ cs = '+' :: digits) ∧ DigitRow digits n := by
  have hplus : ∀ {digits : List Char}, ¬ DigitRow ('+' :: digits) n := fun h =>
    absurd (h.digits '+' List.mem_cons_self) (by decide)
  unfold readUnsigned?
  split
  next digits =>
    rw [readDigits?_eq_some]
    constructor
    · exact fun h => ⟨digits, .inr rfl, h⟩
    · rintro ⟨digits', rfl | h, hrow⟩
      · exact absurd hrow hplus
      · cases h
        exact hrow
  next hne =>
    rw [readDigits?_eq_some]
    constructor
    · exact fun h => ⟨cs, .inl rfl, h⟩
    · rintro ⟨digits, rfl | h, hrow⟩
      · exact hrow
      · exact absurd h (hne digits)

/-- Digits only add to a number. -/
lemma le_ofDigitChars (cs : List Char) (n : ℕ) : n ≤ Nat.ofDigitChars 10 cs n := by
  rw [Nat.ofDigitChars_eq_ofDigitChars_zero]
  have hpow : 1 ≤ 10 ^ cs.length := Nat.one_le_pow _ _ (by decide)
  have hmul : 1 * n ≤ 10 ^ cs.length * n := Nat.mul_le_mul_right n hpow
  omega

/-- Fewer digits come to less than the power of ten after them. -/
lemma ofDigitChars_lt (h : ∀ c ∈ cs, c.isDigit) : Nat.ofDigitChars 10 cs 0 < 10 ^ cs.length := by
  induction cs with
  | nil => decide
  | cons c cs ih =>
    have hc := toNat_sub_lt_of_isDigit (h c List.mem_cons_self)
    have hcs := ih fun d hd => h d (List.mem_cons_of_mem _ hd)
    rw [Nat.ofDigitChars_cons, Nat.ofDigitChars_eq_ofDigitChars_zero, List.length_cons,
      Nat.pow_succ]
    have hmul : 10 ^ cs.length * (10 * 0 + (c.toNat - '0'.toNat)) ≤ 10 ^ cs.length * 9 :=
      Nat.mul_le_mul_left _ (by omega)
    omega

/-- The digits before others are what is left when these are cut. -/
lemma ofDigitChars_div (h : ∀ c ∈ cs, c.isDigit) (n : ℕ) :
    Nat.ofDigitChars 10 cs n / 10 ^ cs.length = n := by
  rw [Nat.ofDigitChars_eq_ofDigitChars_zero, Nat.mul_add_div (by positivity),
    Nat.div_eq_of_lt (ofDigitChars_lt h), Nat.add_zero]

end Rows

namespace Decimal

/-! ### Rounding to the places that fit -/

/-- `n` without its last `k` digits, rounded half up. -/
def halfUp (n k : ℕ) : ℕ := (n + 10 ^ k / 2) / 10 ^ k

/-- `m` with `s` places is `n` with `places` of them, rounded to the most places at which it
fits. -/
structure Fitted (n places m s : ℕ) : Prop where
  le : s ≤ places
  le_max : s ≤ maxScale
  value : m = halfUp n (places - s)
  lt : m < bound
  most : ∀ s', s < s' → s' ≤ places → s' ≤ maxScale → bound ≤ halfUp n (places - s')

section Rounding

variable {n places m s m' s' j k : ℕ}

@[simp] lemma halfUp_zero (n : ℕ) : halfUp n 0 = n := by simp [halfUp]

lemma halfUp_succ (n k : ℕ) : halfUp n (k + 1) = (n / 10 ^ k + 5) / 10 := by
  have hhalf : 10 ^ (k + 1) / 2 = 5 * 10 ^ k := by
    rw [Nat.pow_succ]
    omega
  unfold halfUp
  rw [hhalf, Nat.pow_succ, ← Nat.div_div_eq_div_mul, Nat.add_mul_div_right _ _ (by positivity)]

/-- What is cut is no more than what is rounded. -/
lemma div_le_halfUp (n k : ℕ) : n / 10 ^ k ≤ halfUp n k :=
  Nat.div_le_div_right (Nat.le_add_right _ _)

lemma div_pow_anti (n : ℕ) (h : j ≤ k) : n / 10 ^ k ≤ n / 10 ^ j :=
  Nat.div_le_div_left (Nat.pow_le_pow_right (by decide) h) (by positivity)

/-- A number fits in one way at most. -/
theorem Fitted.unique (h : Fitted n places m s) (h' : Fitted n places m' s') : m = m' ∧ s = s' := by
  obtain rfl : s = s' := by
    rcases Nat.lt_trichotomy s s' with hlt | rfl | hlt
    · have hge := h.most s' hlt h'.le h'.le_max
      rw [← h'.value] at hge
      exact absurd h'.lt (Nat.not_lt.2 hge)
    · rfl
    · have hge := h'.most s hlt h.le h.le_max
      rw [← h.value] at hge
      exact absurd h.lt (Nat.not_lt.2 hge)
  exact ⟨h.value.trans h'.value.symm, rfl⟩

end Rounding

/-! ### Plain texts -/

/-- Digits with at most one point before, between or behind them. -/
structure Numeral (cs whole fraction : List Char) : Prop where
  text : cs = whole ∧ fraction = [] ∨ cs = whole ++ '.' :: fraction
  digits : ∀ c ∈ whole ++ fraction, c.isDigit
  nonempty : whole ++ fraction ≠ []

/-- What a plain text spells: the number of its digits at the places that fit, with the sign before
them.  Zero has no sign. -/
def Spells (cs : List Char) (x : Decimal) : Prop :=
  ∃ minus body whole fraction,
    (cs = '-' :: body ∧ minus = true ∨ (cs = '+' :: body ∨ cs = body) ∧ minus = false) ∧
    Numeral body whole fraction ∧
    Fitted (Nat.ofDigitChars 10 (whole ++ fraction) 0) fraction.length x.digits x.scale ∧
    x.negative = (minus && decide (x.digits ≠ 0))

/-- A text that has neither an exponent nor underscores in it. -/
def IsPlain (s : String) : Prop := ∀ c ∈ s.toList, c ≠ '_' ∧ c ≠ 'e' ∧ c ≠ 'E'

instance (s : String) : Decidable (IsPlain s) :=
  List.decidableBAll _ s.toList

/-- The reader takes a plain text for what it spells, and reads no plain text that spells
nothing. -/
def ReadsPlain (read? : String → Option Decimal) : Prop :=
  ∀ s, IsPlain s → ∀ x, read? s = some x ↔ Spells s.toList x

/-! ### The reader on digits -/

/-- What a reading amounts to once the text is at its end. -/
def Reading.result? (w : Reading) : Option (ℕ × ℕ) :=
  if w.started then some (w.digits, w.scale) else none

lemma readMagnitude?_eq_bind (cs : List Char) :
    readMagnitude? cs = (cs.foldlM Reading.step? {}).bind Reading.result? := rfl

section Digits

variable {cs whole fraction : List Char} {n places m s m' s' d : ℕ} {started : Bool}

lemma step?_digit {c : Char} (hc : c.isDigit) (point started : Bool) :
    Reading.step? ⟨m, s, point, started, false⟩ c
      = Reading.digit? ⟨m, s, point, started, false⟩ (c.toNat - '0'.toNat) := by
  simp only [Reading.step?, digit?_of_isDigit hc, Bool.false_eq_true, ↓reduceIte]

/-- Digits before the point join the number, and have to fit, all of them. -/
lemma foldlM_whole (hcs : ∀ c ∈ cs, c.isDigit) (hm : m < bound) :
    cs.foldlM Reading.step? ⟨m, 0, false, started, false⟩ =
      if Nat.ofDigitChars 10 cs m < bound then
        some ⟨Nat.ofDigitChars 10 cs m, 0, false, started || !cs.isEmpty, false⟩
      else none := by
  induction cs generalizing m started with
  | nil => simp [hm]
  | cons c cs ih =>
    rw [List.foldlM_cons, step?_digit (hcs c List.mem_cons_self), Nat.ofDigitChars_cons,
      Nat.mul_comm 10]
    unfold Reading.digit?
    rw [if_neg (by simp [Reading.atLimit])]
    dsimp only
    split
    next hfit =>
      refine (ih (fun d hd => hcs d (List.mem_cons_of_mem _ hd)) hfit).trans ?_
      simp
    next hover =>
      rw [if_neg fun h => hover (Nat.lt_of_le_of_lt (le_ofDigitChars cs _) h)]
      rfl

/-- What is closed stays as it is. -/
lemma foldlM_full {w : Reading} (hcs : ∀ c ∈ cs, c.isDigit) (hw : w.full = true) :
    cs.foldlM Reading.step? w = some w := by
  induction cs with
  | nil => rfl
  | cons c cs ih =>
    have hc := digit?_of_isDigit (hcs c List.mem_cons_self)
    rw [List.foldlM_cons, Reading.step?, hc]
    dsimp only
    rw [if_pos hw]
    exact ih fun d hd => hcs d (List.mem_cons_of_mem _ hd)

lemma Fitted.eq_some_iff (h : Fitted n places m s) :
    some (m, s) = some (m', s') ↔ Fitted n places m' s' := by
  rw [Option.some.injEq, Prod.mk.injEq]
  constructor
  · rintro ⟨rfl, rfl⟩
    exact h
  · exact h.unique

/-- The first digit for which there is no room rounds those before it, and the rest is dropped. -/
lemma close?_fraction (hcs : ∀ c ∈ cs, c.isDigit) (hd : d < 10) (hm : m < bound)
    (hs : s ≤ maxScale) (hfull : s = maxScale ∨ bound ≤ m * 10 + d) :
    (Reading.close? ⟨m, s, true, true, false⟩ d).bind
        (fun w => (cs.foldlM Reading.step? w).bind Reading.result?) = some (m', s') ↔
      Fitted (Nat.ofDigitChars 10 cs (m * 10 + d)) (s + (cs.length + 1)) m' s' := by
  set n := Nat.ofDigitChars 10 cs (m * 10 + d) with hn
  have hcut : n / 10 ^ cs.length = m * 10 + d := ofDigitChars_div hcs _
  have hround : halfUp n (s + (cs.length + 1) - s) = (m * 10 + d + 5) / 10 := by
    rw [Nat.add_sub_cancel_left, halfUp_succ, hcut]
  -- with any more places the digits do not fit
  have hmost : ∀ k, s < k → k ≤ s + (cs.length + 1) → k ≤ maxScale →
      bound ≤ halfUp n (s + (cs.length + 1) - k) := by
    intro k hlt hle hmax
    have hover : bound ≤ m * 10 + d := hfull.resolve_left (by omega)
    calc bound ≤ n / 10 ^ cs.length := hcut.symm ▸ hover
      _ ≤ n / 10 ^ (s + (cs.length + 1) - k) := div_pow_anti n (by omega)
      _ ≤ halfUp n (s + (cs.length + 1) - k) := div_le_halfUp n _
  have hclosed : ∀ w : Reading, w.full = true → w.started = true →
      (cs.foldlM Reading.step? w).bind Reading.result? = some (w.digits, w.scale) := by
    intro w hw hstarted
    rw [foldlM_full hcs hw, Option.bind_some, Reading.result?, if_pos hstarted]
  have hkept : ∀ {k : ℕ}, k = (m * 10 + d + 5) / 10 → k < bound →
      Fitted n (s + (cs.length + 1)) k s := by
    rintro k rfl hlt
    exact ⟨Nat.le_add_right _ _, hs, hround.symm, hlt, hmost⟩
  unfold Reading.close?
  dsimp only
  split
  next hsmall =>
    rw [Option.bind_some, hclosed _ rfl rfl]
    exact (hkept (by omega) hm).eq_some_iff
  next hlarge =>
    split
    next hfit =>
      rw [Option.bind_some, hclosed _ rfl rfl]
      exact (hkept (by omega) hfit).eq_some_iff
    next hover =>
      have hnone : bound ≤ halfUp n (s + (cs.length + 1) - s) := by
        rw [hround]
        omega
      split
      next hzero =>
        refine iff_of_false nofun fun h => absurd h.lt (Nat.not_lt.2 ?_)
        rw [h.value]
        rcases Nat.eq_or_lt_of_le (hzero ▸ Nat.zero_le s' : s ≤ s') with rfl | hlt
        · exact hnone
        · exact hmost s' hlt h.le h.le_max
      next hpos =>
        have hshorter : Fitted n (s + (cs.length + 1)) ((m + 5) / 10) (s - 1) := by
          refine ⟨by omega, by omega, ?_, by omega, fun k hlt hle hmax => ?_⟩
          · rw [show s + (cs.length + 1) - (s - 1) = cs.length + 1 + 1 by omega, halfUp_succ,
              Nat.pow_succ, ← Nat.div_div_eq_div_mul, hcut, Nat.mul_comm,
              Nat.mul_add_div (by decide), Nat.div_eq_of_lt hd, Nat.add_zero]
          · rcases Nat.eq_or_lt_of_le (by omega : s ≤ k) with rfl | hlt
            · exact hnone
            · exact hmost k hlt hle hmax
        rw [Option.bind_some, hclosed _ rfl rfl]
        exact hshorter.eq_some_iff

/-- **The core lemma**: behind the point, the reader keeps the places that fit and rounds. -/
lemma foldlM_fraction (hcs : ∀ c ∈ cs, c.isDigit) (hm : m < bound) (hs : s ≤ maxScale)
    (hstarted : started = true ∨ m = 0 ∧ s = 0 ∧ cs ≠ []) :
    (cs.foldlM Reading.step? ⟨m, s, true, started, false⟩).bind Reading.result? = some (m', s') ↔
      Fitted (Nat.ofDigitChars 10 cs m) (s + cs.length) m' s' := by
  induction cs generalizing m s started with
  | nil =>
    obtain rfl : started = true := hstarted.resolve_right fun h => h.2.2 rfl
    refine Fitted.eq_some_iff ⟨Nat.le_refl _, hs, ?_, hm, fun k hlt hle => ?_⟩
    · simp
    · exact absurd hlt (Nat.not_lt.2 hle)
  | cons c cs ih =>
    have hc := hcs c List.mem_cons_self
    have hrest : ∀ c ∈ cs, c.isDigit := fun d hd => hcs d (List.mem_cons_of_mem _ hd)
    have hd := toNat_sub_lt_of_isDigit hc
    rw [List.foldlM_cons, step?_digit hc, Nat.ofDigitChars_cons, Nat.mul_comm 10, List.length_cons]
    generalize c.toNat - '0'.toNat = d at hd ⊢
    by_cases hroom : s < maxScale ∧ m * 10 + d < bound
    · have hstep : Reading.digit? ⟨m, s, true, started, false⟩ d
          = some ⟨m * 10 + d, s + 1, true, true, false⟩ := by
        unfold Reading.digit?
        rw [if_neg (by simpa [Reading.atLimit] using Nat.ne_of_lt hroom.1), if_pos hroom.2]
        rfl
      rw [hstep, Nat.add_comm cs.length, ← Nat.add_assoc]
      exact ih hrest hroom.2 hroom.1 (.inl rfl)
    · have hfull : s = maxScale ∨ bound ≤ m * 10 + d := by omega
      -- a single digit always fits
      obtain rfl : started = true := by
        refine hstarted.resolve_right ?_
        rintro ⟨rfl, rfl, -⟩
        refine hroom ⟨by decide, ?_⟩
        rw [Nat.zero_mul, Nat.zero_add]
        exact hd.trans (by decide)
      have hstep : Reading.digit? ⟨m, s, true, true, false⟩ d
          = Reading.close? ⟨m, s, true, true, false⟩ d := by
        unfold Reading.digit?
        split
        · rfl
        next hlimit =>
          have hlt : s ≠ maxScale := by simpa [Reading.atLimit] using hlimit
          rw [if_neg (Nat.not_lt.2 (hfull.resolve_left hlt)), if_pos rfl]
      rw [hstep]
      refine Iff.trans (iff_of_eq ?_) (close?_fraction hrest hd hm hs hfull)
      rw [← Option.bind_assoc]
      rfl

/-! ### The reader on numerals -/

/-- More than fits before the point does not fit with places either. -/
lemma not_fitted_of_bound_le (h : bound ≤ n / 10 ^ places) : ¬ Fitted n places m s := by
  intro hfit
  refine absurd hfit.lt (Nat.not_lt.2 ?_)
  rw [hfit.value]
  exact h.trans ((div_pow_anti n (Nat.sub_le _ _)).trans (div_le_halfUp n _))

/-- **A numeral is read as the number of its digits, at the places that fit.** -/
lemma Numeral.readMagnitude?_eq_some (h : Numeral cs whole fraction) :
    readMagnitude? cs = some (m, s) ↔
      Fitted (Nat.ofDigitChars 10 (whole ++ fraction) 0) fraction.length m s := by
  have hwhole : ∀ c ∈ whole, c.isDigit := fun c hc => h.digits c (List.mem_append_left _ hc)
  have hfraction : ∀ c ∈ fraction, c.isDigit := fun c hc => h.digits c (List.mem_append_right _ hc)
  have hcut : Nat.ofDigitChars 10 (whole ++ fraction) 0 / 10 ^ fraction.length
      = Nat.ofDigitChars 10 whole 0 := by
    rw [Nat.ofDigitChars_append, ofDigitChars_div hfraction]
  rw [readMagnitude?_eq_bind]
  by_cases hfit : Nat.ofDigitChars 10 whole 0 < bound
  · have hread : whole.foldlM Reading.step? {}
        = some ⟨Nat.ofDigitChars 10 whole 0, 0, false, !whole.isEmpty, false⟩ :=
      (foldlM_whole hwhole (by decide)).trans (if_pos hfit)
    rcases h.text with ⟨rfl, rfl⟩ | rfl
    · have hne : cs ≠ [] := by simpa using h.nonempty
      rw [hread, Option.bind_some, Reading.result?, if_pos (by simpa using hne), List.append_nil]
      refine Fitted.eq_some_iff ⟨Nat.le_refl _, Nat.zero_le _, ?_, hfit, fun k hlt hle => ?_⟩
      · simp
      · exact absurd hlt (Nat.not_lt.2 hle)
    · rw [List.foldlM_append, hread]
      have hstarted : (!whole.isEmpty) = true ∨
          Nat.ofDigitChars 10 whole 0 = 0 ∧ 0 = 0 ∧ fraction ≠ [] := by
        cases whole with
        | nil => exact .inr ⟨rfl, rfl, by simpa using h.nonempty⟩
        | cons c cs => exact .inl rfl
      have hpoint : ('.' :: fraction).foldlM Reading.step?
            ⟨Nat.ofDigitChars 10 whole 0, 0, false, !whole.isEmpty, false⟩
          = fraction.foldlM Reading.step?
            ⟨Nat.ofDigitChars 10 whole 0, 0, true, !whole.isEmpty, false⟩ := rfl
      rw [Option.bind_eq_bind, Option.bind_some, hpoint,
        foldlM_fraction hfraction hfit (Nat.zero_le _) hstarted, Nat.ofDigitChars_append,
        Nat.zero_add]
  · have hnone : whole.foldlM Reading.step? {} = none :=
      (foldlM_whole hwhole (by decide)).trans (if_neg hfit)
    refine iff_of_false ?_ (not_fitted_of_bound_le (hcut ▸ Nat.not_lt.1 hfit))
    rcases h.text with ⟨rfl, -⟩ | rfl
    · rw [hnone]
      nofun
    · rw [List.foldlM_append, hnone]
      nofun

/-! ### The reader on any text -/

/-- A digit leaves the point where it is. -/
lemma step?_point {w v : Reading} {c : Char} (hc : c.isDigit) (h : w.step? c = some v) :
    v.point = w.point := by
  rw [Reading.step?, digit?_of_isDigit hc] at h
  dsimp only at h
  unfold Reading.digit? Reading.close? at h
  split_ifs at h <;> cases h <;> rfl

/-- Of all that is no digit only a first point goes on. -/
lemma step?_other {w v : Reading} {c : Char} (hc : ¬ c.isDigit) (hplain : c ≠ '_')
    (h : w.step? c = some v) : c = '.' ∧ w.point = false ∧ v.point = true := by
  rw [Reading.step?, digit?_of_not_isDigit hc] at h
  dsimp only at h
  rw [if_neg hplain] at h
  split_ifs at h with hdot hpoint
  cases h
  exact ⟨hdot, by simpa using fun hp => hpoint (.inl hp), rfl⟩

/-- What is read without underscores has the shape of a numeral; behind the point there are digits
only. -/
lemma shape_of_foldlM {w w' : Reading} (h : cs.foldlM Reading.step? w = some w')
    (hplain : ∀ c ∈ cs, c ≠ '_') :
    (w.point = true → ∀ c ∈ cs, c.isDigit) ∧
      (w.point = false → ∃ whole fraction,
        (cs = whole ∧ fraction = [] ∨ cs = whole ++ '.' :: fraction) ∧
          ∀ c ∈ whole ++ fraction, c.isDigit) := by
  induction cs generalizing w with
  | nil => exact ⟨fun _ => nofun, fun _ => ⟨[], [], .inl ⟨rfl, rfl⟩, nofun⟩⟩
  | cons c cs ih =>
    rw [List.foldlM_cons] at h
    obtain ⟨v, hv, h⟩ := Option.bind_eq_some_iff.1 h
    obtain ⟨hdigits, hshape⟩ := ih h fun d hd => hplain d (List.mem_cons_of_mem _ hd)
    by_cases hc : c.isDigit
    · have hpoint : v.point = w.point := step?_point hc hv
      constructor
      · intro hw
        exact List.forall_mem_cons.2 ⟨hc, hdigits (hpoint.trans hw)⟩
      · intro hw
        obtain ⟨whole, fraction, htext, hall⟩ := hshape (hpoint.trans hw)
        refine ⟨c :: whole, fraction, ?_, List.forall_mem_cons.2 ⟨hc, hall⟩⟩
        exact htext.imp (fun h => ⟨by rw [h.1], h.2⟩) fun h => by rw [h]; rfl
    · obtain ⟨rfl, hw, hv⟩ := step?_other hc (hplain c List.mem_cons_self) hv
      refine ⟨fun hw' => absurd (hw'.symm.trans hw) (by decide), fun _ => ?_⟩
      exact ⟨[], cs, .inr rfl, hdigits hv⟩

/-- **What is read without a sign is a numeral**, and the number of its digits at the places that
fit. -/
theorem readMagnitude?_eq_some (hplain : ∀ c ∈ cs, c ≠ '_') :
    readMagnitude? cs = some (m, s) ↔ ∃ whole fraction, Numeral cs whole fraction ∧
      Fitted (Nat.ofDigitChars 10 (whole ++ fraction) 0) fraction.length m s := by
  constructor
  · intro h
    have hread := h
    rw [readMagnitude?_eq_bind] at hread
    obtain ⟨w, hw, hresult⟩ := Option.bind_eq_some_iff.1 hread
    obtain ⟨whole, fraction, htext, hdigits⟩ := (shape_of_foldlM hw hplain).2 rfl
    have hne : whole ++ fraction ≠ [] := by
      intro hnil
      obtain ⟨rfl, rfl⟩ := List.append_eq_nil_iff.1 hnil
      rcases htext with ⟨rfl, -⟩ | rfl <;> cases h
    have hnumeral : Numeral cs whole fraction := ⟨htext, hdigits, hne⟩
    exact ⟨whole, fraction, hnumeral, hnumeral.readMagnitude?_eq_some.1 h⟩
  · rintro ⟨whole, fraction, hnumeral, hfit⟩
    exact hnumeral.readMagnitude?_eq_some.2 hfit

lemma unsignedZero_of_not_negative {a : Decimal} (h : a.negative = false) : a.unsignedZero = a := by
  obtain ⟨negative, digits, scale, _, _⟩ := a
  obtain rfl : negative = false := h
  unfold unsignedZero abs
  split <;> rfl

/-- A zero loses its sign. -/
lemma ofParts?_unsignedZero_eq_some {minus : Bool} {x : Decimal} :
    (ofParts? minus m s).map unsignedZero = some x ↔
      m < bound ∧ s ≤ maxScale ∧ x.digits = m ∧ x.scale = s ∧
        x.negative = (minus && decide (m ≠ 0)) := by
  obtain ⟨negative, digits, scale, hdigits, hscale⟩ := x
  unfold ofParts?
  split
  next hfit =>
    have hunsigned : unsignedZero ⟨minus, m, s, hfit.1, hfit.2⟩
        = ⟨minus && decide (m ≠ 0), m, s, hfit.1, hfit.2⟩ := by
      unfold unsignedZero isZero abs
      by_cases h0 : m = 0 <;> simp [h0]
    rw [Option.map_some, hunsigned]
    constructor
    · intro h
      cases h
      exact ⟨hfit.1, hfit.2, rfl, rfl, rfl⟩
    · rintro ⟨-, -, hm, hs, hneg⟩
      dsimp only at hm hs hneg
      subst hm hs hneg
      rfl
  next hfit => exact iff_of_false (by simp) fun h => hfit ⟨h.1, h.2.1⟩

/-- A numeral with a sign before it. -/
lemma readSigned_eq_some (hplain : ∀ c ∈ cs, c ≠ '_') (minus : Bool) {x : Decimal} :
    ((readMagnitude? cs).bind fun (m, s) => (ofParts? minus m s).map unsignedZero) = some x ↔
      ∃ whole fraction, Numeral cs whole fraction ∧
        Fitted (Nat.ofDigitChars 10 (whole ++ fraction) 0) fraction.length x.digits x.scale ∧
        x.negative = (minus && decide (x.digits ≠ 0)) := by
  rw [Option.bind_eq_some_iff]
  constructor
  · rintro ⟨⟨m, s⟩, hread, h⟩
    obtain ⟨-, -, rfl, rfl, hneg⟩ := ofParts?_unsignedZero_eq_some.1 h
    obtain ⟨whole, fraction, hnumeral, hfit⟩ := (readMagnitude?_eq_some hplain).1 hread
    exact ⟨whole, fraction, hnumeral, hfit, hneg⟩
  · rintro ⟨whole, fraction, hnumeral, hfit, hneg⟩
    exact ⟨(x.digits, x.scale), (readMagnitude?_eq_some hplain).2 ⟨whole, fraction, hnumeral, hfit⟩,
      ofParts?_unsignedZero_eq_some.2 ⟨hfit.lt, hfit.le_max, rfl, rfl, hneg⟩⟩

/-- A numeral has no sign of its own. -/
lemma Numeral.head_ne {c : Char} (h : Numeral (c :: cs) whole fraction) : c ≠ '-' ∧ c ≠ '+' := by
  have hc : c.isDigit ∨ c = '.' := by
    rcases h.text with ⟨rfl, -⟩ | htext
    · exact .inl (h.digits c (by simp))
    · cases whole with
      | nil => exact .inr (List.cons.inj htext).1
      | cons d ds =>
        obtain rfl : c = d := (List.cons.inj htext).1
        exact .inl (h.digits c (by simp))
  constructor
  · rintro rfl
    exact absurd hc (by decide)
  · rintro rfl
    exact absurd hc (by decide)

/-- **A text without underscores is read as what it spells**, and not at all if it spells
nothing. -/
theorem ofChars?_eq_some (hplain : ∀ c ∈ cs, c ≠ '_') {x : Decimal} :
    ofChars? cs = some x ↔ Spells cs x := by
  have hunsigned : ∀ cs, ((readMagnitude? cs).bind fun (m, s) => ofParts? false m s)
      = (readMagnitude? cs).bind fun (m, s) => (ofParts? false m s).map unsignedZero := by
    intro cs
    congr 1
    funext ⟨m, s⟩
    show ofParts? false m s = (ofParts? false m s).map unsignedZero
    unfold ofParts?
    split
    · rw [Option.map_some, unsignedZero_of_not_negative rfl]
    · rfl
  unfold ofChars? Spells
  split
  next body =>
    rw [readSigned_eq_some (fun c hc => hplain c (List.mem_cons_of_mem _ hc))]
    constructor
    · rintro ⟨whole, fraction, h⟩
      exact ⟨true, body, whole, fraction, .inl ⟨rfl, rfl⟩, h⟩
    · rintro ⟨_, _, whole, fraction, ⟨htext, rfl⟩ | ⟨htext | rfl, -⟩, h⟩
      · cases htext
        exact ⟨whole, fraction, h⟩
      · cases htext
      · exact absurd rfl h.1.head_ne.1
  next body =>
    rw [hunsigned, readSigned_eq_some (fun c hc => hplain c (List.mem_cons_of_mem _ hc))]
    constructor
    · rintro ⟨whole, fraction, h⟩
      exact ⟨false, body, whole, fraction, .inr ⟨.inl rfl, rfl⟩, h⟩
    · rintro ⟨_, _, whole, fraction, ⟨htext, rfl⟩ | ⟨htext | rfl, rfl⟩, h⟩
      · cases htext
      · cases htext
        exact ⟨whole, fraction, h⟩
      · exact absurd rfl h.1.head_ne.2
  next hminus hplus =>
    rw [hunsigned, readSigned_eq_some hplain]
    constructor
    · rintro ⟨whole, fraction, h⟩
      exact ⟨false, cs, whole, fraction, .inr ⟨.inr rfl, rfl⟩, h⟩
    · rintro ⟨_, body, whole, fraction, ⟨htext, rfl⟩ | ⟨htext | rfl, rfl⟩, h⟩
      · exact absurd htext (hminus body)
      · exact absurd htext (hplus body)
      · exact ⟨whole, fraction, h⟩

end Digits

/-! ### Readers -/

/-- A reader that takes no exponent. -/
theorem readsPlain_ofChars? : ReadsPlain fun s => ofChars? s.toList :=
  fun _ h _ => ofChars?_eq_some fun c hc => (h c hc).1

/-- A reader that takes an exponent as well. -/
theorem readsPlain_ofText? : ReadsPlain ofText? := by
  intro s h x
  have hscientific : ofScientificChars? s.toList = none := by
    have hall : s.toList.dropWhile (fun c => c ≠ 'e' ∧ c ≠ 'E') = [] :=
      List.dropWhile_eq_nil_iff.2 fun c hc => by simpa using (h c hc).2
    unfold ofScientificChars?
    rw [hall]
  refine Iff.trans (iff_of_eq ?_) (readsPlain_ofChars? s h x)
  unfold ofText?
  rw [hscientific]
  dsimp only
  cases ofChars? s.toList <;> rfl

/-- The two part where a text has an exponent. -/
example : ofText? "2e0" = some ⟨false, 2, 0, by decide, by decide⟩ ∧
    ofChars? "2e0".toList = none := by
  decide

end Decimal

end LeverageKeeper
