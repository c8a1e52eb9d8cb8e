import LeverageKeeper.Json.Printer
import LeverageKeeper.Json.Reader
import LeverageKeeper.Proofs.Decimal.Text

/-!
# Reading printed JSON

The reader gives back what the printer was given, as long as every string has a text and every
number is a row of digits; such values are called `Written`.

Strings come first: an escaped character is read as its code value, and code values of characters
spell the characters.  Then numbers, which end where a comma, a bracket or nothing follows.  The
core lemma (`value?_write`) is by induction on the value; the fuel of the reader is enough because
every step consumes a character of the text.
-/

namespace LeverageKeeper.Json

/-! ### Strings -/

section Strings

variable {c : Char} {cs rest : List Char}

/-- One character as it is printed is read as its code value. -/
lemma codes?_escape (c : Char) (cs : List Char) :
    codes? (escape c ++ cs) = (codes? cs).map fun (ns, rest) => (c.toNat :: ns, rest) := by
  have finish : ∀ n : ℕ, (do let (ns, rest) ← codes? cs; some (n :: ns, rest))
      = (codes? cs).map fun (ns, rest) => (n :: ns, rest) := by
    intro n
    cases codes? cs <;> rfl
  unfold escape
  split_ifs with h1 h2 h3 h4 h5 h6 h7 h8
  · subst h1; exact finish 0x22
  · subst h2; exact finish 0x5c
  · subst h3; exact finish 0x08
  · subst h4; exact finish 0x09
  · subst h5; exact finish 0x0a
  · subst h6; exact finish 0x0c
  · subst h7; exact finish 0x0d
  · -- the other control characters are spelled in hexadecimal
    have hh : Hex.value? (Hex.digit (c.toNat / 16)) = some (c.toNat / 16) :=
      Hex.value?_digit (by omega)
    have hl : Hex.value? (Hex.digit (c.toNat % 16)) = some (c.toNat % 16) :=
      Hex.value?_digit (by omega)
    have h0 : Hex.value? '0' = some 0 := rfl
    have hn : ((0 * 16 + 0) * 16 + c.toNat / 16) * 16 + c.toNat % 16 = c.toNat := by omega
    simp only [List.cons_append, List.nil_append, codes?, h0, hh, hl, Option.bind_eq_bind,
      Option.bind_some, hn]
    exact finish _
  · rw [List.singleton_append, codes?.eq_def]
    split
    next h => cases h
    next h => exact absurd (List.cons.inj h).1 h1
    next h => exact absurd (List.cons.inj h).1 h2
    next h => exact absurd (List.cons.inj h).1 h2
    next h =>
      obtain ⟨rfl, rfl⟩ := List.cons.inj h
      have hc : ¬ (c.toNat < 0x20 ∨ c = '\\') := by
        rw [not_or]
        exact ⟨h8, h2⟩
      rw [if_neg hc]
      exact finish _

lemma codes?_flatMap (s rest : List Char) :
    codes? (s.flatMap escape ++ '"' :: rest) = some (s.map Char.toNat, rest) := by
  induction s with
  | nil => rfl
  | cons c s ih =>
    rw [List.flatMap_cons, List.append_assoc, codes?_escape, ih]
    rfl

/-- The code value of a character is not half of a pair. -/
lemma spell?_cons (c : Char) (ns : List ℕ) :
    spell? (c.toNat :: ns) = (spell? ns).map (c :: ·) := by
  have hc : c.toNat < 0xd800 ∨ 0xdfff < c.toNat ∧ c.toNat < 0x110000 := c.valid
  have hof : Char.ofNat c.toNat = c := Char.ofNat_toNat c
  cases ns with
  | nil =>
    have h : ¬ (0xd800 ≤ c.toNat ∧ c.toNat < 0xe000) := by omega
    simp only [spell?, h, ↓reduceIte, hof, Option.map_some]
  | cons n ns =>
    have h : ¬ (0xd800 ≤ c.toNat ∧ c.toNat < 0xdc00) := by omega
    have h' : ¬ (0xdc00 ≤ c.toNat ∧ c.toNat < 0xe000) := by omega
    simp only [spell?, h, h', ↓reduceIte, hof]

lemma spell?_map (s : List Char) : spell? (s.map Char.toNat) = some s := by
  induction s with
  | nil => rfl
  | cons c s ih => rw [List.map_cons, spell?_cons, ih, Option.map_some]

/-- **A printed string is read back.** -/
theorem string?_quoted (s rest : List Char) :
    string? (s.flatMap escape ++ '"' :: rest) = some (some (String.ofList s), rest) := by
  rw [string?, codes?_flatMap, Option.map_some]
  show some ((spell? (s.map Char.toNat)).map String.ofList, rest) = _
  rw [spell?_map, Option.map_some]

end Strings

/-! ### Numbers -/

/-- Nothing follows, or what stands between values and behind them. -/
def Closes : List Char → Prop
  | [] => True
  | c :: _ => c = ',' ∨ c = ']' ∨ c = '}'

lemma isDigit_eq (c : Char) : isDigit c = c.isDigit := by
  rw [Bool.eq_iff_iff, isDigit, decide_eq_true_eq, Char.isDigit, Bool.and_eq_true,
    decide_eq_true_eq, decide_eq_true_eq]
  rfl

section Numbers

variable {ds rest : List Char}

lemma Closes.takeWhile (h : Closes rest) : rest.takeWhile isDigit = [] := by
  cases rest with
  | nil => rfl
  | cons c rest => rcases h with rfl | rfl | rfl <;> rfl

lemma Closes.dropWhile (h : Closes rest) : rest.dropWhile isDigit = rest := by
  cases rest with
  | nil => rfl
  | cons c rest => rcases h with rfl | rfl | rfl <;> rfl

lemma Closes.fraction? (h : Closes rest) : fraction? rest = some ([], rest) := by
  cases rest with
  | nil => rfl
  | cons c rest => rcases h with rfl | rfl | rfl <;> rfl

lemma Closes.exponent? (h : Closes rest) : exponent? rest = some ([], rest) := by
  cases rest with
  | nil => rfl
  | cons c rest => rcases h with rfl | rfl | rfl <;> rfl

lemma digits?_append (hd : ∀ c ∈ ds, c.isDigit) (hne : ds ≠ []) (h : Closes rest) :
    digits? (ds ++ rest) = some (ds, rest) := by
  have hd' : ∀ c ∈ ds, isDigit c := fun c hc => by rw [isDigit_eq]; exact hd c hc
  have htake : (ds ++ rest).takeWhile isDigit = ds := by
    rw [List.takeWhile_append_of_pos hd', h.takeWhile, List.append_nil]
  have hdrop : (ds ++ rest).dropWhile isDigit = rest := by
    rw [List.dropWhile_append_of_pos hd', h.dropWhile]
  rw [digits?, htake, hdrop, if_neg hne]

/-- Only zero is written with a leading zero. -/
lemma eq_zero_of_head_toDigits {n : ℕ} (h : (Nat.toDigits 10 n).head? = some '0') :
    Nat.toDigits 10 n = ['0'] := by
  induction n using Nat.strong_induction_on with
  | _ n ih =>
    by_cases hn : n < 10
    · rw [Nat.toDigits_of_lt_base hn] at h ⊢
      simpa using h
    · have hsplit := Nat.toDigits_of_base_le (b := 10) (by decide) (Nat.not_lt.1 hn)
      have hhead : (Nat.toDigits 10 (n / 10)).head? = some '0' := by
        rw [hsplit] at h
        cases hq : Nat.toDigits 10 (n / 10) with
        | nil => exact absurd hq Nat.toDigits_ne_nil
        | cons c cs => rwa [hq] at h
      have hq := ih (n / 10) (by omega) hhead
      have hzero := Nat.ofDigitChars_ten_toDigits (n := n / 10)
      rw [hq] at hzero
      have : n / 10 = 0 := hzero.symm
      omega

lemma unsigned?_toDigits (n : ℕ) (h : Closes rest) :
    unsigned? (Nat.toDigits 10 n ++ rest) = some (Nat.toDigits 10 n, rest) := by
  have hzero : ¬ ((Nat.toDigits 10 n).head? = some '0' ∧ Nat.toDigits 10 n ≠ ['0']) :=
    fun hn => hn.2 (eq_zero_of_head_toDigits hn.1)
  have hdigits := digits?_append (fun c hc => isDigit_of_mem_toDigits (n := n) hc)
    Nat.toDigits_ne_nil h
  simp only [unsigned?, hdigits, hzero, h.fraction?, h.exponent?, Option.bind_eq_bind,
    Option.bind_some, ↓reduceIte, List.append_nil]

/-- **A printed number is read back.** -/
theorem number?_toDigits (n : ℕ) (h : Closes rest) :
    number? (Nat.toDigits 10 n ++ rest) = some (nat n, rest) := by
  have hread := unsigned?_toDigits n h
  unfold number?
  split
  next cs hcs =>
    -- a digit is not a minus sign
    cases hq : Nat.toDigits 10 n with
    | nil => exact absurd hq Nat.toDigits_ne_nil
    | cons c ds =>
      have hc : c.isDigit := isDigit_of_mem_toDigits (n := n) (by rw [hq]; simp)
      rw [hq] at hcs
      obtain ⟨rfl, -⟩ := List.cons.inj hcs
      exact absurd hc (by decide)
  next => rw [hread]; rfl

end Numbers

/-! ### Values -/

/-- Every string has a text, and every number is a row of digits. -/
inductive Written : Json → Prop where
  | null : Written null
  | bool (b : Bool) : Written (bool b)
  | nat (n : ℕ) : Written (nat n)
  | text (s : String) : Written (text s)
  | arr (xs : List Json) (h : ∀ v ∈ xs, Written v) : Written (arr xs)
  | record (fields : List (String × Json)) (h : ∀ m ∈ fields, Written m.2) : Written (record fields)

lemma quoted_append (s rest : List Char) :
    quoted s ++ rest = '"' :: (s.flatMap escape ++ '"' :: rest) := by
  simp [quoted]

lemma writeItems_cons (v w : Json) (vs : List Json) (rest : List Char) :
    writeItems (v :: w :: vs) rest = v.write (',' :: writeItems (w :: vs) rest) := rfl

lemma writeMembers_cons (name : Option String) (v : Json) (m : Option String × Json)
    (ms : List (Option String × Json)) (rest : List Char) :
    writeMembers ((name, v) :: m :: ms) rest =
      quoted (name.getD "").toList ++ ':' :: v.write (',' :: writeMembers (m :: ms) rest) := rfl

mutual

/-- What stands behind a value does not matter to how it is printed. -/
theorem write_append : ∀ (v : Json) (rest : List Char), v.write rest = v.write [] ++ rest
  | .null, _ => rfl
  | .bool true, _ => rfl
  | .bool false, _ => rfl
  | .num _, _ => by simp [write]
  | .str _, _ => by simp [write]
  | .arr xs, rest => by
    rw [write, write, writeItems_append xs (']' :: rest), writeItems_append xs [']']]
    simp
  | .obj ms, rest => by
    rw [write, write, writeMembers_append ms ('}' :: rest), writeMembers_append ms ['}']]
    simp

theorem writeItems_append : ∀ (xs : List Json) (rest : List Char),
    writeItems xs rest = writeItems xs [] ++ rest
  | [], _ => rfl
  | [v], rest => write_append v rest
  | v :: w :: vs, rest => by
    rw [writeItems_cons, writeItems_cons, write_append v,
      write_append v (',' :: writeItems (w :: vs) []), writeItems_append (w :: vs) rest]
    simp

theorem writeMembers_append : ∀ (ms : List (Option String × Json)) (rest : List Char),
    writeMembers ms rest = writeMembers ms [] ++ rest
  | [], _ => rfl
  | [(name, v)], rest => by
    rw [writeMembers, writeMembers, write_append v rest]
    simp
  | (name, v) :: m :: ms, rest => by
    rw [writeMembers_cons, writeMembers_cons, write_append v,
      write_append v (',' :: writeMembers (m :: ms) []), writeMembers_append (m :: ms) rest]
    simp

end

section Values

variable {c : Char} {cs rest : List Char} {fuel : ℕ} {v : Json}

lemma skip_cons (h : isBlank c = false) : skip (c :: cs) = c :: cs := by
  simp [skip, h]

lemma isBlank_of_isDigit (h : c.isDigit) : isBlank c = false := by
  rw [isBlank, decide_eq_false_iff_not]
  rintro (rfl | rfl | rfl | rfl) <;> exact absurd h (by decide)

/-- A printed value begins with a character that is neither blank nor a closing bracket. -/
lemma write_head (h : Written v) (rest : List Char) :
    ∃ c cs, v.write rest = c :: cs ∧ isBlank c = false ∧ c ≠ ']' := by
  cases h with
  | null => exact ⟨_, _, rfl, rfl, by decide⟩
  | bool b => cases b <;> exact ⟨_, _, rfl, rfl, by decide⟩
  | nat n =>
    cases hq : Nat.toDigits 10 n with
    | nil => exact absurd hq Nat.toDigits_ne_nil
    | cons c ds =>
      have hc : c.isDigit := isDigit_of_mem_toDigits (n := n) (by rw [hq]; simp)
      refine ⟨c, ds ++ rest, ?_, isBlank_of_isDigit hc, ?_⟩
      · rw [nat, write, String.toList_ofList, hq]
        rfl
      · rintro rfl
        exact absurd hc (by decide)
  | text s => exact ⟨_, _, quoted_append _ _, rfl, by decide⟩
  | arr xs => exact ⟨_, _, rfl, rfl, by decide⟩
  | record fields => exact ⟨_, _, rfl, rfl, by decide⟩

/-- A digit begins a number. -/
lemma value?_of_isDigit (h : c.isDigit) : value? (fuel + 1) (c :: cs) = number? (c :: cs) := by
  have hne : ∀ d : Char, d.isDigit = false → c ≠ d := by
    rintro d hd rfl
    rw [h] at hd
    cases hd
  rw [value?, skip_cons (isBlank_of_isDigit h)]
  split
  next he => exact absurd (List.cons.inj he).1 (hne _ (by decide))
  next he => exact absurd (List.cons.inj he).1 (hne _ (by decide))
  next he => exact absurd (List.cons.inj he).1 (hne _ (by decide))
  next he => exact absurd (List.cons.inj he).1 (hne _ (by decide))
  next he => exact absurd (List.cons.inj he).1 (hne _ (by decide))
  next he => exact absurd (List.cons.inj he).1 (hne _ (by decide))
  next => rfl

/-- The value is read back from its text, with as much fuel as the text has characters. -/
def Reads (v : Json) : Prop :=
  ∀ fuel rest, Closes rest → (v.write rest).length ≤ fuel + rest.length →
    value? fuel (v.write rest) = some (v, rest)

lemma length_write (v : Json) (rest : List Char) :
    (v.write rest).length = (v.write []).length + rest.length := by
  rw [write_append, List.length_append]

/-- Items up to the bracket, each of which is read back. -/
lemma values?_writeItems {xs : List Json} (hne : xs ≠ []) (hr : ∀ v ∈ xs, Reads v) (fuel : ℕ)
    (rest : List Char) (hf : (writeItems xs (']' :: rest)).length ≤ fuel + rest.length) :
    values? fuel (writeItems xs (']' :: rest)) = some (xs, rest) := by
  induction xs generalizing fuel with
  | nil => exact absurd rfl hne
  | cons v xs ih =>
    have hv : Reads v := hr v (by simp)
    cases xs with
    | nil =>
      have hlen := length_write v (']' :: rest)
      rw [List.length_cons] at hlen
      obtain ⟨f, rfl⟩ : ∃ f, fuel = f + 1 := ⟨fuel - 1, by simp only [writeItems] at hf; omega⟩
      have hread := hv f (']' :: rest) (.inr (.inl rfl)) (by
        simp only [writeItems] at hf
        simp only [List.length_cons]
        omega)
      simp only [values?, writeItems, hread, Option.bind_eq_bind, Option.bind_some,
        skip_cons (c := ']') rfl]
    | cons w vs =>
      rw [writeItems_cons] at hf ⊢
      have hlen := length_write v (',' :: writeItems (w :: vs) (']' :: rest))
      rw [List.length_cons] at hlen
      have hitems : rest.length < (writeItems (w :: vs) (']' :: rest)).length := by
        rw [writeItems_append, List.length_append, List.length_cons]
        omega
      obtain ⟨f, rfl⟩ : ∃ f, fuel = f + 1 := ⟨fuel - 1, by omega⟩
      have hread := hv f (',' :: writeItems (w :: vs) (']' :: rest)) (.inl rfl) (by
        rw [List.length_cons]
        omega)
      have hrest := ih (by simp) (fun u hu => hr u (List.mem_cons_of_mem _ hu)) f (by omega)
      simp only [values?, hread, Option.bind_eq_bind, Option.bind_some, skip_cons (c := ',') rfl,
        hrest]

/-- Members up to the brace, each value of which is read back. -/
lemma members?_writeMembers {ms : List (Option String × Json)} (hne : ms ≠ [])
    (hr : ∀ m ∈ ms, m.1.isSome ∧ Reads m.2) (fuel : ℕ) (rest : List Char)
    (hf : (writeMembers ms ('}' :: rest)).length ≤ fuel + rest.length) :
    members? fuel (writeMembers ms ('}' :: rest)) = some (ms, rest) := by
  induction ms generalizing fuel with
  | nil => exact absurd rfl hne
  | cons m ms ih =>
    obtain ⟨name, v⟩ := m
    obtain ⟨hname, hv⟩ : name.isSome ∧ Reads v := hr (name, v) (by simp)
    obtain ⟨key, rfl⟩ := Option.isSome_iff_exists.1 hname
    cases ms with
    | nil =>
      have htext : writeMembers [(some key, v)] ('}' :: rest) =
          '"' :: (key.toList.flatMap escape ++ '"' :: ':' :: v.write ('}' :: rest)) :=
        quoted_append _ _
      have hlen := length_write v ('}' :: rest)
      rw [htext, List.length_cons, List.length_append, List.length_cons, List.length_cons] at hf
      rw [List.length_cons] at hlen
      obtain ⟨f, rfl⟩ : ∃ f, fuel = f + 1 := ⟨fuel - 1, by omega⟩
      have hread := hv f ('}' :: rest) (.inr (.inr rfl)) (by
        rw [List.length_cons]
        omega)
      simp only [htext, members?, skip_cons (c := '"') rfl, string?_quoted, hread,
        Option.bind_eq_bind, Option.bind_some, skip_cons (c := ':') rfl, skip_cons (c := '}') rfl,
        String.ofList_toList]
    | cons m ms =>
      have htext : writeMembers ((some key, v) :: m :: ms) ('}' :: rest) =
          '"' :: (key.toList.flatMap escape ++
            '"' :: ':' :: v.write (',' :: writeMembers (m :: ms) ('}' :: rest))) :=
        quoted_append _ _
      have hlen := length_write v (',' :: writeMembers (m :: ms) ('}' :: rest))
      have hmembers : rest.length < (writeMembers (m :: ms) ('}' :: rest)).length := by
        rw [writeMembers_append, List.length_append, List.length_cons]
        omega
      rw [htext, List.length_cons, List.length_append, List.length_cons, List.length_cons] at hf
      rw [List.length_cons] at hlen
      obtain ⟨f, rfl⟩ : ∃ f, fuel = f + 1 := ⟨fuel - 1, by omega⟩
      have hread := hv f (',' :: writeMembers (m :: ms) ('}' :: rest)) (.inl rfl) (by
        rw [List.length_cons]
        omega)
      have hrest := ih (by simp) (fun u hu => hr u (List.mem_cons_of_mem _ hu)) f (by omega)
      simp only [htext, members?, skip_cons (c := '"') rfl, string?_quoted, hread, hrest,
        Option.bind_eq_bind, Option.bind_some, skip_cons (c := ':') rfl, skip_cons (c := ',') rfl,
        String.ofList_toList]

lemma reads_nat (n : ℕ) : Reads (nat n) := by
  intro fuel rest hc hf
  have htext : (nat n).write rest = Nat.toDigits 10 n ++ rest := by
    rw [nat, write, String.toList_ofList]
  rw [htext] at hf ⊢
  rw [List.length_append] at hf
  cases hq : Nat.toDigits 10 n with
  | nil => exact absurd hq Nat.toDigits_ne_nil
  | cons c ds =>
    have hd : c.isDigit := isDigit_of_mem_toDigits (n := n) (by rw [hq]; simp)
    rw [hq, List.length_cons] at hf
    obtain ⟨f, rfl⟩ : ∃ f, fuel = f + 1 := ⟨fuel - 1, by omega⟩
    rw [List.cons_append, value?_of_isDigit hd, ← List.cons_append, ← hq, number?_toDigits n hc]

lemma reads_text (s : String) : Reads (text s) := by
  intro fuel rest _ hf
  have htext : (text s).write rest = '"' :: (s.toList.flatMap escape ++ '"' :: rest) :=
    quoted_append _ _
  rw [htext] at hf ⊢
  rw [List.length_cons, List.length_append, List.length_cons] at hf
  obtain ⟨f, rfl⟩ : ∃ f, fuel = f + 1 := ⟨fuel - 1, by omega⟩
  simp only [value?, skip_cons (c := '"') rfl, string?_quoted, Option.map_some,
    String.ofList_toList]
  rfl

lemma reads_arr {xs : List Json} (hw : ∀ v ∈ xs, Written v) (hr : ∀ v ∈ xs, Reads v) :
    Reads (arr xs) := by
  intro fuel rest _ hf
  have htext : (arr xs).write rest = '[' :: writeItems xs (']' :: rest) := rfl
  rw [htext, List.length_cons] at hf
  rw [htext]
  cases xs with
  | nil =>
    obtain ⟨f, rfl⟩ : ∃ f, fuel = f + 1 :=
      ⟨fuel - 1, by simp only [writeItems, List.length_cons] at hf; omega⟩
    rfl
  | cons v vs =>
    have hitems : rest.length < (writeItems (v :: vs) (']' :: rest)).length := by
      rw [writeItems_append, List.length_append, List.length_cons]
      omega
    obtain ⟨f, rfl⟩ : ∃ f, fuel = f + 1 := ⟨fuel - 1, by omega⟩
    have hread := values?_writeItems (by simp) hr f rest (by omega)
    -- the bracket is not closed at once
    obtain ⟨c, cs, hcs, hblank, hclose⟩ : ∃ c cs,
        writeItems (v :: vs) (']' :: rest) = c :: cs ∧ isBlank c = false ∧ c ≠ ']' := by
      cases vs with
      | nil => exact write_head (hw v (by simp)) _
      | cons w vs => exact write_head (hw v (by simp)) _
    rw [hcs] at hread ⊢
    simp only [value?, skip_cons (c := '[') rfl, skip_cons hblank]
    split
    next he => exact absurd (List.cons.inj he).1 hclose
    next => rw [hread, Option.map_some]

lemma reads_obj {ms : List (Option String × Json)} (hr : ∀ m ∈ ms, m.1.isSome ∧ Reads m.2) :
    Reads (obj ms) := by
  intro fuel rest _ hf
  have htext : (obj ms).write rest = '{' :: writeMembers ms ('}' :: rest) := rfl
  rw [htext, List.length_cons] at hf
  rw [htext]
  cases ms with
  | nil =>
    obtain ⟨f, rfl⟩ : ∃ f, fuel = f + 1 :=
      ⟨fuel - 1, by simp only [writeMembers, List.length_cons] at hf; omega⟩
    rfl
  | cons m ms =>
    have hmembers : rest.length < (writeMembers (m :: ms) ('}' :: rest)).length := by
      rw [writeMembers_append, List.length_append, List.length_cons]
      omega
    obtain ⟨f, rfl⟩ : ∃ f, fuel = f + 1 := ⟨fuel - 1, by omega⟩
    have hread := members?_writeMembers (by simp) hr f rest (by omega)
    -- the brace is not closed at once
    obtain ⟨cs, hcs⟩ : ∃ cs, writeMembers (m :: ms) ('}' :: rest) = '"' :: cs := by
      cases ms with
      | nil => exact ⟨_, quoted_append _ _⟩
      | cons w ms => exact ⟨_, quoted_append _ _⟩
    rw [hcs] at hread ⊢
    simp only [value?, skip_cons (c := '{') rfl, skip_cons (c := '"') rfl]
    show (members? f ('"' :: cs)).map _ = _
    rw [hread, Option.map_some]

/-- **The core lemma**: a printed value is read back, whatever closes it. -/
theorem value?_write {v : Json} (h : Written v) : Reads v := by
  induction h with
  | null =>
    intro fuel rest _ hf
    obtain ⟨f, rfl⟩ : ∃ f, fuel = f + 1 :=
      ⟨fuel - 1, by simp only [write, List.length_cons] at hf; omega⟩
    rfl
  | bool b =>
    intro fuel rest _ hf
    obtain ⟨f, rfl⟩ : ∃ f, fuel = f + 1 :=
      ⟨fuel - 1, by cases b <;> simp only [write, List.length_cons] at hf <;> omega⟩
    cases b <;> rfl
  | nat n => exact reads_nat n
  | text s => exact reads_text s
  | arr xs hw ih => exact reads_arr hw ih
  | record fields _ ih =>
    refine reads_obj fun m hm => ?_
    obtain ⟨d, hd, rfl⟩ := List.mem_map.1 hm
    exact ⟨rfl, ih d hd⟩

/-- **A printed value is read back.** -/
theorem parse?_render {v : Json} (h : Written v) : parse? v.render = some v := by
  have hread := value?_write h ((v.write []).length + 1) [] trivial (by simp)
  unfold parse? render ofChars?
  rw [String.toList_ofList, hread]
  rfl

end Values

end LeverageKeeper.Json
