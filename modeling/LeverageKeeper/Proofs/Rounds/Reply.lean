import LeverageKeeper.Proofs.Decimal.Text
import LeverageKeeper.Rounds.Poller
import Mathlib.Data.Nat.Digits.Lemmas

/-!
# Telling a round

A reply tells of a round in five words, and in one way only: a number below two to the power 256
has one word, and 32 bytes are the word of one number (`Reply.word_ofBytes`, `Reply.ofBytes_word`).
An answer has a sign and stands for itself modulo that power.  It is then written down as a text
and read back into half as many bits, which loses nothing that there is room for
(`Round.narrow?_toString`).
-/

namespace LeverageKeeper

namespace Reply

/-! ### Words -/

/-- The word of a number: its 32 bytes, the highest first. -/
def word (n : ℕ) : List UInt8 := ((Nat.digitsAppend 256 wordSize n).map UInt8.ofNat).reverse

lemma length_word {n : ℕ} (h : n < wordBound) : (word n).length = wordSize := by
  unfold word
  rw [List.length_reverse, List.length_map, Nat.length_digitsAppend (by decide) wordSize h]

lemma ofBytes_eq_ofDigits (bs : List UInt8) :
    ofBytes bs = Nat.ofDigits 256 (bs.reverse.map UInt8.toNat) := by
  induction bs using List.reverseRecOn with
  | nil => rfl
  | append_singleton bs b ih =>
    have hstep : ofBytes (bs ++ [b]) = ofBytes bs * 256 + b.toNat := by
      unfold ofBytes
      rw [List.foldl_concat]
    rw [hstep, ih, List.reverse_concat, List.map_cons, Nat.ofDigits_cons]
    ring

/-- Bytes are digits to the base 256. -/
lemma toNat_mem_digits (bs : List UInt8) : ∀ d ∈ bs.map UInt8.toNat, d < 256 := by
  intro d hd
  obtain ⟨b, -, rfl⟩ := List.mem_map.1 hd
  exact b.toNat_lt

lemma ofBytes_lt {bs : List UInt8} (h : bs.length = wordSize) : ofBytes bs < wordBound := by
  rw [ofBytes_eq_ofDigits]
  have hlt := Nat.ofDigits_lt_base_pow_length (by decide) (toNat_mem_digits bs.reverse)
  rwa [List.length_map, List.length_reverse, h] at hlt

lemma ofBytes_word (n : ℕ) : ofBytes (word n) = n := by
  have hbytes : ((Nat.digitsAppend 256 wordSize n).map UInt8.ofNat).map UInt8.toNat
      = Nat.digitsAppend 256 wordSize n := by
    rw [List.map_map]
    refine (List.map_congr_left fun d hd => ?_).trans (List.map_id _)
    exact UInt8.toNat_ofNat_of_lt (Nat.lt_of_mem_digitsAppend (by decide) wordSize d hd)
  rw [ofBytes_eq_ofDigits, word, List.reverse_reverse, hbytes, Nat.digitsAppend,
    Nat.ofDigits_append_replicate_zero, Nat.ofDigits_digits]

lemma word_ofBytes {bs : List UInt8} (h : bs.length = wordSize) : word (ofBytes bs) = bs := by
  have hdigits : Nat.digitsAppend 256 wordSize (ofBytes bs) = bs.reverse.map UInt8.toNat := by
    rw [ofBytes_eq_ofDigits]
    exact (Nat.setInvOn_digitsAppend_ofDigits (by decide) wordSize).1
      ⟨by simpa using h, toNat_mem_digits _⟩
  unfold word
  rw [hdigits, List.map_map, List.map_reverse, List.reverse_reverse]
  exact List.map_id'' (fun b => UInt8.ofNat_toNat) bs

lemma words?_zero (bytes : List UInt8) : words? 0 (.data bytes) = some [] := by
  unfold words?
  dsimp only
  rw [Nat.zero_mul, if_neg (Nat.not_lt_zero _)]
  rfl

lemma words?_succ_eq_some {n : ℕ} {bytes : List UInt8} {ws : List ℕ} :
    words? (n + 1) (.data bytes) = some ws ↔
      wordSize ≤ bytes.length ∧ ∃ tail, ws = ofBytes (bytes.take wordSize) :: tail ∧
        words? n (.data (bytes.drop wordSize)) = some tail := by
  have hwords : (List.range (n + 1)).map (wordAt bytes)
      = ofBytes (bytes.take wordSize) :: (List.range n).map (wordAt (bytes.drop wordSize)) := by
    rw [List.range_succ_eq_map, List.map_cons, List.map_map]
    refine congrArg _ (List.map_congr_left fun i _ => ?_)
    unfold wordAt
    rw [List.drop_drop, Function.comp_apply, Nat.succ_mul, Nat.add_comm]
  unfold words?
  dsimp only
  rw [List.length_drop, hwords, Nat.succ_mul]
  split
  next hshort =>
    constructor
    · nofun
    · rintro ⟨hone, tail, -, htail⟩
      rw [if_pos (by omega)] at htail
      cases htail
  next hlong =>
    rw [if_neg (by omega), Option.some_inj, eq_comm]
    constructor
    · rintro rfl
      exact ⟨by omega, _, rfl, rfl⟩
    · rintro ⟨-, tail, rfl, htail⟩
      rw [Option.some.inj htail]

/-- The first words of a reply, and what comes after them. -/
lemma words?_eq_some {n : ℕ} {bytes : List UInt8} {ws : List ℕ} :
    words? n (.data bytes) = some ws ↔
      ws.length = n ∧ (∀ w ∈ ws, w < wordBound) ∧ ∃ rest, bytes = ws.flatMap word ++ rest := by
  induction n generalizing bytes ws with
  | zero =>
    rw [words?_zero, Option.some_inj]
    constructor
    · rintro rfl
      exact ⟨rfl, nofun, bytes, rfl⟩
    · rintro ⟨hnil, -⟩
      exact (List.length_eq_zero_iff.1 hnil).symm
  | succ n ih =>
    -- the first word is cut off on both sides
    rw [words?_succ_eq_some]
    constructor
    · rintro ⟨hlen, ws, rfl, htail⟩
      obtain ⟨rfl, hlt, rest, hrest⟩ := ih.1 htail
      have hfirst : (bytes.take wordSize).length = wordSize := by
        rw [List.length_take]
        omega
      refine ⟨rfl, List.forall_mem_cons.2 ⟨ofBytes_lt hfirst, hlt⟩, rest, ?_⟩
      rw [List.flatMap_cons, word_ofBytes hfirst, List.append_assoc, ← hrest,
        List.take_append_drop]
    · rintro ⟨hlen, hlt, rest, rfl⟩
      obtain ⟨w, ws, rfl⟩ := List.exists_cons_of_length_eq_add_one hlen
      obtain ⟨hw, hws⟩ := List.forall_mem_cons.1 hlt
      have hword := length_word hw
      rw [List.flatMap_cons, List.append_assoc, ← hword, List.take_left, List.drop_left,
        ofBytes_word, hword]
      refine ⟨?_, ws, rfl, ih.2 ⟨Nat.succ.inj hlen, hws, rest, rfl⟩⟩
      rw [List.length_append, hword]
      omega

end Reply

namespace Round

/-! ### Answers -/

/-- The number that stands for an answer: the answer itself modulo two to the power 256. -/
def unsigned (answer : ℤ) : ℕ := (answer % wordBound).toNat

lemma signed_eq_iff {w : ℕ} (hw : w < wordBound) {answer : ℤ} :
    signed w = answer ↔ -2 ^ 255 ≤ answer ∧ answer < 2 ^ 255 ∧ unsigned answer = w := by
  unfold wordBound at hw
  unfold signed unsigned wordBound
  split <;> omega

/-- The bytes are those of a round: its number, the answer, the time it started, the time of the
answer, and the number of the round that gave it.  Anything may come after them. -/
def Told (r : Round) (bytes : List UInt8) : Prop :=
  (-2 ^ 255 ≤ r.answer ∧ r.answer < 2 ^ 255 ∧ r.updatedAt < 2 ^ 256) ∧
    ∃ id < 2 ^ 256, ∃ started < 2 ^ 256, ∃ answeredIn < 2 ^ 256, ∃ rest,
      bytes = [id, unsigned r.answer, started, r.updatedAt, answeredIn].flatMap Reply.word ++ rest

lemma ofReply?_data {bytes : List UInt8} {r : Round} :
    ofReply? (.data bytes) = some r ↔ r.Told bytes := by
  have hbound : (2 : ℕ) ^ 256 = wordBound := by decide
  constructor
  · intro h
    unfold ofReply? at h
    split at h
    next id answer started updatedAt answeredIn hwords =>
      obtain ⟨-, hlt, rest, hbytes⟩ := Reply.words?_eq_some.1 hwords
      simp only [List.mem_cons, List.not_mem_nil, or_false, forall_eq_or_imp, forall_eq,
        ← hbound] at hlt
      obtain ⟨hid, hanswer, hstarted, hupdatedAt, hansweredIn⟩ := hlt
      cases h
      obtain ⟨hlow, hhigh, hword⟩ := (signed_eq_iff (hbound ▸ hanswer)).1 rfl
      refine ⟨⟨hlow, hhigh, hupdatedAt⟩, id, hid, started, hstarted, answeredIn, hansweredIn, rest,
        ?_⟩
      rw [hword]
      exact hbytes
    next => cases h
  · rintro ⟨⟨hlow, hhigh, hupdatedAt⟩, id, hid, started, hstarted, answeredIn, hansweredIn, rest,
      hbytes⟩
    have hanswer : unsigned r.answer < wordBound := by
      unfold unsigned wordBound
      omega
    have hwords : Reply.words? 5 (.data bytes)
        = some [id, unsigned r.answer, started, r.updatedAt, answeredIn] := by
      refine Reply.words?_eq_some.2 ⟨rfl, ?_, rest, hbytes⟩
      simp only [List.mem_cons, List.not_mem_nil, or_false, forall_eq_or_imp, forall_eq, ← hbound]
      exact ⟨hid, hbound ▸ hanswer, hstarted, hupdatedAt, hansweredIn⟩
    unfold ofReply?
    rw [hwords]
    dsimp only
    rw [(signed_eq_iff hanswer).2 ⟨hlow, hhigh, rfl⟩]

/-- Only a reply without five words tells of no round. -/
lemma ofReply?_eq_none {r : Reply} :
    ofReply? r = none ↔
      r = .failure ∨ ∃ bytes, r = .data bytes ∧ bytes.length < 5 * Reply.wordSize := by
  cases r with
  | failure => exact iff_of_true rfl (.inl rfl)
  | data bytes =>
    simp only [reduceCtorEq, Reply.data.injEq, exists_eq_left', false_or]
    unfold ofReply? Reply.words?
    by_cases h : bytes.length < 5 * Reply.wordSize
    · simp only [h, ↓reduceIte]
    · simp only [h, ↓reduceIte, iff_false]
      exact nofun

/-! ### Fewer bits -/

/-- The answer has 128 bits. -/
def Fits (answer : ℤ) : Prop := -2 ^ 127 ≤ answer ∧ answer < 2 ^ 127

instance {answer : ℤ} : Decidable (Fits answer) := inferInstanceAs (Decidable (_ ∧ _))

lemma narrow?_digits (n : ℕ) :
    narrow? (Nat.toDigits 10 n) = if n < answerBound then some (n : ℤ) else none := by
  have hdigits : ∀ c ∈ Nat.toDigits 10 n, c.isDigit := fun _ hc => isDigit_of_mem_toDigits hc
  have hread : readUnsigned? (Nat.toDigits 10 n) = some n := by
    rw [← readDigits?_toDigits n]
    unfold readUnsigned?
    split
    next cs h => exact absurd (hdigits '+' (by rw [h]; simp)) (by decide)
    next => rfl
  unfold narrow?
  split
  -- no digit is a sign
  next cs h => exact absurd (hdigits '-' (by rw [h]; simp)) (by decide)
  next =>
    rw [hread, Option.filter_some]
    by_cases h : n < answerBound
    · rw [if_pos (by simpa using h), if_pos h]
      rfl
    · rw [if_neg (by simpa using h), if_neg h]
      rfl

/-- **An answer is read back from its text if there is room for it.** -/
theorem narrow?_toString (answer : ℤ) :
    narrow? (toString answer).toList = if Fits answer then some answer else none := by
  cases answer with
  | ofNat n =>
    have htext : (toString (Int.ofNat n)).toList = Nat.toDigits 10 n := String.toList_ofList
    have hfits : n < answerBound ↔ Fits n := by
      unfold answerBound Fits
      omega
    rw [htext, narrow?_digits]
    exact if_congr hfits rfl rfl
  | negSucc n =>
    have htext : (toString (Int.negSucc n)).toList = '-' :: Nat.toDigits 10 (n + 1) := by
      show ("-" ++ Nat.repr (n + 1)).toList = _
      simp
    have hfits : n + 1 ≤ answerBound ↔ Fits (Int.negSucc n) := by
      unfold answerBound Fits
      omega
    have hneg (cs : List Char) : narrow? ('-' :: cs)
        = ((readDigits? cs).filter (· ≤ answerBound)).map fun n : ℕ => -(n : ℤ) := rfl
    rw [htext, hneg, readDigits?_toDigits, Option.filter_some]
    by_cases h : Fits (Int.negSucc n)
    · rw [if_pos (by simpa using hfits.2 h), if_pos h]
      rfl
    · rw [if_neg (by simpa using mt hfits.1 h), if_neg h]
      rfl

/-- What a round that fits is worth. -/
lemma reading_toOption (r : Round) (decimals : ℕ) :
    (r.reading decimals).toOption
      = if Fits r.answer then
          some ⟨r.answer, decimals, UInt64.ofNat (min r.updatedAt (2 ^ 64 - 1))⟩
        else none := by
  unfold reading
  rw [narrow?_toString]
  by_cases h : Fits r.answer
  · rw [if_pos h, if_pos h]
    rfl
  · rw [if_neg h, if_neg h]
    rfl

end Round

/-- The reading is that of the round: its answer, and its time or the last moment of the clock. -/
structure Reading.Of (x : Reading) (round : Round) (decimals : ℕ) : Prop where
  answer : x.answer = round.answer
  decimals : x.decimals = decimals
  updatedAt : x.updatedAt.toNat = min round.updatedAt (2 ^ 64 - 1)

lemma Reading.of_iff {x : Reading} {round : Round} {decimals : ℕ} :
    x.Of round decimals ↔
      ⟨round.answer, decimals, UInt64.ofNat (min round.updatedAt (2 ^ 64 - 1))⟩ = x := by
  have hlt : min round.updatedAt (2 ^ 64 - 1) < 2 ^ 64 := by omega
  constructor
  · rintro ⟨hanswer, hdecimals, htime⟩
    obtain ⟨answer, d, time⟩ := x
    rw [← hanswer, ← hdecimals, ← htime, UInt64.ofNat_toNat]
  · rintro rfl
    exact ⟨rfl, rfl, by rw [UInt64.toNat_ofNat', Nat.mod_eq_of_lt hlt]⟩

namespace Poller

variable {decimals : ℕ} {r : Reply}

/-- **A feed is read if its reply tells of a round with an answer that fits.** -/
theorem reading?_eq_some {x : Reading} :
    reading? decimals r = some x ↔
      ∃ bytes round, r = .data bytes ∧ round.Told bytes ∧ Round.Fits round.answer ∧
        x.Of round decimals := by
  unfold reading?
  rw [Option.bind_eq_some_iff]
  simp only [Round.reading_toOption, Option.ite_none_right_eq_some, Option.some_inj,
    ← Reading.of_iff]
  constructor
  · rintro ⟨round, hround, hfits, hx⟩
    cases r with
    | data bytes => exact ⟨bytes, round, rfl, Round.ofReply?_data.1 hround, hfits, hx⟩
    | failure => cases hround
  · rintro ⟨bytes, round, rfl, htold, hfits, hx⟩
    exact ⟨round, Round.ofReply?_data.2 htold, hfits, hx⟩

/-- **It is not read if there is no reply, too short a reply, or an answer that does not fit.** -/
theorem reading?_eq_none :
    reading? decimals r = none ↔
      r = .failure ∨ ∃ bytes, r = .data bytes ∧
        (bytes.length < 5 * Reply.wordSize ∨
          ∃ round : Round, round.Told bytes ∧ ¬Round.Fits round.answer) := by
  cases r with
  | failure => exact iff_of_true rfl (.inl rfl)
  | data bytes =>
    simp only [reduceCtorEq, Reply.data.injEq, exists_eq_left', false_or]
    unfold reading?
    cases hround : Round.ofReply? (.data bytes) with
    | none =>
      refine iff_of_true rfl (.inl ?_)
      simpa using Round.ofReply?_eq_none.1 hround
    | some round =>
      have htold := Round.ofReply?_data.1 hround
      have hlong : ¬bytes.length < 5 * Reply.wordSize := fun hshort => by
        rw [Round.ofReply?_eq_none.2 (.inr ⟨bytes, rfl, hshort⟩)] at hround
        cases hround
      rw [Option.bind_some, Round.reading_toOption]
      constructor
      · intro h
        exact .inr ⟨round, htold, by simpa using h⟩
      · rintro (hshort | ⟨other, hother, hfits⟩)
        · exact absurd hshort hlong
        · rw [Round.ofReply?_data.2 hother] at hround
          cases hround
          exact if_neg hfits

end Poller

end LeverageKeeper
