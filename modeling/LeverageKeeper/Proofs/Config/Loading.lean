import LeverageKeeper.Proofs.Config.Allowed
import LeverageKeeper.Proofs.Config.Files
import LeverageKeeper.Proofs.Decimal.Spelling

/-!
# What loading accepts

A configuration is loaded in three steps: the files are read, the variables put in, and the whole is
checked.  Each step is put here as what it comes to, and `loadBy_eq_ok` has all three.  What the
text of a variable says is put without a reader: seconds are digits that come to a number, yes is
one of three words, and the plain text of a decimal is what it spells.
-/

namespace LeverageKeeper

/-! ### The texts of variables -/

namespace Variables

/-- Digits, a plus before them or not, that come to `n`. -/
def SpellsSeconds (s : String) (n : UInt64) : Prop :=
  ∃ digits, (s.toList = digits ∨ s.toList = '+' :: digits) ∧ DigitRow digits n.toNat

/-- **Whole seconds are read as what they spell**, and nothing else is read as seconds. -/
theorem seconds?_eq_some {s : String} {n : UInt64} : seconds? s = some n ↔ SpellsSeconds s n := by
  unfold seconds? SpellsSeconds
  rw [Option.map_eq_some_iff]
  constructor
  · rintro ⟨m, hm, rfl⟩
    obtain ⟨hread, hlt⟩ := Option.filter_eq_some_iff.1 hm
    have hlt : m < UInt64.size := by simpa using hlt
    obtain ⟨digits, htext, hrow⟩ := readUnsigned?_eq_some.1 hread
    exact ⟨digits, htext, (UInt64.toNat_ofNat_of_lt' hlt).symm ▸ hrow⟩
  · rintro ⟨digits, htext, hrow⟩
    refine ⟨n.toNat, Option.filter_eq_some_iff.2 ⟨?_, ?_⟩, UInt64.ofNat_toNat⟩
    · exact readUnsigned?_eq_some.2 ⟨digits, htext, hrow⟩
    · simpa using n.toNat_lt

/-- The words for yes, each by the letters that may stand in its places. -/
def yesWords : List (List (List Char)) :=
  [[['t', 'T'], ['r', 'R'], ['u', 'U'], ['e', 'E']], [['1']], [['y', 'Y'], ['e', 'E'], ['s', 'S']]]

def SaysYes (s : String) : Prop := ∃ word ∈ yesWords, List.Forall₂ (· ∈ ·) s.toList word

lemma toNat_toLower (c : Char) :
    c.toLower.toNat = if 65 ≤ c.toNat ∧ c.toNat ≤ 90 then c.toNat + 32 else c.toNat := by
  have hval : c.val.toNat = c.toNat := rfl
  have hcond : (c.val ≥ 'A'.val ∧ c.val ≤ 'Z'.val) ↔ 65 ≤ c.toNat ∧ c.toNat ≤ 90 := Iff.rfl
  unfold Char.toLower
  split
  next h =>
    rw [if_pos (hcond.1 h)]
    have h := hcond.1 h
    show (c.val + 32).toNat = _
    rw [UInt32.toNat_add, hval]
    show (c.toNat + 32) % 2 ^ 32 = _
    omega
  next h => rw [if_neg fun h' => h (hcond.2 h')]

/-- A letter in either case. -/
lemma toLower_eq_iff {c lower upper : Char} (hlower : 97 ≤ lower.toNat ∧ lower.toNat ≤ 122)
    (hupper : upper.toNat + 32 = lower.toNat) : c.toLower = lower ↔ c ∈ [lower, upper] := by
  rw [List.mem_cons, List.mem_singleton, ← Char.toNat_inj, ← Char.toNat_inj, ← Char.toNat_inj,
    toNat_toLower]
  split <;> omega

lemma toLower_eq_digit_iff {c digit : Char} (h : digit.toNat < 65) :
    c.toLower = digit ↔ c ∈ [digit] := by
  rw [List.mem_singleton, ← Char.toNat_inj, ← Char.toNat_inj, toNat_toLower]
  split <;> omega

/-- A text has the letters of a word, in either case, if its characters stand in their places. -/
lemma map_toLower_eq_iff {word : List Char} {places : List (List Char)}
    (h : List.Forall₂ (fun d cs => ∀ c : Char, c.toLower = d ↔ c ∈ cs) word places)
    {text : List Char} :
    text.map Char.toLower = word ↔ List.Forall₂ (· ∈ ·) text places := by
  induction h generalizing text with
  | nil => simp
  | cons hd _ ih =>
    cases text with
    | nil => simp
    | cons c cs => rw [List.map_cons, List.cons.injEq, List.forall₂_cons, hd, ih]

/-- **Three words mean yes**, in letters of either case. -/
theorem isYes_iff {s : String} : isYes s = true ↔ SaysYes s := by
  have letter : ∀ {lower upper : Char}, 97 ≤ lower.toNat ∧ lower.toNat ≤ 122 →
      upper.toNat + 32 = lower.toNat → ∀ c : Char, c.toLower = lower ↔ c ∈ [lower, upper] :=
    fun hlower hupper _ => toLower_eq_iff hlower hupper
  have hword : ∀ {word : String} {places : List (List Char)},
      List.Forall₂ (fun d cs => ∀ c : Char, c.toLower = d ↔ c ∈ cs) word.toList places →
      (s.map Char.toLower = word ↔ List.Forall₂ (· ∈ ·) s.toList places) := by
    intro word places h
    rw [← String.toList_inj, String.toList_map]
    exact map_toLower_eq_iff h
  have htrue : s.map Char.toLower = "true" ↔
      List.Forall₂ (· ∈ ·) s.toList [['t', 'T'], ['r', 'R'], ['u', 'U'], ['e', 'E']] := by
    refine hword ?_
    rw [show "true".toList = ['t', 'r', 'u', 'e'] from rfl]
    exact .cons (letter (by decide) rfl) (.cons (letter (by decide) rfl)
      (.cons (letter (by decide) rfl) (.cons (letter (by decide) rfl) .nil)))
  have hone : s.map Char.toLower = "1" ↔ List.Forall₂ (· ∈ ·) s.toList [['1']] := by
    refine hword ?_
    rw [show "1".toList = ['1'] from rfl]
    exact .cons (fun _ => toLower_eq_digit_iff (by decide)) .nil
  have hyes : s.map Char.toLower = "yes" ↔
      List.Forall₂ (· ∈ ·) s.toList [['y', 'Y'], ['e', 'E'], ['s', 'S']] := by
    refine hword ?_
    rw [show "yes".toList = ['y', 'e', 's'] from rfl]
    exact .cons (letter (by decide) rfl) (.cons (letter (by decide) rfl)
      (.cons (letter (by decide) rfl) .nil))
  unfold isYes SaysYes yesWords
  rw [List.contains_iff_mem]
  simp only [List.mem_cons, List.not_mem_nil, or_false, exists_eq_or_imp, exists_eq_left, htrue,
    hone, hyes]

end Variables

namespace Decimal

/-- What a text says to a reader: a plain one what it spells, any other what the reader takes it
for. -/
def Means (read? : String → Option Decimal) (s : String) (x : Decimal) : Prop :=
  IsPlain s ∧ Spells s.toList x ∨ ¬ IsPlain s ∧ read? s = some x

lemma ReadsPlain.eq_some_iff {read? : String → Option Decimal} (h : ReadsPlain read?) {s : String}
    {x : Decimal} : read? s = some x ↔ Means read? s x := by
  unfold Means
  by_cases hs : IsPlain s
  · rw [h s hs x, and_iff_right hs]
    exact (or_iff_left fun hnot => hnot.1 hs).symm
  · rw [and_iff_right hs]
    exact (or_iff_right fun hplain => hs hplain.1).symm

end Decimal

/-! ### Variables -/

section Variables

variable {α : Type} {v : Option String} {Says : String → α → Prop} {read? : String → Option α}
  {old new : α}

/-- A variable that is not empty and says something replaces the old value; any other keeps it. -/
def Variables.Replaces (v : Option String) (Says : String → α → Prop) (old new : α) : Prop :=
  (∃ s, v = some s ∧ s ≠ "" ∧ Says s new) ∨
    (∀ s, v = some s → s ≠ "" → ∀ x, ¬ Says s x) ∧ new = old

lemma Variables.replaces_iff (hmeans : ∀ {s x}, read? s = some x ↔ Says s x) :
    Replaces v Says old new ↔ ((text? v).bind read?).getD old = new := by
  have hkept : (∀ s, v = some s → s ≠ "" → ∀ x, ¬ Says s x) →
      (Replaces v Says old new ↔ old = new) := fun h => by
    unfold Replaces
    rw [and_iff_right h, eq_comm (a := new)]
    refine or_iff_right ?_
    rintro ⟨s, hs, hne, hnew⟩
    exact h s hs hne new hnew
  cases v with
  | none => exact hkept nofun
  | some s =>
    by_cases hs : s = ""
    · subst hs
      exact hkept fun s hs hne => absurd (Option.some.inj hs).symm hne
    · have htext : text? (some s) = some s := by
        unfold text?
        rw [Option.filter_some, if_pos (by simpa using hs)]
      rw [htext, Option.bind_some]
      cases hread : read? s with
      | none =>
        refine hkept fun s' hs' _ x hx => ?_
        rw [← Option.some.inj hs', ← hmeans, hread] at hx
        cases hx
      | some x =>
        have hx := hmeans.1 hread
        rw [Option.getD_some]
        constructor
        · rintro (⟨s', hs', -, hnew⟩ | ⟨hnone, -⟩)
          · rw [← Option.some.inj hs', ← hmeans, hread] at hnew
            exact Option.some.inj hnew
          · exact absurd hx (hnone s rfl hs x)
        · rintro rfl
          exact .inl ⟨s, rfl, hs, hx⟩

end Variables

namespace Config

variable {decimal? : String → Option Decimal} {file : String → Option String} {v : Variables}
  {w c : Config}

/-- The second configuration is the first one with the variables put in. -/
structure Overridden (decimal? : String → Option Decimal) (v : Variables) (w c : Config) :
    Prop where
  rpcUrl : Variables.Replaces v.rpcUrl (fun s url => some s = url) w.options.rpcUrl
    c.options.rpcUrl
  keeper : Variables.Replaces v.keeperAddress (fun s keeper => s = keeper) w.options.keeper
    c.options.keeper
  pollInterval : Variables.Replaces v.pollInterval Variables.SpellsSeconds w.options.pollInterval
    c.options.pollInterval
  engageOnStart : Variables.Replaces v.engageOnStart (fun s yes => yes = true ↔ Variables.SaysYes s)
    w.options.engageOnStart c.options.engageOnStart
  target : Variables.Replaces v.target (Decimal.Means decimal?) w.settings.methodology.target
    c.settings.methodology.target
  rest : c =
    { w with
      options :=
        { w.options with
          rpcUrl := c.options.rpcUrl
          keeper := c.options.keeper
          pollInterval := c.options.pollInterval
          engageOnStart := c.options.engageOnStart }
      settings :=
        { w.settings with
          methodology :=
            { w.settings.methodology with target := c.settings.methodology.target } } }

lemma overridden_iff (hread : Decimal.ReadsPlain decimal?) :
    Overridden decimal? v w c ↔ w.overrideBy decimal? v = c := by
  have hurl : (Variables.text? v.rpcUrl <|> w.options.rpcUrl)
      = ((Variables.text? v.rpcUrl).bind fun s => some (some s)).getD w.options.rpcUrl := by
    cases Variables.text? v.rpcUrl <;> rfl
  have hkeeper : (Variables.text? v.keeperAddress).getD w.options.keeper
      = ((Variables.text? v.keeperAddress).bind some).getD w.options.keeper := by
    cases Variables.text? v.keeperAddress <;> rfl
  have hengage : ((Variables.text? v.engageOnStart).map Variables.isYes)
      = (Variables.text? v.engageOnStart).bind fun s => some (Variables.isYes s) :=
    Option.map_eq_bind ..
  have hyes : ∀ {s : String} {yes : Bool},
      some (Variables.isYes s) = some yes ↔ (yes = true ↔ Variables.SaysYes s) := by
    intro s yes
    rw [Option.some.injEq, ← Variables.isYes_iff]
    cases yes <;> cases Variables.isYes s <;> decide
  unfold overrideBy
  rw [hurl, hkeeper, hengage]
  constructor
  · intro h
    rw [(Variables.replaces_iff Option.some_inj).1 h.rpcUrl,
      (Variables.replaces_iff Option.some_inj).1 h.keeper,
      (Variables.replaces_iff Variables.seconds?_eq_some).1 h.pollInterval,
      (Variables.replaces_iff hyes).1 h.engageOnStart,
      (Variables.replaces_iff hread.eq_some_iff).1 h.target]
    exact h.rest.symm
  · rintro rfl
    exact ⟨(Variables.replaces_iff Option.some_inj).2 rfl,
      (Variables.replaces_iff Option.some_inj).2 rfl,
      (Variables.replaces_iff Variables.seconds?_eq_some).2 rfl,
      (Variables.replaces_iff hyes).2 rfl, (Variables.replaces_iff hread.eq_some_iff).2 rfl, rfl⟩

/-! ### Files -/

/-- The file is there, is JSON, and says what is expected of it. -/
def Says {α : Type} (file : String → Option String) (name : String) (read? : Json → Option α)
    (a : α) : Prop :=
  ∃ text, file name = some text ∧ ∃ j, Json.parse? text = some j ∧ read? j = some a

/-- All seven files are there and say what the configuration is. -/
structure ReadFrom (file : String → Option String) (w : Config) : Prop where
  logging : Says file "app.json" Logging.ofFile? w.logging
  assets : Says file "strategy.json" WrittenAssets.ofJson? w.assets
  methodology : Says file "methodology.json" Form.ofJson? w.settings.methodology
  execution : Says file "execution.json" Form.ofJson? w.settings.execution
  incentive : Says file "incentive.json" Form.ofJson? w.settings.incentive
  venues : Says file "exchanges.json" VenueEntry.ofFile? w.venues
  options : Says file "keeper.json" KeeperOptions.ofJson? w.options

lemma part_eq_ok {α : Type} {name : String} {read? : Json → Option α} {a : α} :
    part file name read? = .ok a ↔ Says file name read? a := by
  unfold part Says
  cases file name with
  | none => simp
  | some text =>
    simp only [Option.some.injEq, exists_eq_left', ← Option.bind_eq_some_iff]
    cases (Json.parse? text).bind read? <;> simp

lemma ofFiles_eq_ok : ofFiles file = .ok w ↔ ReadFrom file w := by
  unfold ofFiles
  simp only [bind_eq_ok, pure_eq_ok, part_eq_ok]
  constructor
  · rintro ⟨_, hl, _, ha, _, hm, _, he, _, hi, _, hv, _, ho, rfl⟩
    exact ⟨hl, ha, hm, he, hi, hv, ho⟩
  · rintro ⟨hl, ha, hm, he, hi, hv, ho⟩
    exact ⟨_, hl, _, ha, _, hm, _, he, _, hi, _, hv, _, ho, rfl⟩

/-! ### Loading -/

lemma check_eq_ok {c' : Config} : c.check = .ok c' ↔ c.Allowed ∧ c = c' := by
  unfold check
  rw [← problems_eq_nil]
  split
  next h => simp [h]
  next h => simp [h]

/-- **Loading accepts the allowed configurations and no others.**  It succeeds just if all seven
files are there and can be understood, and what they say is allowed once the variables are put in;
and that is what it results in.  So it is for every reader of the decimal among the variables that
takes a plain text for what it spells, whether it takes an exponent as well or not. -/
theorem loadBy_eq_ok {decimal? : String → Option Decimal} (hread : Decimal.ReadsPlain decimal?)
    (file : String → Option String) (v : Variables) (c : Config) :
    loadBy decimal? file v = .ok c ↔
      ∃ w, ReadFrom file w ∧ Overridden decimal? v w c ∧ c.Allowed := by
  unfold loadBy
  simp only [bind_eq_ok, ofFiles_eq_ok, check_eq_ok, overridden_iff hread]
  constructor
  · rintro ⟨w, hread, hallowed, rfl⟩
    exact ⟨w, hread, rfl, hallowed⟩
  · rintro ⟨w, hread, rfl, hallowed⟩
    exact ⟨w, hread, hallowed, rfl⟩

namespace Trial

open Fund.Trial (number)

/-- All five variables. -/
def environment : Variables where
  rpcUrl := some "https://node"
  keeperAddress := some (address '7')
  pollInterval := some "+030"
  engageOnStart := some "Yes"
  target := some "2.10"

/-- The configuration at hand with these put in. -/
def overridden : Config :=
  { config 10 with
    options :=
      { (config 10).options with
        rpcUrl := some "https://node"
        keeper := address '7'
        pollInterval := 30
        engageOnStart := true }
    settings :=
      { (config 10).settings with
        methodology :=
          { (config 10).settings.methodology with
            target := number 210 2 } } }

end Trial

/-- The files at hand are loaded with all five variables put in, whether the reader of the target
takes an exponent or not. -/
theorem loadBy_eq_ok_overridden :
    load (Trial.config 10).file Trial.environment = .ok Trial.overridden ∧
      loadBy (fun s => Decimal.ofChars? s.toList) (Trial.config 10).file Trial.environment
        = .ok Trial.overridden := by
  have hfiles : ReadFrom (Trial.config 10).file (Trial.config 10) :=
    ofFiles_eq_ok.1 (ofFiles_file Trial.legible_config)
  have hallowed : Trial.overridden.Allowed := problems_eq_nil.1 (by decide +kernel)
  have hspells : Decimal.Spells "2.10".toList (Fund.Trial.number 210 2) := by
    refine ⟨false, ['2', '.', '1', '0'], ['2'], ['1', '0'], .inr ⟨.inr rfl, rfl⟩,
      ⟨.inr rfl, List.all_eq_true.1 rfl, by decide⟩,
      ⟨by decide, by decide, rfl, by decide, ?_⟩, rfl⟩
    exact fun k hlt hle => absurd hlt (Nat.not_lt.2 hle)
  have hseconds : Variables.SpellsSeconds "+030" 30 :=
    ⟨['0', '3', '0'], .inr rfl, List.all_eq_true.1 rfl, by decide, rfl⟩
  have hyes : Variables.SaysYes "Yes" := by
    refine ⟨[['y', 'Y'], ['e', 'E'], ['s', 'S']], by decide, ?_⟩
    exact .cons (by decide) (.cons (by decide) (.cons (by decide) .nil))
  have hput : ∀ decimal?,
      Overridden decimal? Trial.environment (Trial.config 10) Trial.overridden := by
    intro decimal?
    exact ⟨.inl ⟨"https://node", rfl, by decide, rfl⟩,
      .inl ⟨Trial.address '7', rfl, by decide, rfl⟩, .inl ⟨"+030", rfl, by decide, hseconds⟩,
      .inl ⟨"Yes", rfl, by decide, iff_of_true rfl hyes⟩,
      .inl ⟨"2.10", rfl, by decide, .inl ⟨by decide, hspells⟩⟩, rfl⟩
  exact ⟨(loadBy_eq_ok Decimal.readsPlain_ofText? _ _ _).2 ⟨_, hfiles, hput _, hallowed⟩,
    (loadBy_eq_ok Decimal.readsPlain_ofChars? _ _ _).2 ⟨_, hfiles, hput _, hallowed⟩⟩

end Config

end LeverageKeeper
