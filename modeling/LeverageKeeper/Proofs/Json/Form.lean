import LeverageKeeper.Position.Form
import LeverageKeeper.Proofs.Json.Reader
import LeverageKeeper.Report.Form
import LeverageKeeper.Settings.Form

/-!
# Values and their texts

What is written for a value is read back as the value, with every decimal at its scale, but without
the sign of a zero.  A form with this property is lawful; records are lawful when their fields are.

A text that was not written but read can bring a negative zero: `-0.4e-28` is one, because the
exponent pushes its only digit out of range.  It is written with its sign and loses it when that is
read.  So a text that was written once more is the same text exactly when no zero has a sign, and
from then on it is the same in any case.
-/

namespace LeverageKeeper

/-! ### Records -/

namespace Json

section Rows

variable {names : List String} {vs : List Json}

lemma row_eq_record : row names vs = record (names.zip vs) := by
  rw [row, record, List.zip, List.map_zipWith]

lemma written_row (h : ∀ v ∈ vs, Written v) : (row names vs).Written := by
  rw [row_eq_record]
  exact .record _ fun m hm => h m.2 (List.of_mem_zip hm).2

/-- A name that stands once finds its value. -/
lemma field?_row (hn : names.Nodup) {name : String} {v : Json} (h : (name, v) ∈ names.zip vs) :
    field? name (List.zipWith (fun name v => (some name, v)) names vs) = some (some v) := by
  have alone : (List.zipWith (fun name v => (some name, v)) names vs).filter
      (fun m => m.1 = some name) = [(some name, v)] := by
    induction names generalizing vs with
    | nil => simp at h
    | cons n ns ih =>
      cases vs with
      | nil => simp at h
      | cons w ws =>
        obtain ⟨hnotin, hns⟩ := List.nodup_cons.1 hn
        rw [List.zipWith_cons_cons]
        rcases List.mem_cons.1 h with he | hmem
        · obtain ⟨rfl, rfl⟩ := Prod.mk.inj he
          have hnone : (List.zipWith (fun name v => (some name, v)) ns ws).filter
              (fun m => m.1 = some name) = [] := by
            rw [List.filter_eq_nil_iff]
            intro m hm hname
            rw [← List.map_uncurry_zip_eq_zipWith] at hm
            obtain ⟨⟨k, u⟩, hk, rfl⟩ := List.mem_map.1 hm
            have hkn : k = name := by simpa using hname
            exact hnotin (hkn ▸ (List.of_mem_zip hk).1)
          rw [List.filter_cons_of_pos (by simp), hnone]
        · have hne : n ≠ name := by
            rintro rfl
            exact hnotin (List.of_mem_zip hmem).1
          rw [List.filter_cons_of_neg (by simpa using hne), ih hns hmem]
  rw [field?, alone]

/-- **The fields of a row are read back in order.** -/
theorem row?_row (hn : names.Nodup) (hl : names.length = vs.length) :
    row? names (row names vs) = some (vs.map some) := by
  have named : (List.zipWith (fun name v => (some name, v)) names vs).all
      (fun m => m.1.isSome) = true := by
    rw [List.all_eq_true]
    intro m hm
    rw [← List.map_uncurry_zip_eq_zipWith] at hm
    obtain ⟨⟨k, u⟩, -, rfl⟩ := List.mem_map.1 hm
    rfl
  have each : ∀ p ∈ names.zip vs,
      field? p.1 (List.zipWith (fun name v => (some name, v)) names vs) = some (some p.2) :=
    fun p hp => field?_row hn hp
  show rowOfMembers? names _ = _
  unfold rowOfMembers?
  rw [if_pos named]
  -- the members stay the same while the names are gone through
  generalize List.zipWith (fun name v => (some name, v)) names vs = ms at each
  clear named hn
  induction names generalizing vs with
  | nil =>
    obtain rfl : vs = [] := List.length_eq_zero_iff.1 hl.symm
    rfl
  | cons n ns ih =>
    cases vs with
    | nil => simp at hl
    | cons v vs =>
      have hfirst := each (n, v) (by simp)
      have hl' : ns.length = vs.length := by simpa using hl
      have hrest := ih hl' fun p hp => each p (by simp [hp])
      simp only [List.mapM_cons, hfirst, hrest, Option.bind_eq_bind, Option.bind_some,
        List.map_cons, Option.pure_def]

lemma row_inj {ws : List Json} (hv : names.length = vs.length) (hw : names.length = ws.length)
    (h : row names vs = row names ws) : vs = ws := by
  rw [row_eq_record, row_eq_record] at h
  have hmap := congrArg (List.map Prod.snd) (Json.obj.inj h)
  rw [List.map_map, List.map_map] at hmap
  have hzip : (names.zip vs).map Prod.snd = (names.zip ws).map Prod.snd := hmap
  rwa [List.map_snd_zip hv.ge, List.map_snd_zip hw.ge] at hzip

end Rows

/-- Printing tells values apart. -/
lemma eq_of_render_eq {v w : Json} (hv : v.Written) (hw : w.Written) (h : v.render = w.render) :
    v = w := by
  have hread := parse?_render hv
  rw [h, parse?_render hw] at hread
  exact (Option.some.inj hread).symm

end Json

/-! ### Lawful forms -/

/-- A value whose zeros have no sign. -/
class Unsigned (α : Type) where
  unsigned : α → α

export Unsigned (unsigned)

/-- What is written for a value is read back, but for the signs of zeros, and shows them. -/
class LawfulForm (α : Type) [Form α] [Unsigned α] : Prop where
  unsigned_unsigned (a : α) : unsigned (unsigned a) = unsigned a
  written (a : α) : (Form.json a).Written
  ofJson?_json (a : α) : Form.ofJson? (Form.json a) = some (unsigned a)
  unsigned_eq {a : α} : Form.json (unsigned a) = Form.json a → unsigned a = a

open LawfulForm

section Lawful

variable {α : Type} [Form α] [Unsigned α] [LawfulForm α] {a : α}

@[simp] lemma need?_json (a : α) : Form.need? (some (Form.json a)) = some (unsigned a) :=
  ofJson?_json a

@[simp] lemma orElse?_json (d a : α) :
    Form.orElse? d (some (Form.json a)) = some (unsigned a) := ofJson?_json a

/-- **What is written for a value is read back.** -/
theorem read?_write (a : α) : Form.read? (Form.write a) = some (unsigned a) := by
  rw [Form.read?, Form.write, Json.parse?_render (written a), Option.bind_some, ofJson?_json]

/-- The text shows whether a zero has a sign. -/
theorem write_unsigned_eq_iff : Form.write (unsigned a) = Form.write a ↔ unsigned a = a := by
  constructor
  · intro h
    exact unsigned_eq (Json.eq_of_render_eq (written _) (written _) h)
  · intro h
    rw [h]

end Lawful

instance : Unsigned Decimal := ⟨Decimal.unsignedZero⟩
instance : Unsigned (Option Decimal) := ⟨Option.map Decimal.unsignedZero⟩
instance : Unsigned String := ⟨id⟩
instance : Unsigned Bool := ⟨id⟩
instance : Unsigned UInt64 := ⟨id⟩
instance : Unsigned Direction := ⟨id⟩
instance : Unsigned Phase := ⟨id⟩
instance : Unsigned Action := ⟨id⟩
instance : Unsigned TradeKind := ⟨id⟩

/-! ### Decimals, texts and numbers -/

instance : LawfulForm Decimal where
  unsigned_unsigned := Decimal.unsignedZero_unsignedZero
  written a := .text a.text
  ofJson?_json := Decimal.ofText?_text
  unsigned_eq h := Decimal.unsignedZero_eq_of_text_eq (Option.some.inj (Json.str.inj h))

instance : LawfulForm (Option Decimal) where
  unsigned_unsigned x := by
    cases x with
    | none => rfl
    | some a => exact congrArg some (unsigned_unsigned a)
  written x := by
    cases x with
    | none => exact .null
    | some a => exact written a
  ofJson?_json x := by
    cases x with
    | none => rfl
    | some a => exact congrArg (Option.map some) (ofJson?_json a)
  unsigned_eq {x} h := by
    cases x with
    | none => rfl
    | some a => exact congrArg some (unsigned_eq h)

instance : LawfulForm String where
  unsigned_unsigned _ := rfl
  written := .text
  ofJson?_json _ := rfl
  unsigned_eq _ := rfl

instance : LawfulForm Bool where
  unsigned_unsigned _ := rfl
  written := .bool
  ofJson?_json _ := rfl
  unsigned_eq _ := rfl

lemma Json.nat?_nat (n : ℕ) : (Json.nat n).nat? = some n := by
  rw [Json.nat, Json.nat?, String.toList_ofList, readDigits?_toDigits]

instance : LawfulForm UInt64 where
  unsigned_unsigned _ := rfl
  written n := .nat n.toNat
  ofJson?_json n := by
    have hle : n.toNat ≤ UInt64.size - 1 := Nat.le_sub_one_of_lt n.toNat_lt
    show (((Json.nat n.toNat).nat?.filter (· ≤ UInt64.size - 1)).map UInt64.ofNat) = some n
    rw [Json.nat?_nat, Option.filter_some, if_pos (decide_eq_true hle), Option.map_some,
      UInt64.ofNat_toNat]
  unsigned_eq _ := rfl

/-! ### Records and names -/

section Lawful

variable {α : Type} [Form α] [Unsigned α]

/-- A record is lawful when its row of values is read back and shows the signs of zeros. -/
lemma lawful_of_row {names : List String} {values : α → List Json}
    {ofRow? : List (Option Json) → Option α} (hj : ∀ a : α, Form.json a = .row names (values a))
    (hr : ∀ v : Json, Form.ofJson? v = (v.row? names).bind ofRow?) (hn : names.Nodup)
    (hl : ∀ a, names.length = (values a).length) (hw : ∀ a, ∀ v ∈ values a, v.Written)
    (ho : ∀ a, ofRow? ((values a).map some) = some (unsigned a))
    (hu : ∀ a : α, unsigned (unsigned a) = unsigned a)
    (he : ∀ a, values (unsigned a) = values a → unsigned a = a) : LawfulForm α where
  unsigned_unsigned := hu
  written a := by
    rw [hj]
    exact Json.written_row (hw a)
  ofJson?_json a := by
    rw [hr, hj, Json.row?_row hn (hl a)]
    exact ho a
  unsigned_eq {a} h := by
    rw [hj, hj] at h
    exact he a (Json.row_inj (hl _) (hl a) h)

/-- What is written as a name is read back by its name. -/
lemma lawful_of_name {all : List α} {name : α → String} (hu : ∀ a : α, unsigned a = a)
    (hj : ∀ a : α, Form.json a = .text (name a))
    (hr : ∀ v, (Form.ofJson? v : Option α) = v.name?.bind (Json.named? all name))
    (hn : ∀ a, Json.named? all name (name a) = some a) : LawfulForm α where
  unsigned_unsigned a := by rw [hu, hu]
  written a := hj a ▸ .text (name a)
  ofJson?_json a := by
    rw [hr, hj, hu]
    exact hn a
  unsigned_eq _ := hu _

end Lawful

instance : LawfulForm Direction :=
  lawful_of_name (fun _ => rfl) (fun _ => rfl) (fun _ => rfl) (fun d => by cases d <;> rfl)

instance : LawfulForm Phase :=
  lawful_of_name (fun _ => rfl) (fun _ => rfl) (fun _ => rfl) (fun p => by cases p <;> rfl)

instance : LawfulForm Action :=
  lawful_of_name (fun _ => rfl) (fun _ => rfl) (fun _ => rfl) (fun a => by cases a <;> rfl)

instance : LawfulForm TradeKind :=
  lawful_of_name (fun _ => rfl) (fun _ => rfl) (fun _ => rfl) (fun k => by cases k <;> rfl)

/-! ### Settings -/

instance : Unsigned Methodology where
  unsigned m :=
    ⟨unsigned m.target, unsigned m.least, unsigned m.most, unsigned m.speed, m.interval⟩

instance : LawfulForm Methodology := by
  refine lawful_of_row (fun _ => rfl) (fun _ => rfl) (by decide) (fun _ => rfl)
    (fun m => by simp [written]) (fun m => ?_) (fun m => ?_) (fun m h => ?_)
  · simp only [List.map_cons, List.map_nil, Methodology.ofRow?, need?_json, Option.bind_eq_bind,
      Option.bind_some, Option.pure_def]
    rfl
  · simp only [unsigned, Decimal.unsignedZero_unsignedZero]
  · simp only [List.cons.injEq] at h
    obtain ⟨h1, h2, h3, h4, -⟩ := h
    show Methodology.mk _ _ _ _ _ = m
    rw [unsigned_eq h1, unsigned_eq h2, unsigned_eq h3, unsigned_eq h4]

instance : Unsigned Execution where
  unsigned e := ⟨unsigned e.unutilized, e.cooldown, unsigned e.slippage⟩

instance : LawfulForm Execution := by
  refine lawful_of_row (fun _ => rfl) (fun _ => rfl) (by decide) (fun _ => rfl)
    (fun e => by simp [written]) (fun e => ?_) (fun e => ?_) (fun e h => ?_)
  · simp only [List.map_cons, List.map_nil, Execution.ofRow?, need?_json, Option.bind_eq_bind,
      Option.bind_some, Option.pure_def]
    rfl
  · simp only [unsigned, Decimal.unsignedZero_unsignedZero]
  · simp only [List.cons.injEq] at h
    obtain ⟨h1, -, h3, -⟩ := h
    show Execution.mk _ _ _ = e
    rw [unsigned_eq h1, unsigned_eq h3]

instance : Unsigned Incentive where
  unsigned i := ⟨unsigned i.ratio, i.cooldown, unsigned i.slippage, unsigned i.reward⟩

instance : LawfulForm Incentive := by
  refine lawful_of_row (fun _ => rfl) (fun _ => rfl) (by decide) (fun _ => rfl)
    (fun i => by simp [written]) (fun i => ?_) (fun i => ?_) (fun i h => ?_)
  · simp only [List.map_cons, List.map_nil, Incentive.ofRow?, need?_json, Option.bind_eq_bind,
      Option.bind_some, Option.pure_def]
    rfl
  · simp only [unsigned, Decimal.unsignedZero_unsignedZero]
  · simp only [List.cons.injEq] at h
    obtain ⟨h1, -, h3, h4, -⟩ := h
    show Incentive.mk _ _ _ _ = i
    rw [unsigned_eq h1, unsigned_eq h3, unsigned_eq h4]

instance : Unsigned Settings where
  unsigned s := ⟨unsigned s.methodology, unsigned s.execution, unsigned s.incentive⟩

instance : LawfulForm Settings := by
  refine lawful_of_row (fun _ => rfl) (fun _ => rfl) (by decide) (fun _ => rfl)
    (fun s => by simp [written]) (fun s => ?_) (fun s => ?_) (fun s h => ?_)
  · simp only [List.map_cons, List.map_nil, Settings.ofRow?, need?_json, Option.bind_eq_bind,
      Option.bind_some, Option.pure_def]
    rfl
  · show Settings.mk (unsigned (unsigned s.methodology)) (unsigned (unsigned s.execution))
      (unsigned (unsigned s.incentive)) = _
    simp only [unsigned_unsigned]
    rfl
  · simp only [List.cons.injEq] at h
    obtain ⟨h1, h2, h3, -⟩ := h
    show Settings.mk _ _ _ = s
    rw [unsigned_eq h1, unsigned_eq h2, unsigned_eq h3]

lemma routeOfJson?_routeJson (route : List UInt8) : routeOfJson? (routeJson route) = some route :=
  Hex.ofText?_marked route

instance : Unsigned Terms where
  unsigned t :=
    ⟨unsigned t.cap, unsigned t.incentivizedCap, t.lastTrade, t.leverRoute, t.deleverRoute⟩

instance : LawfulForm Terms := by
  refine lawful_of_row (fun _ => rfl) (fun _ => rfl) (by decide) (fun _ => rfl)
    (fun t => by simp [written, routeJson, Json.Written.text]) (fun t => ?_) (fun t => ?_)
    (fun t h => ?_)
  · simp only [List.map_cons, List.map_nil, Terms.ofRow?, need?_json, orElse?_json, Json.orElse?,
      routeOfJson?_routeJson, Option.bind_eq_bind, Option.bind_some, Option.pure_def]
    rfl
  · simp only [unsigned, Decimal.unsignedZero_unsignedZero]
  · simp only [List.cons.injEq] at h
    obtain ⟨h1, h2, -⟩ := h
    show Terms.mk _ _ _ _ _ = t
    rw [unsigned_eq h1, unsigned_eq h2]

/-! ### Positions and limits -/

instance : Unsigned LendingLimits where
  unsigned l := ⟨unsigned l.maxLtv, unsigned l.liquidationThreshold⟩

instance : LawfulForm LendingLimits := by
  refine lawful_of_row (fun _ => rfl) (fun _ => rfl) (by decide) (fun _ => rfl)
    (fun l => by simp [written]) (fun l => ?_) (fun l => ?_) (fun l h => ?_)
  · simp only [List.map_cons, List.map_nil, LendingLimits.ofRow?, need?_json, Option.bind_eq_bind,
      Option.bind_some, Option.pure_def]
    rfl
  · simp only [unsigned, Decimal.unsignedZero_unsignedZero]
  · simp only [List.cons.injEq] at h
    obtain ⟨h1, h2, -⟩ := h
    show LendingLimits.mk _ _ = l
    rw [unsigned_eq h1, unsigned_eq h2]

instance : Unsigned Position where
  unsigned p :=
    ⟨unsigned p.collateralUnits, unsigned p.debtUnits, unsigned p.collateralPrice,
      unsigned p.borrowPrice, unsigned p.collateralValue, unsigned p.debtValue,
      unsigned p.leverage⟩

instance : LawfulForm Position := by
  refine lawful_of_row (fun _ => rfl) (fun _ => rfl) (by decide) (fun _ => rfl)
    (fun p => by simp [written]) (fun p => ?_) (fun p => ?_) (fun p h => ?_)
  · simp only [List.map_cons, List.map_nil, Position.ofRow?, need?_json, Option.bind_eq_bind,
      Option.bind_some, Option.pure_def]
    rfl
  · simp only [unsigned, Decimal.unsignedZero_unsignedZero]
  · simp only [List.cons.injEq] at h
    obtain ⟨h1, h2, h3, h4, h5, h6, h7, -⟩ := h
    show Position.mk _ _ _ _ _ _ _ = p
    rw [unsigned_eq h1, unsigned_eq h2, unsigned_eq h3, unsigned_eq h4, unsigned_eq h5,
      unsigned_eq h6, unsigned_eq h7]

/-! ### Trades under way -/

instance : Unsigned Twap where
  unsigned
    | .idle => .idle
    | .under target direction remaining => .under (unsigned target) direction (unsigned remaining)

namespace Twap

variable (target remaining : Decimal) (direction : Direction)

lemma keepable_json (t : Twap) : (json t).keepable = true := by
  cases t with
  | idle => decide
  | under target direction remaining => rfl

lemma split?_under : split? (json (.under target direction remaining)) =
    some ("rebalance_target",
      .row fields [Form.json target, Form.json direction, Form.json remaining]) := by
  rfl

lemma keptDirection?_json : keptDirection? (Form.json direction) = some direction := by
  cases direction <;> rfl

lemma ofState?_under : ofState? "rebalance_target"
    (.row fields [Form.json target, Form.json direction, Form.json remaining]) =
      some (.under (unsigned target) direction (unsigned remaining)) := by
  unfold ofState?
  rw [if_pos rfl, Json.row?_row (by decide) rfl]
  simp only [List.map_cons, List.map_nil, ofRow?, need?_json, Json.need?, keptDirection?_json,
    Option.bind_eq_bind, Option.bind_some, Option.pure_def]

end Twap

instance : LawfulForm Twap where
  unsigned_unsigned t := by
    cases t with
    | idle => rfl
    | under target direction remaining =>
      simp only [unsigned, Decimal.unsignedZero_unsignedZero]
  written t := by
    cases t with
    | idle => exact Json.written_row (by simp [Json.Written.text])
    | under target direction remaining =>
      exact Json.written_row (by simp [written, Json.Written.text])
  ofJson?_json t := by
    show (if (Twap.json t).keepable then _ else none) = _
    rw [if_pos t.keepable_json]
    cases t with
    | idle => rfl
    | under target direction remaining =>
      show (Twap.split? (Twap.json (.under target direction remaining))).bind _ = _
      rw [Twap.split?_under]
      exact Twap.ofState?_under target remaining direction
  unsigned_eq {t} h := by
    cases t with
    | idle => rfl
    | under target direction remaining =>
      have hrow := Json.row_inj rfl rfl h
      simp only [List.cons.injEq] at hrow
      obtain ⟨-, h1, -, h3, -⟩ := hrow
      show Twap.under _ _ _ = _
      rw [unsigned_eq h1, unsigned_eq h3]

/-! ### Reports -/

/-- Null is no text, and the text of a decimal is not empty. -/
lemma Report.ratio?_json (x : Option Decimal) : ratio? (Form.json x) = some (unsigned x) := by
  have hne : (Form.json x).text? ≠ some "" := by
    cases x with
    | none => nofun
    | some a =>
      intro h
      obtain ⟨whole, fraction, ha, hw, -⟩ := a.exists_digits
      have hchars : a.chars = [] := by
        have hlist := congrArg String.toList (Option.some.inj h)
        rwa [Decimal.text, String.toList_ofList] at hlist
      rw [hchars] at ha
      simp [hw] at ha
  unfold ratio?
  rw [if_neg hne, ofJson?_json]

instance : Unsigned Report where
  unsigned r := { r with
    target := unsigned r.target
    leverageBefore := unsigned r.leverageBefore
    leverageAfter := unsigned r.leverageAfter
    collateralAmount := unsigned r.collateralAmount
    borrowAmount := unsigned r.borrowAmount }

instance : LawfulForm Report := by
  refine lawful_of_row (fun _ => rfl) (fun _ => rfl) (by decide) (fun _ => rfl)
    (fun r => by simp [written]) (fun r => ?_) (fun r => ?_) (fun r h => ?_)
  · simp only [List.map_cons, List.map_nil, Report.ofRow?, need?_json, Json.orElse?,
      Report.ratio?_json, Option.bind_eq_bind, Option.bind_some, Option.pure_def]
    rfl
  · show Report.mk r.kind r.venue r.direction (unsigned (unsigned r.target))
      (unsigned (unsigned r.leverageBefore)) (unsigned (unsigned r.leverageAfter))
      (unsigned (unsigned r.collateralAmount)) (unsigned (unsigned r.borrowAmount)) r.chunked
      r.time = _
    simp only [unsigned_unsigned]
    rfl
  · simp only [List.cons.injEq] at h
    obtain ⟨-, -, -, h4, h5, h6, h7, h8, -⟩ := h
    show Report.mk _ _ _ _ _ _ _ _ _ _ = r
    rw [unsigned_eq h4, unsigned_eq h5, unsigned_eq h6, unsigned_eq h7, unsigned_eq h8]

/-! ### Texts written once more -/

/-- The text of the value that a text spells. -/
def rewritten? (α : Type) [Form α] (s : String) : Option String :=
  (Form.read? s : Option α).map Form.write

/-- What is written for a value is read back with its zeros unsigned.  A text that is read is
written once more as a text that stays the same from then on, and it is that text already exactly
when no zero of the value has a sign. -/
def Settles (α : Type) [Form α] [Unsigned α] : Prop :=
  (∀ a : α, Form.read? (Form.write a) = some (unsigned a)) ∧
  ∀ (s : String) (a : α), Form.read? s = some a →
    ∃ t, rewritten? α (Form.write a) = some t ∧ rewritten? α t = some t ∧
      (t = Form.write a ↔ unsigned a = a)

theorem settles {α : Type} [Form α] [Unsigned α] [LawfulForm α] : Settles α := by
  refine ⟨read?_write, fun s a _ => ⟨Form.write (unsigned a), ?_, ?_, write_unsigned_eq_iff⟩⟩
  · rw [rewritten?, read?_write, Option.map_some]
  · rw [rewritten?, read?_write, Option.map_some, unsigned_unsigned]

/-- **Every type that is written settles.** -/
theorem forms_settle :
    Settles Methodology ∧ Settles Execution ∧ Settles Incentive ∧ Settles Terms ∧
    Settles Settings ∧ Settles LendingLimits ∧ Settles Position ∧ Settles Twap ∧ Settles Report ∧
    Settles Direction ∧ Settles Phase ∧ Settles Action ∧ Settles TradeKind :=
  ⟨settles, settles, settles, settles, settles, settles, settles, settles, settles, settles,
    settles, settles, settles⟩

/-- Limits with a negative zero in them. -/
def LendingLimits.vanishing : LendingLimits :=
  ⟨{ Decimal.zero with negative := true, scale := 28, scale_le := Nat.le_refl 28 }, Decimal.one⟩

/-- A text that brings a negative zero is written otherwise the second time. -/
theorem negative_zero_unsettled :
    ¬ ∀ s t, rewritten? LendingLimits s = some t → rewritten? LendingLimits t = some t := by
  intro h
  have hfirst : rewritten? LendingLimits
      "\x7b\"max_ltv\":\"-0.4e-28\",\"liquidation_threshold\":\"1\"\x7d" =
        some (Form.write LendingLimits.vanishing) := by decide +kernel
  have hsecond := h _ _ hfirst
  rw [rewritten?, read?_write, Option.map_some, Option.some_inj, write_unsigned_eq_iff] at hsecond
  exact absurd hsecond (by decide)

end LeverageKeeper
