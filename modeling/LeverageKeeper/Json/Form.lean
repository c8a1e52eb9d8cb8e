import LeverageKeeper.Json.Printer
import LeverageKeeper.Json.Reader
import LeverageKeeper.Json.Record

/-!
# Written forms

A type has a form when its values are written as JSON and read back from it.  Decimals are written
as text, because a JSON number would lose their scale; reading accepts an exponent as well.
-/

namespace LeverageKeeper

class Form (α : Type) where
  json : α → Json
  ofJson? : Json → Option α

namespace Form

/-- The compact text of a value. -/
def write [Form α] (a : α) : String := (json a).render

/-- The value that a text spells. -/
def read? [Form α] (s : String) : Option α := (Json.parse? s).bind ofJson?

/-- A field that must be there. -/
def need? [Form α] (field : Option Json) : Option α := Json.need? ofJson? field

/-- A field that may be missing. -/
def orElse? [Form α] (default : α) (field : Option Json) : Option α :=
  Json.orElse? ofJson? default field

end Form

instance : Form Decimal where
  json a := .text a.text
  ofJson? v := v.text?.bind Decimal.ofText?

instance : Form String where
  json := .text
  ofJson? := Json.text?

instance : Form Bool where
  json := .bool
  ofJson? := Json.bool?

instance : Form UInt64 where
  json n := .nat n.toNat
  ofJson? v := (v.natUpTo? (UInt64.size - 1)).map UInt64.ofNat

instance : Form UInt32 where
  json n := .nat n.toNat
  ofJson? v := (v.natUpTo? (UInt32.size - 1)).map UInt32.ofNat

/-- Null stands for a missing value. -/
instance [Form α] : Form (Option α) where
  json := Json.option Form.json
  ofJson? := Json.nullable? Form.ofJson?

instance [Form α] : Form (List α) where
  json xs := .arr (xs.map Form.json)
  ofJson? := Json.list? Form.ofJson?

end LeverageKeeper
