import LeverageKeeper.Json.Basic

/-!
# Records in JSON

A record with a fixed list of fields is written as an object.  It is read from an object, whatever
the order of the members, or from an array that lists the fields in order.  Members of other names
are passed over; a field that occurs twice, or an array that is too long, is an error.  A field
that is not there has to have a default.

A choice among names is written as the name, and read also from an object with this one name and
nothing behind it.
-/

namespace LeverageKeeper.Json

/-- The object that gives the fields in `names` the values in `vs`. -/
def row (names : List String) (vs : List Json) : Json :=
  obj (List.zipWith (fun name v => (some name, v)) names vs)

/-- The value of the field `name` among the members; `none` on the outside if it occurs twice. -/
def field? (name : String) (ms : List (Option String × Json)) : Option (Option Json) :=
  match ms.filter fun m => m.1 = some name with
  | [] => some none
  | [m] => some (some m.2)
  | _ => none

/-- The fields of a record from the members of an object, in the order of `names`. -/
def rowOfMembers? (names : List String) (ms : List (Option String × Json)) :
    Option (List (Option Json)) :=
  if ms.all fun m => m.1.isSome then names.mapM fun name => field? name ms else none

/-- The fields of a record from the items of an array. -/
def rowOfItems? (names : List String) (vs : List Json) : Option (List (Option Json)) :=
  if vs.length ≤ names.length then
    some (vs.map some ++ List.replicate (names.length - vs.length) none)
  else none

/-- The fields of a record, in the order of `names`. -/
def row? (names : List String) : Json → Option (List (Option Json))
  | obj ms => rowOfMembers? names ms
  | arr vs => rowOfItems? names vs
  | _ => none

/-- A field that must be there. -/
def need? (read : Json → Option α) : Option Json → Option α
  | some v => read v
  | none => none

/-- A field that may be missing. -/
def orElse? (read : Json → Option α) (default : α) : Option Json → Option α
  | some v => read v
  | none => some default

/-- A value, or null for none. -/
def nullable? (read : Json → Option α) (v : Json) : Option (Option α) :=
  if v.isNull then some none else (read v).map some

/-- An array of values. -/
def list? (read : Json → Option α) (v : Json) : Option (List α) :=
  v.items?.bind fun vs => vs.mapM read

/-! ### Names -/

/-- The name that the value gives: a string, or an object with one member and null behind it. -/
def name? : Json → Option String
  | str t => t
  | obj [(name, null)] => name
  | _ => none

/-- In a value that was set aside, an empty object may stand in the place of null. -/
def keptName? : Json → Option String
  | obj [(name, obj [])] => name
  | v => v.name?

/-- The element of `all` that has the given name. -/
def named? (all : List α) (name : α → String) (s : String) : Option α :=
  all.find? fun a => name a = s

end LeverageKeeper.Json
