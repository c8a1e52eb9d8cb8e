import LeverageKeeper.Json.Double

/-!
# JSON values

A value keeps what later readers may ask about: the digits of a number as they stand, the members
of an object in order with repetitions, and for a string its text, if the escapes in it spell one.
-/

namespace LeverageKeeper

/-- A JSON value.  A string has no text when an escape in it is half of a surrogate pair. -/
inductive Json where
  | null
  | bool (b : Bool)
  | num (literal : String)
  | str (text : Option String)
  | arr (items : List Json)
  | obj (members : List (Option String × Json))

namespace Json

instance : Inhabited Json := ⟨null⟩

/-! ### Making values -/

def text (s : String) : Json := str (some s)

def nat (n : Nat) : Json := num (String.ofList (Nat.toDigits 10 n))

def record (fields : List (String × Json)) : Json :=
  obj (fields.map fun (name, v) => (some name, v))

/-- Null stands for a missing value. -/
def option (f : α → Json) : Option α → Json
  | none => null
  | some a => f a

/-! ### Taking values apart -/

def isNull : Json → Bool
  | null => true
  | _ => false

def bool? : Json → Option Bool
  | bool b => some b
  | _ => none

def text? : Json → Option String
  | str t => t
  | _ => none

def items? : Json → Option (List Json)
  | arr xs => some xs
  | _ => none

/-- A number written with digits only. -/
def nat? : Json → Option Nat
  | num literal => readDigits? literal.toList
  | _ => none

/-- A number written with digits only, at most `most`. -/
def natUpTo? (most : Nat) (v : Json) : Option Nat :=
  v.nat?.filter (· ≤ most)

/-- The value of the first member of the given name. -/
def get? (name : String) : Json → Option Json
  | obj ms => (ms.find? fun m => m.1 = some name).map (·.2)
  | _ => none

/-! ### Values that can be kept whole -/

mutual

/-- How deep arrays and objects are nested. -/
def depth : Json → Nat
  | arr xs => depthItems xs + 1
  | obj ms => depthMembers ms + 1
  | _ => 0

def depthItems : List Json → Nat
  | [] => 0
  | v :: vs => Nat.max v.depth (depthItems vs)

def depthMembers : List (Option String × Json) → Nat
  | [] => 0
  | (_, v) :: ms => Nat.max v.depth (depthMembers ms)

end

mutual

/-- Every string in the value has a text, and every number is finite. -/
def sound : Json → Bool
  | num literal => (Literal.ofChars literal.toList).isFinite
  | str t => t.isSome
  | arr xs => soundItems xs
  | obj ms => soundMembers ms
  | _ => true

def soundItems : List Json → Bool
  | [] => true
  | v :: vs => v.sound && soundItems vs

def soundMembers : List (Option String × Json) → Bool
  | [] => true
  | (name, v) :: ms => name.isSome && v.sound && soundMembers ms

end

/-- A value that a reader can set aside before it knows what it is for: it is sound and nested at
most 127 deep. -/
def keepable (v : Json) : Bool := v.sound && v.depth ≤ 127

end Json

end LeverageKeeper
