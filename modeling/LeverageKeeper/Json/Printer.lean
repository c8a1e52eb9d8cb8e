import LeverageKeeper.Json.Basic
import LeverageKeeper.Text.Hex

/-!
# Writing JSON

Values are written without blanks.  In strings the quote, the backslash and the characters below
space are escaped, five of the latter by a letter; everything else stands for itself.
-/

namespace LeverageKeeper.Json

/-- One character inside a written string. -/
def escape (c : Char) : List Char :=
  if c = '"' then ['\\', '"']
  else if c = '\\' then ['\\', '\\']
  else if c = '\x08' then ['\\', 'b']
  else if c = '\t' then ['\\', 't']
  else if c = '\n' then ['\\', 'n']
  else if c = '\x0c' then ['\\', 'f']
  else if c = '\r' then ['\\', 'r']
  else if c.toNat < 0x20 then ['\\', 'u', '0', '0', Hex.digit (c.toNat / 16), Hex.digit (c.toNat % 16)]
  else [c]

def quoted (s : List Char) : List Char := '"' :: s.flatMap escape ++ ['"']

mutual

/-- The compact text of a value, followed by `rest`. -/
def write : Json → List Char → List Char
  | null, rest => 'n' :: 'u' :: 'l' :: 'l' :: rest
  | bool true, rest => 't' :: 'r' :: 'u' :: 'e' :: rest
  | bool false, rest => 'f' :: 'a' :: 'l' :: 's' :: 'e' :: rest
  | num literal, rest => literal.toList ++ rest
  | str t, rest => quoted (t.getD "").toList ++ rest
  | arr xs, rest => '[' :: writeItems xs (']' :: rest)
  | obj ms, rest => '{' :: writeMembers ms ('}' :: rest)

def writeItems : List Json → List Char → List Char
  | [], rest => rest
  | [v], rest => v.write rest
  | v :: vs, rest => v.write (',' :: writeItems vs rest)

def writeMembers : List (Option String × Json) → List Char → List Char
  | [], rest => rest
  | [(name, v)], rest => quoted (name.getD "").toList ++ ':' :: v.write rest
  | (name, v) :: ms, rest =>
    quoted (name.getD "").toList ++ ':' :: v.write (',' :: writeMembers ms rest)

end

def render (v : Json) : String := String.ofList (v.write [])

end LeverageKeeper.Json
