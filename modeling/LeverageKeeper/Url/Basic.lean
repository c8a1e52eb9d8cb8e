import LeverageKeeper.Url.Host

/-!
# Addresses on the web

A scheme, slashes, perhaps a user before an `@`, a host, perhaps a port behind a colon; a path, a
query and a fragment may follow, and anything may stand there.  Tabs and line breaks do not count,
nor do blanks and control characters around the whole.
-/

namespace LeverageKeeper.Url

def isBlank (c : Char) : Bool := c.toNat ≤ 0x20

def trim (cs : List Char) : List Char :=
  ((cs.dropWhile isBlank).reverse.dropWhile isBlank).reverse

def isLineBreak (c : Char) : Bool := c = '\t' ∨ c = '\n' ∨ c = '\r'

/-- Whether a character ends the part of an address that says where to go. -/
def endsAuthority (c : Char) : Bool := c = '/' ∨ c = '\\' ∨ c = '?' ∨ c = '#'

/-- What stands between the slashes behind the scheme and the path. -/
def authority (url : String) : List Char :=
  let cs := (trim url.toList).filter fun c => !isLineBreak c
  (((cs.dropWhile (· ≠ ':')).drop 1).dropWhile fun c => c = '/' ∨ c = '\\').takeWhile
    fun c => !endsAuthority c

/-- Without the user: what comes after the last `@`. -/
def dropUser (cs : List Char) : List Char := (cs.reverse.takeWhile (· ≠ '@')).reverse

/-- The host, and what follows it from the first colon outside brackets on. -/
def splitHost (inBrackets : Bool) : List Char → List Char × List Char
  | [] => ([], [])
  | c :: cs =>
    if c = ':' ∧ !inBrackets then ([], c :: cs)
    else
      let (host, rest) := splitHost (c = '[' || (inBrackets && c ≠ ']')) cs
      (c :: host, rest)

/-- Nothing, or a colon and digits of a number of 16 bits; no digits are no port. -/
def isPort : List Char → Bool
  | [] => true
  | _ :: cs => cs.all isDecimalDigit && (readBase? 10 cs).any (· < 65536)

/-- Whether the address leads to a host. -/
def isValid (url : String) : Bool :=
  let (host, port) := splitHost false (dropUser (authority url))
  host ≠ [] && isHost host && isPort port

end LeverageKeeper.Url
