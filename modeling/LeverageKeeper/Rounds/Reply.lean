import LeverageKeeper.Decimal.Text
import LeverageKeeper.Feeds

/-!
# What a feed's contract replies

A contract replies with a row of words of 32 bytes, each with its highest byte first.  A reply that
is too short is as good as none; whatever follows the expected words does not matter.
-/

namespace LeverageKeeper

/-- What comes back for one question. -/
inductive Reply where
  | data (bytes : List UInt8)
  | failure
deriving DecidableEq

/-- Why a feed could not be used. -/
inductive FeedFault where
  | oversized (answer : Int)
  | unreachable (feed : Address)
  | otherDecimals (feed : Address) (reported configured : Nat)
deriving DecidableEq

def FeedFault.message : FeedFault → String
  | oversized answer => "feed answer " ++ toString answer ++ " does not fit in i128"
  | unreachable feed => "decimals() call failed for feed " ++ feed.text
  | otherDecimals feed reported configured =>
    "feed " ++ feed.text ++ " reports " ++ toString reported ++ " decimals, configured "
      ++ toString configured

namespace Reply

/-- Bytes in a word. -/
abbrev wordSize : Nat := 32

/-- The number that bytes spell, the highest first. -/
def ofBytes (bs : List UInt8) : Nat := bs.foldl (fun n b => n * 256 + b.toNat) 0

/-- The word at place `i`. -/
def wordAt (bs : List UInt8) (i : Nat) : Nat := ofBytes ((bs.drop (i * wordSize)).take wordSize)

/-- The first `n` words of a reply that has so many. -/
def words? (n : Nat) : Reply → Option (List Nat)
  | data bytes =>
    if bytes.length < n * wordSize then none else some ((List.range n).map (wordAt bytes))
  | failure => none

/-- The number of decimals that a contract reports; only the lowest byte of the word counts. -/
def decimals? (r : Reply) : Option Nat :=
  match r.words? 1 with
  | some [word] => some (word % 256)
  | _ => none

end Reply

/-- What counts of a round: its answer, and when it was given. -/
structure Round where
  answer : Int
  updatedAt : Nat
deriving DecidableEq

namespace Round

/-- A word as a number with a sign. -/
def signed (word : Nat) : Int :=
  if 2 * word < wordBound then word else word - wordBound

/-- Answers of 128 bits with a sign are below this bound, two to the power 127. -/
abbrev answerBound : Nat := 0x80000000000000000000000000000000

/-- A round is five words: its number, the answer, the time it started, the time of the answer, and
the number of the round that gave it. -/
def ofReply? (r : Reply) : Option Round :=
  match r.words? 5 with
  | some [_, answer, _, updatedAt, _] => some ⟨signed answer, updatedAt⟩
  | _ => none

/-- The number of 128 bits with a sign that a text spells. -/
def narrow? : List Char → Option Int
  | '-' :: cs => ((readDigits? cs).filter (· ≤ answerBound)).map fun n : Nat => -(n : Int)
  | cs => ((readUnsigned? cs).filter (· < answerBound)).map Int.ofNat

/-- The answer is narrowed by way of its text.  A time that no clock reaches is the last moment of
the clock. -/
def reading (r : Round) (decimals : Nat) : Except FeedFault Reading :=
  match narrow? (toString r.answer).toList with
  | some answer =>
    .ok ⟨answer, decimals, UInt64.ofNat (Nat.min r.updatedAt Cooldown.lastMoment)⟩
  | none => .error (.oversized r.answer)

end Round

end LeverageKeeper
