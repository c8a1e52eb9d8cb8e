import LeverageKeeper.Sizing

/-!
# The lending position's ledger

The book holds amounts in native units, none of which reaches `2 ^ 256`.  An entry is made whole or
not at all.  Around the book stands the lending venue, which may be out of order in several ways
without harm to the book.
-/

namespace LeverageKeeper

/-- What is held and owed, what was received beyond what was owed, and every bounty paid. -/
structure Book where
  collateral : Nat
  debt : Nat
  idle : Nat
  rewards : List (Address × Decimal)
deriving DecidableEq

namespace Book

/-- Amounts stay below this. -/
abbrev capacity : Nat := wordBound

def opening (collateral : Nat) : Book := ⟨collateral, 0, 0, []⟩

/-- The sum, or the given fault if it is too large. -/
def sum (a b : Nat) (fault : LedgerFault) : Checked Nat :=
  if a + b < capacity then .ok (a + b) else .error (.ledger fault)

/-- Collateral that comes from outside. -/
def deposit (k : Book) (amount : Nat) : Checked Book := do
  return { k with collateral := ← sum k.collateral amount .collateralTooLarge }

/-- A chunk upward: what was borrowed is owed, what was received is held. -/
def lever (k : Book) (borrowed received : Nat) : Checked Book := do
  let debt ← sum k.debt borrowed .debtTooLarge
  let collateral ← sum k.collateral received .collateralTooLarge
  return { k with debt, collateral }

/-- A chunk downward: what was sold is gone, what was received repays debt, and what is left of it
lies idle.  The amount repaid comes with the book. -/
def delever (k : Book) (sold received : Nat) : Checked (Book × Nat) := do
  if k.collateral < sold then
    throw (.ledger (.notHeld sold k.collateral))
  let repaid := Nat.min received k.debt
  let idle ← sum k.idle (received - repaid) .idleTooLarge
  return ({ k with collateral := k.collateral - sold, debt := k.debt - repaid, idle }, repaid)

def reward (k : Book) (payee : Address) (amount : Decimal) : Book :=
  { k with rewards := k.rewards ++ [(payee, amount)] }

end Book

/-- Which of the lending venue's answers fail, and with what words. -/
structure Outage where
  balances : Option String := none
  limits : Option String := none
  commit : Option String := none
  reward : Option String := none
  /-- Balances can no longer be read once an entry has been made. -/
  blindAfterCommit : Bool := false
  /-- Limits that stand in for the usual ones. -/
  override : Option LendingLimits := none

structure Ledger where
  book : Book
  limits : LendingLimits
  outage : Outage := {}
  /-- Whether an entry has been made under an outage that blinds. -/
  blind : Bool := false

namespace Ledger

def refuse (reason : String) : Checked α := .error (.ledger (.outage reason))

/-- Fails with the words of an outage, if there is one. -/
def unlessOut (outage : Option String) (answer : Checked α) : Checked α :=
  match outage with
  | some reason => refuse reason
  | none => answer

def balances (l : Ledger) : Checked Balances :=
  unlessOut l.outage.balances
    (if l.blind then refuse "balance read timed out" else .ok ⟨l.book.collateral, l.book.debt⟩)

def lendingLimits (l : Ledger) : Checked LendingLimits :=
  unlessOut l.outage.limits (.ok (l.outage.override.getD l.limits))

/-- The ledger after an entry. -/
def enter (l : Ledger) (book : Book) : Ledger :=
  { l with book, blind := l.blind || l.outage.blindAfterCommit }

/-- Enters a chunk in the given direction: `paid` of one token went out, `received` of the other
came in. -/
def commit (l : Ledger) (direction : Direction) (paid received : Nat) : Checked Ledger :=
  unlessOut l.outage.commit <|
    match direction with
    | .lever => (l.book.lever paid received).map l.enter
    | .delever => (l.book.delever paid received).map fun (book, _) => l.enter book

/-- Pays a bounty. -/
def payReward (l : Ledger) (payee : Address) (amount : Decimal) : Checked Ledger :=
  unlessOut l.outage.reward (.ok { l with book := l.book.reward payee amount })

/-- Collateral from outside reaches the book whatever is out of order. -/
def deposit (l : Ledger) (amount : Nat) : Checked Ledger :=
  (l.book.deposit amount).map fun book => { l with book }

/-- Replaces what is out of order. -/
def withOutage (l : Ledger) (outage : Outage) : Ledger := { l with outage, blind := false }

end Ledger

end LeverageKeeper
