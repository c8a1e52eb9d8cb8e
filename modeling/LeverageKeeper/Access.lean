import LeverageKeeper.Failure

/-!
# Who may call what

The operator may do everything that is guarded.  Ordinary upkeep is for callers on a list, or for
everyone once the operator has opened it.  Nothing else is allowed.
-/

namespace LeverageKeeper

/-- The callers that may do ordinary upkeep. -/
structure AccessList where
  /-- Each address at most once. -/
  allowed : List Address
  anyoneCallable : Bool

namespace AccessList

def ofList (callers : List Address) : AccessList :=
  ⟨callers.foldl (fun xs a => xs.insert a) [], false⟩

def isAllowed (l : AccessList) (caller : Address) : Bool :=
  l.anyoneCallable || l.allowed.contains caller

def set (l : AccessList) (account : Address) (allowed : Bool) : AccessList :=
  { l with allowed := if allowed then l.allowed.insert account else l.allowed.erase account }

def size (l : AccessList) : Nat := l.allowed.length

def isEmpty (l : AccessList) : Bool := l.allowed.isEmpty

end AccessList

/-- The operator and the list. -/
structure Guard where
  operator : Address
  list : AccessList

namespace Guard

def requireOperator (g : Guard) (caller : Address) (action : String) : Checked Unit :=
  demand (caller = g.operator) (.unauthorized caller action)

def requireAllowed (g : Guard) (caller : Address) (action : String) : Checked Unit :=
  demand (g.list.isAllowed caller) (.unauthorized caller action)

/-- The operator puts an account on the list or takes it off. -/
def setStatus (g : Guard) (caller account : Address) (allowed : Bool) : Checked Guard := do
  g.requireOperator caller "update allow-list"
  return { g with list := g.list.set account allowed }

/-- The operator opens ordinary upkeep to everyone, or closes it again. -/
def setOpen (g : Guard) (caller : Address) (isOpen : Bool) : Checked Guard := do
  g.requireOperator caller "toggle anyone-callable"
  return { g with list := { g.list with anyoneCallable := isOpen } }

end Guard

end LeverageKeeper
