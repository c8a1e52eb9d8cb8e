import LeverageKeeper.Venue.Basic

/-!
# The registered venues

Venues are kept by the name under which they were registered, in the order of the names.  The time
of the last trade on a venue never goes back while it stays registered.
-/

namespace LeverageKeeper

/-- A registered venue and what is agreed for it. -/
structure Listing where
  venue : Venue
  terms : Terms

structure Registry where
  entries : List (String × Listing)

namespace Registry

def empty : Registry := ⟨[]⟩

/-- Adds an entry before the first one whose name is greater. -/
def insertSorted (name : String) (l : Listing) : List (String × Listing) → List (String × Listing)
  | [] => [(name, l)]
  | e :: es => if name < e.1 then (name, l) :: e :: es else e :: insertSorted name l es

def find? (r : Registry) (name : String) : Option Listing := r.entries.lookup name

def names (r : Registry) : List String := r.entries.map (·.1)

def size (r : Registry) : Nat := r.entries.length

def isEmpty (r : Registry) : Bool := r.entries.isEmpty

/-- The listing of the given name. -/
def get (r : Registry) (name : String) : Checked Listing :=
  orRefuse (.unknownVenue name) (r.find? name)

/-- Changes the terms of an entry. -/
def modify (r : Registry) (name : String) (f : Terms → Terms) : Registry :=
  ⟨r.entries.map fun e => if e.1 = name then (e.1, ⟨e.2.venue, f e.2.terms⟩) else e⟩

/-- Refuses terms that break a rule. -/
def check (name : String) (t : Terms) : Checked Unit :=
  demand (t.violations name = []) (.invalidSettings (.violated (t.violations name)))

def add (r : Registry) (name : String) (venue : Venue) (t : Terms) : Checked Registry := do
  check name t
  if (r.find? name).isSome then
    throw (.invalidSettings (.duplicate name))
  return ⟨insertSorted name ⟨venue, t⟩ r.entries⟩

/-- New terms, but the time of the last trade stays. -/
def update (r : Registry) (name : String) (t : Terms) : Checked Registry := do
  check name t
  let _ ← r.get name
  return r.modify name fun old => { t with lastTrade := old.lastTrade }

/-- The registry without the entry, and the entry. -/
def remove (r : Registry) (name : String) : Checked (Registry × Listing) := do
  let l ← r.get name
  return (⟨r.entries.filter fun e => e.1 ≠ name⟩, l)

/-- The registry with a trade noted at the given time. -/
def stamp (r : Registry) (name : String) (now : UInt64) : Registry :=
  r.modify name fun t => { t with lastTrade := if t.lastTrade < now then now else t.lastTrade }

/-- The registry with another answer to orders from the venue of the given name. -/
def turn (r : Registry) (name : String) (answer : Feeds → Order → Outcome Nat) : Registry :=
  ⟨r.entries.map fun e => if e.1 = name then (e.1, ⟨{ e.2.venue with answer }, e.2.terms⟩) else e⟩

/-- Notes a trade on a registered venue. -/
def record (r : Registry) (name : String) (now : UInt64) : Checked Registry := do
  let _ ← r.get name
  return r.stamp name now

end Registry

end LeverageKeeper
