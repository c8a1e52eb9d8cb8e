import LeverageKeeper.Cooldown
import LeverageKeeper.Units

/-!
# Price feeds

The latest reading of each feed, and the prices that fresh readings amount to.  A reading that is
too old is refused, and so is one that is no positive price; a reading from the future is fresh.
-/

namespace LeverageKeeper

/-- What a feed last said: a whole number in units of the feed's decimals, and when. -/
structure Reading where
  answer : Int
  decimals : Nat
  updatedAt : UInt64
deriving DecidableEq

/-- The latest reading of every feed that was ever heard. -/
structure Feeds where
  readings : List (Address × Reading)

namespace Feeds

def empty : Feeds := ⟨[]⟩

def get? (f : Feeds) (feed : Address) : Option Reading := f.readings.lookup feed

/-- Stores a reading in place of an older one. -/
def set (f : Feeds) (feed : Address) (r : Reading) : Feeds :=
  ⟨(feed, r) :: f.readings.filter fun e => e.1 ≠ feed⟩

/-- Stores a price as the feed would publish it. -/
def setPrice (f : Feeds) (feed : Address) (price : Decimal) (decimals : Nat) (time : UInt64) :
    Checked Feeds :=
  match price.toAnswer? decimals with
  | some answer => .ok (f.set feed ⟨answer, decimals, time⟩)
  | none => .error (.invalidPrice feed (.notRepresentable price decimals))

/-- Gives a feed's reading a new time; tells whether there was one. -/
def touch (f : Feeds) (feed : Address) (time : UInt64) : Feeds × Bool :=
  match f.get? feed with
  | some r => (f.set feed { r with updatedAt := time }, true)
  | none => (f, false)

def latest (f : Feeds) (feed : Address) : Checked Reading :=
  orRefuse (.invalidPrice feed .noReading) (f.get? feed)

theorem get?_set_self (f : Feeds) (feed : Address) (r : Reading) :
    (f.set feed r).get? feed = some r := by
  simp [get?, set]

theorem get?_set_of_ne (f : Feeds) {feed other : Address} (r : Reading) (h : other ≠ feed) :
    (f.set feed r).get? other = f.get? other := by
  have hb : (other == feed) = false := by simpa using h
  simp only [get?, set, List.lookup_cons, hb]
  induction f.readings with
  | nil => rfl
  | cons e es ih =>
    obtain ⟨k, v⟩ := e
    by_cases hk : k = feed
    · have hok : (other == k) = false := by simpa [hk] using h
      rw [List.filter_cons_of_neg (by simpa using hk), ih, List.lookup_cons, hok]
    · rw [List.filter_cons_of_pos (by simpa using hk), List.lookup_cons, List.lookup_cons, ih]

end Feeds

/-- The price that a reading amounts to at the moment `now`. -/
def Reading.price (r : Reading) (feed : Address) (now maxStaleness : UInt64) : Checked Decimal :=
  let age := Cooldown.since r.updatedAt now
  if maxStaleness < age then .error (.oracleStale feed age maxStaleness)
  else orRefuse (.invalidPrice feed (.notPositive r.answer r.decimals))
    (Decimal.ofAnswer? r.answer r.decimals)

/-- The prices of the two tokens, in a common unit. -/
structure Prices where
  collateral : Decimal
  borrow : Decimal
deriving DecidableEq

/-- Both prices at the moment `now`, the collateral's read first. -/
def Feeds.prices (f : Feeds) (a : Assets) (now : UInt64) : Checked Prices := do
  let collateral ← (← f.latest a.collateralFeed).price a.collateralFeed now a.maxStaleness
  let borrow ← (← f.latest a.borrowFeed).price a.borrowFeed now a.maxStaleness
  return ⟨collateral, borrow⟩

end LeverageKeeper
