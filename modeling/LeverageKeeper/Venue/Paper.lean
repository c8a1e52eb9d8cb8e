import LeverageKeeper.Venue.Basic

/-!
# Venues that trade on paper

The dry-run venue fills at the prices of the two feeds, of whatever age, less a fee.  Beside it
stand venues of fixed behaviour for rehearsals.
-/

namespace LeverageKeeper.Venue

/-- A feed's price without regard to its age. -/
def spot (name : String) (f : Feeds) (feed : Address) : Checked Decimal := do
  let r ← f.latest feed
  orRefuse (fault name (.noPrice feed)) (Decimal.ofAnswer? r.answer r.decimals)

/-- What `amountIn` buys at the given prices less the fee, in whole tokens. -/
def quote (name : String) (fee amountIn priceIn priceOut : Decimal) : Outcome Decimal := do
  let gross ← orRefuse (fault name .fillTooLarge)
    ((amountIn.mul? priceIn).bind fun value => value.div? priceOut)
  gross.times (← Decimal.one.minus fee)

/-- Fills an order at a quote, unless it falls below the minimum. -/
def fill (name : String) (fee : Decimal) (a : Assets) (priceIn priceOut : Decimal) (o : Order) :
    Outcome Nat := do
  let amountIn ← Decimal.ofUnits o.amountIn (a.decimalsIn o.direction)
  let out ← quote name fee amountIn priceIn priceOut
  let units ← out.toUnits (a.decimalsOut o.direction)
  if units < o.minOut then
    let minimum ← Decimal.ofUnits o.minOut (a.decimalsOut o.direction)
    throw (.refused (.slippageExceeded name minimum out))
  return units

/-- The venue that fills at the price of the token going in over that of the token coming out, in
this order of reading, less `feeBps` basis points. -/
def paper (name : String) (a : Assets) (feeBps : UInt32) : Venue where
  name := name
  answer f o := do
    let fee := Decimal.ofBasisPoints feeBps
    match o.direction with
    | .lever =>
      let priceIn ← spot name f a.borrowFeed
      let priceOut ← spot name f a.collateralFeed
      fill name fee a priceIn priceOut o
    | .delever =>
      let priceIn ← spot name f a.collateralFeed
      let priceOut ← spot name f a.borrowFeed
      fill name fee a priceIn priceOut o

/-! ### Rehearsals -/

/-- Pays exactly the minimum. -/
def exact (name : String) : Venue := ⟨name, fun _ o => .ok o.minOut⟩

/-- Pays one unit less than the minimum. -/
def short (name : String) : Venue := ⟨name, fun _ o => .ok (o.minOut - 1)⟩

/-- Pays the same amount whatever is asked. -/
def fixed (name : String) (out : Nat) : Venue := ⟨name, fun _ _ => .ok out⟩

/-- Fails with the given words. -/
def failing (name reason : String) : Venue :=
  ⟨name, fun _ _ => .error (.refused (fault name (.other reason)))⟩

/-- Fails with a description of the order. -/
def probe (name : String) : Venue :=
  ⟨name, fun _ o => .error (.refused (fault name (.other
    (o.direction.name ++ " in " ++ toString o.amountIn ++ " min " ++ toString o.minOut
      ++ " route " ++ Hex.marked o.route))))⟩

/-- Breaks down. -/
def broken (name : String) : Venue := ⟨name, fun _ _ => .error (.crashed (.venue "venue exploded"))⟩

end LeverageKeeper.Venue
