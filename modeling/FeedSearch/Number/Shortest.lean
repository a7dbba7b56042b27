-- The fewest decimal digits that read back as a given binary number, and of
-- those the nearest. All arithmetic is exact, on natural numbers.
import FeedSearch.Number.Range

namespace FeedSearch.Number

/-! ## Binary numbers -/

/-- The number `mantissa * 2 ^ exponent`, with what its neighbours need to be known: `atEdge` says
that the number below lies only half as far away as the number above. -/
structure Binary where
  mantissa : Nat
  exponent : Int
  atEdge : Bool

/-- The magnitude of a finite number, from its 64 bits. -/
def Binary.ofBits (bits : UInt64) : Binary :=
  let field := exponentField bits
  let fraction := fractionField bits
  if field == 0 then { mantissa := fraction, exponent := -1074, atEdge := false }
  else
    { mantissa := fractionSize + fraction
      exponent := (field : Int) - 1075
      atEdge := fraction == 0 && field > 1 }

/-! ## Decimal numbers -/

/-- The number `digits * 10 ^ exponent`. -/
structure Decimal where
  digits : Nat
  exponent : Int
  deriving DecidableEq, Repr

def Decimal.length (d : Decimal) : Nat := (Nat.toDigits 10 d.digits).length

/-- Moves the zeros at the end of the digits into the exponent. -/
def Decimal.stripped (d : Decimal) : Nat → Decimal
  | 0 => d
  | fuel + 1 =>
    if d.digits != 0 && d.digits % 10 == 0 then
      Decimal.stripped { digits := d.digits / 10, exponent := d.exponent + 1 } fuel
    else d

/-! ## The search -/

/-- The numbers that read back as `b`, on a decimal grid. A multiple `c` of the grid's unit is
compared with a quarter unit `x` of the mantissa as `c * unit` with `x * quarter`. -/
structure Grid where
  unit : Nat
  quarter : Nat
  low : Nat
  value : Nat
  high : Nat
  closed : Bool

/-- The grid with the unit `10 ^ g`. -/
def Binary.grid (b : Binary) (g : Int) : Grid where
  unit := twoTo (2 - b.exponent).toNat * tenTo g.toNat
  quarter := twoTo (b.exponent - 2).toNat * tenTo (-g).toNat
  low := 4 * b.mantissa - (if b.atEdge then 1 else 2)
  value := 4 * b.mantissa
  high := 4 * b.mantissa + 2
  closed := b.mantissa % 2 == 0

/-- Whether a multiple of the unit reads back as the number. -/
def Grid.holds (g : Grid) (c : Nat) : Bool :=
  if g.closed then g.low * g.quarter ≤ c * g.unit && c * g.unit ≤ g.high * g.quarter
  else g.low * g.quarter < c * g.unit && c * g.unit < g.high * g.quarter

/-- The nearest multiple of the unit that reads back; of two equally near the even one. -/
def Grid.nearest? (g : Grid) : Option Nat :=
  let below := g.value * g.quarter / g.unit
  let above := below + 1
  match g.holds below, g.holds above with
  | false, false => none
  | true, false => some below
  | false, true => some above
  | true, true =>
    let down := g.value * g.quarter - below * g.unit
    let up := above * g.unit - g.value * g.quarter
    if down < up then some below
    else if up < down then some above
    else some (if below % 2 == 0 then below else above)

/-- The number of digits before the point, for a number of at least ten to the power of -400. -/
def Binary.magnitude (b : Binary) : Int :=
  let scaled := b.mantissa * twoTo b.exponent.toNat * tenTo 400 / twoTo (-b.exponent).toNat
  ((Nat.toDigits 10 scaled).length : Int) - 400

/-- Tries ever finer grids, from one digit on. -/
def Binary.search (b : Binary) (magnitude : Int) (digits : Nat) : Nat → Decimal
  | 0 => { digits := 0, exponent := 0 }
  | fuel + 1 =>
    let g := magnitude - digits
    match (b.grid g).nearest? with
    | some c => { digits := c, exponent := g }
    | none => Binary.search b magnitude (digits + 1) fuel

/-- The shortest decimal that reads back as `b`; seventeen digits are always enough. -/
def Binary.shortest (b : Binary) : Decimal :=
  if b.mantissa == 0 then { digits := 0, exponent := 0 }
  else (b.search b.magnitude 1 17).stripped 20

end FeedSearch.Number
