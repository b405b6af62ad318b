import SqlLens.Decimal.Double

/-!
The fewest digits that read back.

The decimal fractions that are nearer to a double than to its neighbours form an interval around it. Among those of the
coarsest grid of powers of ten that has any in the interval, the one nearest to the double is taken.
-/

namespace SqlLens.Double

/-- A grid of multiples of a power of ten beside a double. Four times the mantissa, in units of `inner`, is compared
with multiples of `outer`, so that the ends of the interval are whole numbers too. -/
structure Grid where
  power : Int
  inner : Nat
  outer : Nat

variable (value : Double)

def grid (power : Int) : Grid :=
  let quarter := value.exponent - 2
  ⟨power, Double.power quarter.toNat * Nat.pow 10 (-power).toNat,
    Double.power (-quarter).toNat * Nat.pow 10 power.toNat⟩

/-- The ends of the interval of a double, in quarters of its unit. Below a power of two the neighbour is twice as near.
-/
def ends : Nat × Nat :=
  let middle := 4 * value.mantissa
  let isEdge := value.mantissa = power 52 && leastExponent < value.exponent
  (if isEdge then middle - 1 else middle - 2, middle + 2)

/-- Whether a multiple lies in the interval; its ends belong to it if the mantissa is even. -/
def isNear (grid : Grid) (multiple : Nat) : Bool :=
  let (low, high) := value.ends
  let place := multiple * grid.outer
  if value.mantissa % 2 = 0 then low * grid.inner ≤ place && place ≤ high * grid.inner
  else low * grid.inner < place && place < high * grid.inner

def onGrid? (power : Int) : Option (Nat × Int) :=
  let grid := value.grid power
  let exact := 4 * value.mantissa * grid.inner
  let below := exact / grid.outer
  let nearest := Double.nearest exact grid.outer
  let other := if nearest = below then below + 1 else below
  if value.isNear grid nearest then some (nearest, power)
  else if value.isNear grid other then some (other, power)
  else none

def powers : List Int := (List.range 650).map fun n : Nat => 310 - (n : Int)

/-- The fewest digits that read back as a double, and the power of ten they are multiplied with. -/
def shortest : Nat × Int :=
  if value.mantissa = 0 then (0, 0) else (powers.findSome? value.onGrid?).getD (0, 0)

end SqlLens.Double
