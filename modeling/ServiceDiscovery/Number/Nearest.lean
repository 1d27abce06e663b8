/-!
Rounding to doubles, the numbers with 53 binary places of which none is lower than the 1074th after
the point. Nothing is said about those that are too large to be doubles.
-/
namespace ServiceDiscovery.Number

def roundEven (q : Rat) : Int :=
  let below := q.floor
  if q - below < 1 / 2 then below
  else if 1 / 2 < q - below then below + 1
  else below + below % 2

def binade (q : Rat) : Int :=
  let guess : Int := q.num.natAbs.log2 - q.den.log2
  if 2 ^ guess ≤ q.abs then guess else guess - 1

def lastPlace (q : Rat) : Int := max (binade q - 52) (-1074)

/-- The double nearest to `q`, and the even one of two that are. -/
def nearest (q : Rat) : Rat := roundEven (q / 2 ^ lastPlace q) * 2 ^ lastPlace q

end ServiceDiscovery.Number
