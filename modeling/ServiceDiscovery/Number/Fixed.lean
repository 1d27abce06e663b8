import ServiceDiscovery.Number.Shortest

/-!
Decimal text of a binary number with a given count of digits: after the point, or in all.
-/
namespace ServiceDiscovery.Number

/-- The whole number nearest to a quotient; a half goes to the even neighbour. -/
def roundDiv (n d : Nat) : Nat :=
  let below := n / d
  let rest := n % d
  if 2 * rest < d || (2 * rest = d && below % 2 = 0) then below else below + 1

inductive Double
  | finite (negative : Bool) (numerator denominator : Nat)
  | infinite (negative : Bool)
  | undefined
  deriving DecidableEq, Repr

def Double.of (x : Float) : Double :=
  let bits := x.toBits.toNat
  let negative := bits / Nat.pow 2 63 = 1
  let body := bits % Nat.pow 2 63
  if body / Nat.pow 2 52 = 2047 then if body % Nat.pow 2 52 = 0 then .infinite negative
  else .undefined
  else
    let b := Binary.ofBits body
    .finite negative (b.mantissa * Nat.pow 2 b.exponent.toNat) (Nat.pow 2 (-b.exponent).toNat)

def Double.ofInt? (n : Int) : Option Double :=
  if Nat.pow 2 1024 - Nat.pow 2 970 ≤ n.natAbs then none
  else
    let unit := Nat.pow 2 ((Nat.log2 n.natAbs + 1) - 53)
    some (.finite (n < 0) (roundDiv n.natAbs unit * unit) 1)

def millionths? (x : Float) : Option Int :=
  match Double.of x with
  | .finite negative n d =>
    let m := roundDiv (n * Nat.pow 10 6) d
    some (if negative then -(m : Int) else m)
  | _ => none

def digitsOf (width n : Nat) : List Char :=
  let ds := Nat.toDigits 10 n
  List.replicate (width - ds.length) '0' ++ ds

def withPoint (always : Bool) (places : Nat) (ds : List Char) : List Char :=
  let whole := ds.take (ds.length - places)
  if places = 0 then if always then whole ++ ['.'] else whole
  else whole ++ '.' :: ds.drop (ds.length - places)

def fixedText (always : Bool) (places n d : Nat) : List Char :=
  withPoint always places (digitsOf (places + 1) (roundDiv (n * Nat.pow 10 places) d))

def magnitude (n d : Nat) : Int :=
  if n = 0 then 0
  else
    let guess : Int := (Nat.toDigits 10 n).length - (Nat.toDigits 10 d).length
    if n * Nat.pow 10 (-guess).toNat < d * Nat.pow 10 guess.toNat then guess - 1 else guess

def leading (count n d : Nat) : List Char × Int :=
  let e := magnitude n d
  let shift : Int := count - 1 - e
  let m := roundDiv (n * Nat.pow 10 shift.toNat) (d * Nat.pow 10 (-shift).toNat)
  if m = Nat.pow 10 count then (digitsOf count (Nat.pow 10 (count - 1)), e + 1)
  else (digitsOf count m, e)

def scientificText (always : Bool) (places n d : Nat) : List Char :=
  let (ds, e) := leading (places + 1) n d
  withPoint always places ds ++ (exponentText e).toList

def trimZeros (cs : List Char) : List Char :=
  if cs.contains '.' then
    match (cs.reverse.dropWhile (· == '0')) with
    | '.' :: rest => rest.reverse
    | rest => rest.reverse
  else cs

/-- A quotient with `count` digits in all: by position if its magnitude is from -4 up to below
`count`, else with an exponent; zeros at the end go unless `always`. -/
def generalText (always : Bool) (count n d : Nat) : List Char :=
  let count := max count 1
  let (ds, e) := leading count n d
  let trimmed (cs : List Char) := if always then cs else trimZeros cs
  if -4 ≤ e && e < count then trimmed (fixedText always (count - 1 - e).toNat n d)
  else trimmed (withPoint always (count - 1) ds) ++ (exponentText e).toList

end ServiceDiscovery.Number
