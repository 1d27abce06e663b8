/-!
Shortest decimal text of a binary number: the fewest digits that lie in the interval of reals
rounding to it, the nearest of those, an exact tie going to the even digit; then the decimal point
is placed.
-/
namespace ServiceDiscovery.Number

/-- A positive number `mantissa * 2 ^ exponent` as a double stores it; `atEdge` says that the gap
below it is half the gap above. -/
structure Binary where
  mantissa : Nat
  exponent : Int
  atEdge : Bool
  deriving DecidableEq, Repr

def Binary.ofBits (bits : Nat) : Binary :=
  let fraction : Nat := bits % Nat.pow 2 52
  let field : Nat := bits / Nat.pow 2 52 % 2048
  if field = 0 then ⟨fraction, -1074, false⟩
  else ⟨Nat.pow 2 52 + fraction, (field : Int) - 1075, fraction = 0 && 1 < field⟩

structure Span where
  value : Nat
  low : Nat
  high : Nat
  denominator : Nat
  closed : Bool

def Binary.span (b : Binary) : Span :=
  let scale := Nat.pow 2 b.exponent.toNat
  ⟨4 * b.mantissa * scale, (4 * b.mantissa - if b.atEdge then 1 else 2) * scale,
    (4 * b.mantissa + 2) * scale, 4 * Nat.pow 2 (-b.exponent).toNat, b.mantissa % 2 = 0⟩

def Span.inUnits (s : Span) (e : Int) : Span :=
  let up := Nat.pow 10 (-e).toNat
  { s with value := s.value * up, low := s.low * up, high := s.high * up,
           denominator := s.denominator * Nat.pow 10 e.toNat }

def Span.holds (s : Span) (n : Nat) : Bool :=
  let m := n * s.denominator
  if s.closed then s.low ≤ m && m ≤ s.high else s.low < m && m < s.high

def Span.neighbour? (s : Span) : Option Nat :=
  let below := s.value / s.denominator
  let rest := s.value % s.denominator
  let preferBelow := 2 * rest < s.denominator || (2 * rest = s.denominator && below % 2 = 0)
  match s.holds below, s.holds (below + 1) with
  | true, true => some (if preferBelow then below else below + 1)
  | true, false => some below
  | false, true => some (below + 1)
  | false, false => none

def Span.magnitude (s : Span) : Nat → Int → Int
  | 0, e => e
  | fuel + 1, e =>
    let t := s.inUnits e
    if t.value < t.denominator then s.magnitude fuel (e - 1)
    else if 10 * t.denominator ≤ t.value then s.magnitude fuel (e + 1)
    else e

def Span.search (s : Span) (magnitude : Int) : Nat → Nat → Nat × Int
  | 0, _ => (0, 0)
  | fuel + 1, count =>
    let e := magnitude + 1 - count
    match (s.inUnits e).neighbour? with
    | some n => (n, e)
    | none => s.search magnitude fuel (count + 1)

def Binary.shortest (b : Binary) : Nat × Int :=
  let s := b.span
  let guess : Int := ((b.mantissa.log2 : Int) + b.exponent) * 30103 / 100000
  s.search (s.magnitude 8 guess) 18 1

def dropZeros : Nat → Nat → Int → Nat × Int
  | 0, n, e => (n, e)
  | fuel + 1, n, e => if n % 10 = 0 && n != 0 then dropZeros fuel (n / 10) (e + 1) else (n, e)

/-- How numbers are written: below `10 ^ scientificFrom` and not below `10 ^ -scientificBelow` by
position, otherwise with an exponent of at least two digits and its sign. -/
structure Layout where
  scientificFrom : Int
  scientificBelow : Int

def exponentText (e : Int) : String :=
  let digits := toString e.natAbs
  (if e < 0 then "e-" else "e+") ++ (if digits.length < 2 then "0" ++ digits else digits)

def Layout.place (l : Layout) (digits : List Char) (e : Int) : String :=
  if e < -l.scientificBelow || l.scientificFrom ≤ e then
    match digits with
    | [] => ""
    | [d] => .ofList [d] ++ exponentText e
    | d :: ds => .ofList (d :: '.' :: ds) ++ exponentText e
  else if e < 0 then "0." ++ .ofList (List.replicate ((-e).toNat - 1) '0' ++ digits)
  else
    let whole := e.toNat + 1
    if digits.length ≤ whole then
      .ofList (digits ++ List.replicate (whole - digits.length) '0') ++ ".0"
    else .ofList (digits.take whole ++ '.' :: digits.drop whole)

def standard : Layout := ⟨16, 4⟩

def floatText (x : Float) : String :=
  let bits := x.toBits.toNat
  let sign := if bits / Nat.pow 2 63 = 1 then "-" else ""
  let body := bits % Nat.pow 2 63
  if body / Nat.pow 2 52 = 2047 then if body % Nat.pow 2 52 = 0 then sign ++ "inf" else "nan"
  else if body = 0 then sign ++ "0.0"
  else
    let (n, e) := (Binary.ofBits body).shortest
    let (n, e) := dropZeros 20 n e
    let digits := Nat.toDigits 10 n
    sign ++ standard.place digits (e + digits.length - 1)

def floatInt? (x : Float) : Option Int :=
  let bits := x.toBits.toNat
  let body := bits % Nat.pow 2 63
  if body / Nat.pow 2 52 = 2047 then none
  else
    let b := Binary.ofBits body
    let scale := Nat.pow 2 (-b.exponent).toNat
    if b.mantissa % scale = 0 then
      let n : Int := (b.mantissa / scale * Nat.pow 2 b.exponent.toNat : Nat)
      some (if bits / Nat.pow 2 63 = 1 then -n else n)
    else none

def floatFloor? (x : Float) : Option Int :=
  let bits := x.toBits.toNat
  let body := bits % Nat.pow 2 63
  if body / Nat.pow 2 52 = 2047 then none
  else
    let b := Binary.ofBits body
    let n : Int := (b.mantissa * Nat.pow 2 b.exponent.toNat : Nat)
    let signed := if bits / Nat.pow 2 63 = 1 then -n else n
    some (signed.fdiv (Nat.pow 2 (-b.exponent).toNat : Nat))

end ServiceDiscovery.Number
