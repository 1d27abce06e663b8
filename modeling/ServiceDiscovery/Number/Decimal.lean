import ServiceDiscovery.Number.Numeral

/-!
Reading decimal numbers with a fraction and an exponent as doubles.
-/
namespace ServiceDiscovery.Number
open ServiceDiscovery.Text

def exponentLimit : Nat := 400

def ofDecimal (digits : Nat) (exponent : Int) : Float :=
  let size := (Nat.toDigits 10 digits).length
  if digits = 0 then 0.0
  else if (exponentLimit : Int) < exponent then 1.0 / 0.0
  else if exponent < -((exponentLimit + size : Nat) : Int) then 0.0
  else Float.ofScientific digits (exponent < 0) exponent.natAbs

def readUnsigned (cs : List Char) : Option Float :=
  let whole := cs.takeWhile Char.isDigit
  let rest := cs.drop whole.length
  let (fraction, rest) := match rest with
    | '.' :: r => (r.takeWhile Char.isDigit, r.dropWhile Char.isDigit)
    | r => ([], r)
  let digits := (whole ++ fraction).filterMap digit?
  let exponent : Option Int := match rest with
    | [] => some 0
    | e :: r =>
      if (e = 'e' || e = 'E') then readInt digit? r else none
  if digits.isEmpty then none
  else exponent.map fun x => ofDecimal (ofDigits digits) (x - fraction.length)

def infiniteWords : List String := ["inf", "infinity"]

/-- Reads a decimal number; words for infinity and for no number count, and so do blanks around
it. -/
def readDouble (cs : List Char) : Option Float :=
  let (negative, body) := splitSign (trimChars cs)
  let word := String.ofList (body.map Char.toLower)
  let x := if infiniteWords.contains word then some (1.0 / 0.0)
    else if word = "nan" then some (0.0 / 0.0)
    else readUnsigned body
  x.map fun x => if negative then -x else x

end ServiceDiscovery.Number
