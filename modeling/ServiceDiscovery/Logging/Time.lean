import ServiceDiscovery.Number.Fixed

/-!
The time of an entry: seconds since the start of 1970, written as date and time of universal time.
-/
namespace ServiceDiscovery.Logging
open ServiceDiscovery.Number

structure Date where
  year : Int
  month : Nat
  day : Nat
  deriving DecidableEq, Repr

def epochDay : Int := 719468

def eraDays : Nat := 146097

/-- The date of a day counted from the start of 1970. Years are counted from March on, so that the
leap day is their last. -/
def Date.ofDay (day : Int) : Date :=
  let n := day + epochDay
  let era := n.fdiv eraDays
  let inEra := (n - era * eraDays).toNat
  let year := (inEra - inEra / 1460 + inEra / 36524 - inEra / 146096) / 365
  let inYear := inEra - (365 * year + year / 4 - year / 100)
  let month := (5 * inYear + 2) / 153
  let first : Int := era * 400 + year
  { year := if month < 10 then first else first + 1,
    month := if month < 10 then month + 3 else month - 9,
    day := inYear - (153 * month + 2) / 5 + 1 }

def daySeconds : Nat := 86400

def timeText (second : Int) : String :=
  let day := second.fdiv daySeconds
  let inDay := (second - day * daySeconds).toNat
  let date := Date.ofDay day
  let two (n : Nat) : String := .ofList (digitsOf 2 n)
  let clock := s!"{two (inDay / 3600)}:{two (inDay / 60 % 60)}:{two (inDay % 60)}"
  s!"{date.year}-{two date.month}-{two date.day}T{clock}Z"

def secondOf (x : Float) : Int := ((millionths? x).getD 0).fdiv 1000000

end ServiceDiscovery.Logging
