import ServiceDiscovery.Number.Numeral

/-!
Dates and times in documents.
-/
namespace ServiceDiscovery.Yaml

structure TimeOfDay where
  hour : Nat
  minute : Nat
  second : Nat
  microsecond : Nat
  offset : Option Int
  deriving DecidableEq, Repr

structure Moment where
  year : Nat
  month : Nat
  day : Nat
  time : Option TimeOfDay
  deriving DecidableEq, Repr

namespace Moment

def numberOf (cs : List Char) : Nat := cs.foldl (fun n c => 10 * n + (c.toNat - '0'.toNat)) 0

def digits (least most : Nat) (cs : List Char) : Option (List Char × List Char) :=
  let run := (cs.take most).takeWhile Char.isDigit
  if run.length < least then none else some (run, cs.drop run.length)

def char (c : Char) : List Char → Option (List Char)
  | d :: rest => if d = c then some rest else none
  | [] => none

def isBlankChar (c : Char) : Bool := c = ' ' || c = '\t'

def readOffset (cs : List Char) : Option (Option Int) :=
  match cs, cs.dropWhile isBlankChar with
  | [], _ => some none
  | _, ['Z'] => some (some 0)
  | _, sign :: rest =>
    if sign ≠ '+' && sign ≠ '-' then none
    else do
      let (hour, rest) ← digits 1 2 rest
      let minutes : Nat ← (match rest with
        | [] => some 0
        | ':' :: rest => match digits 2 2 rest with
          | some (m, []) => some (numberOf m)
          | _ => none
        | _ => none)
      let offset : Int := (60 * numberOf hour + minutes : Nat)
      some (some (if sign = '-' then -offset else offset))
  | _, [] => none

def readFraction : List Char → List Char × List Char
  | '.' :: rest => (rest.takeWhile Char.isDigit, rest.dropWhile Char.isDigit)
  | cs => ([], cs)

def millionths (ds : List Char) : Nat :=
  let six := ds.take 6
  numberOf six * Nat.pow 10 (6 - six.length)

def readTime (cs : List Char) : Option TimeOfDay := do
  let (hour, cs) ← digits 1 2 cs
  let cs ← char ':' cs
  let (minute, cs) ← digits 2 2 cs
  let cs ← char ':' cs
  let (second, cs) ← digits 2 2 cs
  let (fraction, cs) := readFraction cs
  let offset ← readOffset cs
  some ⟨numberOf hour, numberOf minute, numberOf second, millionths fraction, offset⟩

def afterDate : List Char → Option (List Char)
  | c :: rest =>
    if c = 'T' || c = 't' then some rest
    else if isBlankChar c then some ((c :: rest).dropWhile isBlankChar)
    else none
  | [] => none

def read? (cs : List Char) : Option Moment := do
  let (year, cs) ← digits 4 4 cs
  let cs ← char '-' cs
  let (month, cs) ← digits 1 2 cs
  let cs ← char '-' cs
  let (day, cs) ← digits 1 2 cs
  let date (time : Option TimeOfDay) : Moment := ⟨numberOf year, numberOf month, numberOf day, time⟩
  if cs.isEmpty then some (date none)
  else do
    let cs ← afterDate cs
    let time ← readTime cs
    some (date (some time))

/-- A date alone counts as one without a tag only if month and day have two digits. -/
def isImplicit (cs : List Char) : Bool :=
  match read? cs with
  | some m => m.time.isSome || cs.length = 10
  | none => false

def isLeap (year : Nat) : Bool := year % 4 = 0 && (year % 100 ≠ 0 || year % 400 = 0)

def monthLength (year month : Nat) : Nat :=
  if month = 2 then if isLeap year then 29 else 28
  else if month = 4 || month = 6 || month = 9 || month = 11 then 30
  else 31

def flaw? (m : Moment) : Option String :=
  if m.year = 0 then some "year 0 is out of range"
  else if m.month = 0 || 12 < m.month then some "month must be in 1..12"
  else if m.day = 0 || monthLength m.year m.month < m.day then some "day is out of range for month"
  else match m.time with
    | none => none
    | some t =>
      if 23 < t.hour then some "hour must be in 0..23"
      else if 59 < t.minute then some "minute must be in 0..59"
      else if 59 < t.second then some "second must be in 0..59"
      else none

def padded (width n : Nat) : String :=
  let ds := toString n
  .ofList (List.replicate (width - ds.length) '0') ++ ds

def offsetText (offset : Int) : String :=
  let n := offset.natAbs
  (if offset < 0 then "-" else "+") ++ padded 2 (n / 60) ++ ":" ++ padded 2 (n % 60)

def plain (m : Moment) : String :=
  let date := padded 4 m.year ++ "-" ++ padded 2 m.month ++ "-" ++ padded 2 m.day
  match m.time with
  | none => date
  | some t =>
    let fraction := if t.microsecond = 0 then "" else "." ++ padded 6 t.microsecond
    date ++ " " ++ padded 2 t.hour ++ ":" ++ padded 2 t.minute ++ ":" ++
      padded 2 t.second ++ fraction
      ++ (t.offset.map offsetText).getD ""

def shownOffset (offset : Int) : String :=
  if offset = 0 then "datetime.timezone.utc"
  else
    let days := offset.fdiv 1440
    let seconds := (offset - 1440 * days) * 60
    let parts := (if days = 0 then [] else [s!"days={days}"]) ++ if seconds = 0 then []
    else [s!"seconds={seconds}"]
    "datetime.timezone(datetime.timedelta(" ++ ", ".intercalate parts ++ "))"

def shown (m : Moment) : String :=
  match m.time with
  | none => s!"datetime.date({m.year}, {m.month}, {m.day})"
  | some t =>
    let last :=
      if t.microsecond ≠ 0 then [t.second, t.microsecond]
      else if t.second ≠ 0 then [t.second]
      else []
    let numbers := [m.year, m.month, m.day, t.hour, t.minute] ++ last
    let zone := match t.offset with
      | some o => ["tzinfo=" ++ shownOffset o]
      | none => []
    "datetime.datetime(" ++ ", ".intercalate (numbers.map toString ++ zone) ++ ")"

end Moment
end ServiceDiscovery.Yaml
