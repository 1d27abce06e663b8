import ServiceDiscovery.Text.Blank

/-!
Decimal numerals: digits of any script, a sign, and single low lines between digits.
-/
namespace ServiceDiscovery.Number
open ServiceDiscovery.Text

/-- The zeros of the decimal scripts of Unicode 14; the other nine digits follow each of them. -/
def scriptZeros : List Nat :=
  [
    0x30, 0x660, 0x6f0, 0x7c0, 0x966, 0x9e6, 0xa66, 0xae6, 0xb66, 0xbe6, 0xc66, 0xce6, 0xd66, 0xde6,
    0xe50, 0xed0, 0xf20, 0x1040, 0x1090, 0x17e0, 0x1810, 0x1946, 0x19d0, 0x1a80, 0x1a90, 0x1b50,
    0x1bb0, 0x1c40, 0x1c50, 0xa620, 0xa8d0, 0xa900, 0xa9d0, 0xa9f0, 0xaa50, 0xabf0, 0xff10, 0x104a0,
    0x10d30, 0x11066, 0x110f0, 0x11136, 0x111d0, 0x112f0, 0x11450, 0x114d0, 0x11650, 0x116c0,
    0x11730, 0x118e0, 0x11950, 0x11c50, 0x11d50, 0x11da0, 0x16a60, 0x16ac0, 0x16b50, 0x1d7ce,
    0x1d7d8, 0x1d7e2, 0x1d7ec, 0x1d7f6, 0x1e140, 0x1e2f0, 0x1e950, 0x1fbf0]

def anyDigit? (c : Char) : Option Nat :=
  (scriptZeros.find? fun z => z ≤ c.toNat && c.toNat ≤ z + 9).map (c.toNat - ·)

def digit? (c : Char) : Option Nat :=
  if c.isDigit then some (c.toNat - '0'.toNat) else none

/-- Digits with at most one low line between neighbours; `after` says that a digit was just read. -/
def readDigits (digit : Char → Option Nat) (after : Bool) : List Char → Option (List Nat)
  | [] => if after then some [] else none
  | c :: cs =>
    if c = '_' then if after then readDigits digit false cs else none
    else match digit c with
      | some d => (readDigits digit true cs).map (d :: ·)
      | none => none

def ofDigits (ds : List Nat) : Nat := ds.foldl (fun n d => 10 * n + d) 0

def splitSign : List Char → Bool × List Char
  | '-' :: cs => (true, cs)
  | '+' :: cs => (false, cs)
  | cs => (false, cs)

def digitLimit : Nat := 4300

def readInt (digit : Char → Option Nat) (cs : List Char) : Option Int :=
  let (negative, body) := splitSign cs
  match readDigits digit false body with
  | some ds =>
    if ds.length > digitLimit then none
    else some (if negative then -(ofDigits ds : Int) else ofDigits ds)
  | none => none

def argument? (s : String) : Option Int := readInt anyDigit? (trimChars s.toList)

def dropFraction (cs : List Char) : List Char :=
  if ((cs.dropWhile (· != '.')).drop 1).all (· == '0') then cs.takeWhile (· != '.') else cs

inductive NumeralFlaw
  | notNumeral
  | tooLong
  deriving DecidableEq, Repr

def setting (s : String) : Except NumeralFlaw Int :=
  let body := trimWhite s.toList
  if digitLimit < body.length then .error .tooLong
  else match readInt digit? (dropFraction body) with
    | some n => .ok n
    | none => .error .notNumeral

end ServiceDiscovery.Number
