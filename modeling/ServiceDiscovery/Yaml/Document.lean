import ServiceDiscovery.Number.Decimal
import ServiceDiscovery.Value
import ServiceDiscovery.Yaml.Node
import ServiceDiscovery.Yaml.ReadError

/-!
Documents as values: what each kind of node stands for, from the bytes of a file on.
-/
namespace ServiceDiscovery.Yaml
open ServiceDiscovery.Text ServiceDiscovery.Number

/-! ### Scalars -/

def digitOf? (base : Nat) (c : Char) : Option Nat :=
  let d := if c.isDigit then c.toNat - '0'.toNat
    else if c.isAlpha then c.toLower.toNat - 'a'.toNat + 10 else base
  if d < base then some d else none

def readBase (base : Nat) (cs : List Char) : Except ReadError Int :=
  match cs.mapM (digitOf? base) with
  | some (d :: ds) => .ok ((d :: ds).foldl (fun n d => base * n + d) 0 : Nat)
  | _ => .error (.notNumeral base (.ofList cs))

def readTen (cs : List Char) : Except ReadError Int :=
  match readInt anyDigit? (trimChars cs) with
  | some n => .ok n
  | none => .error (.notNumeral 10 (.ofList cs))

def readSixties (cs : List Char) : Except ReadError Int :=
  (parts ':' cs).foldl (fun total part => do return 60 * (← total) + (← readTen part)) (.ok 0)

def readMagnitude : List Char → Except ReadError Int
  | [] => .error .emptyNumber
  | ['0'] => .ok 0
  | '0' :: 'b' :: rest => readBase 2 rest
  | '0' :: 'x' :: rest => readBase 16 rest
  | '0' :: rest => readBase 8 ('0' :: rest)
  | cs => if cs.contains ':' then readSixties cs else readTen cs

def readInteger (s : String) : Except ReadError Int :=
  match s.toList.filter (· != '_') with
  | [] => .error .emptyNumber
  | cs =>
    let (negative, body) := splitSign cs
    (readMagnitude body).map fun n => if negative then -n else n

def readDecimal (cs : List Char) : Except ReadError Float :=
  match readDouble cs with
  | some x => .ok x
  | none => .error (.notFloat (.ofList cs))

def readFloatSixties (cs : List Char) : Except ReadError Float :=
  let step (total : Except ReadError (Float × Float)) (part : List Char) :
      Except ReadError (Float × Float) := do
    let (sum, base) ← total
    let x ← readDecimal part
    return (sum + x * base, base * 60)
  ((parts ':' cs).reverse.foldl step (.ok (0.0, 1.0))).map (·.1)

def readFloat (s : String) : Except ReadError Float :=
  match (lower s).toList.filter (· != '_') with
  | [] => .error .emptyNumber
  | cs =>
    let (negative, body) := splitSign cs
    let x : Except ReadError Float :=
      if body = ".inf".toList then .ok (1.0 / 0.0)
      else if body = ".nan".toList then .ok (0.0 / 0.0)
      else if body.contains ':' then readFloatSixties body
      else readDecimal body
    x.map fun x => if negative then -x else x

def readTruth (s : String) : Except ReadError Bool :=
  let word := lower s
  if ["yes", "true", "on"].contains word then .ok true
  else if ["no", "false", "off"].contains word then .ok false
  else .error (.notTruth s)

def readMoment (s : String) : Except ReadError Value :=
  match Moment.read? s.toList with
  | none => .error .notMoment
  | some m =>
    match m.flaw? with
    | some why => .error (.badMoment why)
    | none => .ok (.stamp m.plain m.shown)

def readScalar (kind : Kind) (s : String) : Except ReadError Value :=
  match kind with
  | .null => .ok .null
  | .bool => (readTruth s).map Value.bool
  | .int => (readInteger s).map Value.int
  | .float => (readFloat s).map Value.float
  | .moment => readMoment s
  | .text => .ok (.text s)
  | .binary => .ok (.stamp s (quoted s))
  | _ => .error .malformed

/-! ### Collections -/

def isKey : Value → Bool
  | .list _ => false
  | .map _ => false
  | _ => true

/-- The pairs of a mapping with each key once, in the order of first mention and with the last
value. -/
def collect (pairs : List (Value × Value)) : List (Value × Value) :=
  pairs.foldl (fun es p => Value.put p.1 p.2 es) []

def endless : Value := .stamp "..." "..."

mutual
def Node.toValue : Node → Except ReadError Value
  | .scalar kind s => readScalar kind s
  | .list kind items =>
    if kind = .list then (valuesOf items).map Value.list
    else if kind = .omap || kind = .pairs then (valuesOf items).map Value.list
    else .error .malformed
  | .map kind entries =>
    if kind = .map || kind = .set then do
      let (merged, own) ← pairsOf entries
      return .map (collect (merged ++ own))
    else .error .malformed
  | .loop => .ok endless
def valuesOf : List Node → Except ReadError (List Value)
  | [] => .ok []
  | n :: ns => do return (← n.toValue) :: (← valuesOf ns)
def pairsOf : List (Node × Node) → Except ReadError (List (Value × Value) × List (Value × Value))
  | [] => .ok ([], [])
  | (k, v) :: rest => do
    match k with
    | .scalar .merge _ =>
      let here ← mergedOf v
      let (merged, own) ← pairsOf rest
      return (here ++ merged, own)
    | .scalar .value s =>
      let v ← v.toValue
      let (merged, own) ← pairsOf rest
      return (merged, (.text s, v) :: own)
    | _ =>
      let key ← k.toValue
      if !isKey key then .error .malformed
      let v ← v.toValue
      let (merged, own) ← pairsOf rest
      return (merged, (key, v) :: own)
def mergedOf : Node → Except ReadError (List (Value × Value))
  | .map _ entries => do
    let (merged, own) ← pairsOf entries
    return merged ++ own
  | .list _ items => do return (← mergedAll items).reverse.flatten
  | _ => .error .malformed
def mergedAll : List Node → Except ReadError (List (List (Value × Value)))
  | [] => .ok []
  | n :: ns => do
    match n with
    | .map _ entries =>
      let (merged, own) ← pairsOf entries
      return (merged ++ own) :: (← mergedAll ns)
    | _ => .error .malformed
end

def normalize : List Char → List Char
  | '\r' :: '\n' :: rest => '\n' :: normalize rest
  | '\r' :: rest => '\n' :: normalize rest
  | c :: rest => c :: normalize rest
  | [] => []

def readText (cs : List Char) : Except ReadError Value :=
  match (tokens? cs).bind Node.ofTokens? with
  | none => .error .malformed
  | some none => .ok .null
  | some (some n) => n.toValue

def readBytes (bytes : Octets) : Except ReadError Value :=
  match decodeFrom 0 bytes with
  | .error e => .error (.undecodable e)
  | .ok cs => readText (normalize cs)

end ServiceDiscovery.Yaml
