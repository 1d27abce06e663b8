import ServiceDiscovery.Number.Numeral
import ServiceDiscovery.Text.Quoted

/-!
Internet addresses: reading both versions, their usual text, loopback addresses, and the choice of
the addresses that a host announces.
-/
namespace ServiceDiscovery.Multicast
open ServiceDiscovery.Text

inductive Address
  | v4 (value : Nat)
  | v6 (value : Nat) (scope : Option String)
  deriving DecidableEq, Repr

namespace Address

/-- One of the four numbers of an address of version 4: no more than three digits, no zero in
front. -/
def octet? (cs : List Char) : Option Nat :=
  if cs.isEmpty || !cs.all Char.isDigit || 3 < cs.length ||
    (cs.head? == some '0' && 1 < cs.length) then none
  else
    let n := Number.ofDigits (cs.filterMap Number.digit?)
    if n ≤ 255 then some n else none

def readV4? (cs : List Char) : Option Nat :=
  match (parts '.' cs).mapM octet? with
  | some [a, b, c, d] => some (((a * 256 + b) * 256 + c) * 256 + d)
  | _ => none

def hexDigit? (c : Char) : Option Nat :=
  if c.isDigit then some (c.toNat - '0'.toNat)
  else if 'a' ≤ c && c ≤ 'f' then some (c.toNat - 'a'.toNat + 10)
  else if 'A' ≤ c && c ≤ 'F' then some (c.toNat - 'A'.toNat + 10)
  else none

def group? (cs : List Char) : Option Nat :=
  if cs.isEmpty || 4 < cs.length then none
  else (cs.mapM hexDigit?).map fun ds => ds.foldl (fun n d => 16 * n + d) 0

def groupDigits (n : Nat) : List Char := Nat.toDigits 16 n

def expandLast (ps : List (List Char)) : Option (List (List Char)) :=
  match ps.getLast? with
  | some last =>
    if last.contains '.' then
      (readV4? last).map fun n => ps.dropLast ++ [groupDigits (n / 65536), groupDigits (n % 65536)]
    else some ps
  | none => none

def splitGap : List (List Char) → Option (List (List Char) × List (List Char))
  | [] => none
  | [_] => none
  | p :: ps =>
    if p.isEmpty then some ([], ps) else (splitGap ps).map fun r => (p :: r.1, r.2)

/-- The groups of an address: with a gap, which stands for one or more zero groups, or eight
without. -/
def groups? (ps : List (List Char)) : Option (List Nat) :=
  match ps with
  | [] => none
  | first :: others =>
    match splitGap others with
    | some (between, after) =>
      let before := first :: between
      let before := if first.isEmpty then between else before
      let later := if after.getLast? == some [] then after.dropLast else after
      if first.isEmpty && !between.isEmpty then none
      else if after.getLast? == some [] && !later.isEmpty then none
      else if later.dropLast.any List.isEmpty || 8 ≤ before.length + later.length then none
      else match before.mapM group?, later.mapM group? with
        | some b, some l => some (b ++ List.replicate (8 - b.length - l.length) 0 ++ l)
        | _, _ => none
    | none => if ps.length = 8 then ps.mapM group? else none

def readV6? (cs : List Char) : Option Nat := do
  let ps := parts ':' cs
  if ps.length < 3 then none
  else
    let ps ← expandLast ps
    if 9 < ps.length then none
    else
      let gs ← groups? ps
      some (gs.foldl (fun n g => 65536 * n + g) 0)

def splitScope (cs : List Char) : Option (List Char × Option String) :=
  if cs.contains '%' then
    let scope := (cs.dropWhile (· != '%')).drop 1
    if scope.isEmpty || scope.contains '%' then none
    else some (cs.takeWhile (· != '%'), some (.ofList scope))
  else some (cs, none)

def read? (s : String) : Option Address :=
  if s.toList.contains '/' then none
  else match readV4? s.toList with
    | some n => some (.v4 n)
    | none => do
      let (body, scope) ← splitScope s.toList
      let n ← readV6? body
      some (.v6 n scope)

def isLoopback : Address → Bool
  | v4 n => n >>> 24 == 127
  | v6 n _ => n == 1

def zeroRun (place : Nat) : List Nat → Nat × Nat
  | [] => (0, 0)
  | g :: gs =>
    let here := ((g :: gs).takeWhile (· == 0)).length
    let later := zeroRun (place + 1) gs
    if later.2 ≤ here then (place, here) else later

def groupsOf (n : Nat) : List Nat := (List.range 8).map fun i => n >>> (16 * (7 - i)) % 65536

def groupText (gs : List Nat) : String := ":".intercalate (gs.map fun g => .ofList (groupDigits g))

/-- The usual text: decimal numbers, or groups with the first longest run of two or more zeros left
out. -/
def text : Address → String
  | v4 n => s!"{n >>> 24}.{n >>> 16 % 256}.{n >>> 8 % 256}.{n % 256}"
  | v6 n scope =>
    let gs := groupsOf n
    let (start, length) := zeroRun 0 gs
    let body :=
      if length < 2 then groupText gs
      else groupText (gs.take start) ++ "::" ++ groupText (gs.drop (start + length))
    match scope with
    | some s => body ++ "%" ++ s
    | none => body

end Address

def fallbackAddress : String := "127.0.0.1"

def announceable (found : List String) : List String → List String
  | [] => found
  | a :: rest =>
    match Address.read? a with
    | some address =>
      if address.isLoopback || found.contains a then announceable found rest
      else announceable (found ++ [a]) rest
    | none => announceable found rest

/-- The addresses to announce: the configured ones, else those of the host as far as they were
found. -/
def localAddresses (configured : List String) (host : Option (List String)) : List String :=
  if configured.isEmpty then
    let found := announceable [] (host.getD [])
    if found.isEmpty then [fallbackAddress] else found
  else configured

end ServiceDiscovery.Multicast
