import ServiceDiscovery.Text.Printable

/-!
Text in quotation marks, as messages show names: single quotes unless only double quotes spare an
escape.
-/
namespace ServiceDiscovery.Text

def hexDigits : Nat → Nat → List Char
  | 0, _ => []
  | width + 1, n => hexDigits width (n / 16) ++ [Nat.digitChar (n % 16)]

def escape (mark c : Char) : List Char :=
  if c = mark || c = '\\' then ['\\', c]
  else if c = '\t' then ['\\', 't']
  else if c = '\n' then ['\\', 'n']
  else if c = '\r' then ['\\', 'r']
  else if c.toNat < 0x7f && 0x20 ≤ c.toNat then [c]
  else if isPrintable c then [c]
  else if c.toNat < 0x100 then ['\\', 'x'] ++ hexDigits 2 c.toNat
  else if c.toNat < 0x10000 then ['\\', 'u'] ++ hexDigits 4 c.toNat
  else ['\\', 'U'] ++ hexDigits 8 c.toNat

def mark (cs : List Char) : Char :=
  if cs.contains '\'' && !cs.contains '"' then '"' else '\''

def quoted (s : String) : String :=
  let m := mark s.toList
  .ofList (m :: (s.toList.flatMap (escape m) ++ [m]))

def quotedOr : Option String → String
  | some s => quoted s
  | none => "None"

def plainOr : Option String → String
  | some s => s
  | none => "None"

end ServiceDiscovery.Text
