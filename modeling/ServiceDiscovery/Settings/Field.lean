import ServiceDiscovery.Number.Numeral
import ServiceDiscovery.Settings.Schema
import ServiceDiscovery.Text.Lowercase

/-!
Reading single settings: which values each kind of setting takes, and what is wrong with the others.
All problems are kept, in the order of the settings.
-/
namespace ServiceDiscovery.Settings
open ServiceDiscovery.Text ServiceDiscovery.Number

inductive Flaw
  /-- A mapping is wanted, or for some sections one that is validated already. -/
  | notMapping (kind : Option String)
  | notText
  | notList
  | notInteger
  | notNumeral
  | numeralTooLong
  | fractional
  | notFinite
  | below (bound : Int)
  | above (bound : Int)
  | notBoolean
  | notBooleanWord
  | notIpVersion
  | notTransport
  deriving DecidableEq, Repr

def Flaw.message : Flaw → String
  | notMapping none => "Input should be a valid dictionary"
  | notMapping (some kind) => s!"Input should be a valid dictionary or instance of {kind}"
  | notText => "Input should be a valid string"
  | notList => "Input should be a valid list"
  | notInteger => "Input should be a valid integer"
  | notNumeral => "Input should be a valid integer, unable to parse string as an integer"
  | numeralTooLong => "Unable to parse input string as an integer, exceeded maximum size"
  | fractional => "Input should be a valid integer, got a number with a fractional part"
  | notFinite => "Input should be a finite number"
  | below bound => s!"Input should be greater than or equal to {bound}"
  | above bound => s!"Input should be less than or equal to {bound}"
  | notBoolean => "Input should be a valid boolean"
  | notBooleanWord => "Input should be a valid boolean, unable to interpret input"
  | notIpVersion => "Value error, ip_version must be one of v4, v6, all"
  | notTransport => "Value error, protocol must be udp or tcp"

structure Problem where
  path : List String
  flaw : Flaw
  deriving DecidableEq, Repr

def Problem.line (p : Problem) : String :=
  "  - " ++ ".".intercalate p.path ++ ": " ++ p.flaw.message

abbrev Checked (α : Type) := Except (List Problem) α

namespace Checked
variable {α β : Type}

def apply (f : Checked (α → β)) (x : Checked α) : Checked β :=
  match f, x with
  | .ok f, .ok a => .ok (f a)
  | .error ps, .ok _ => .error ps
  | .ok _, .error qs => .error qs
  | .error ps, .error qs => .error (ps ++ qs)

def under (name : String) : Checked α → Checked α
  | .ok a => .ok a
  | .error ps => .error (ps.map fun p => { p with path := name :: p.path })

theorem apply_eq_ok {f : Checked (α → β)} {x : Checked α} {b : β} :
    apply f x = .ok b ↔ ∃ g a, f = .ok g ∧ x = .ok a ∧ g a = b := by
  cases f <;> cases x <;> simp [apply]

theorem under_eq_ok {name : String} {x : Checked α} {a : α} : under name x = .ok a ↔ x = .ok a := by
  cases x <;> simp [under]

end Checked

def flawed {α : Type} (f : Flaw) : Checked α := .error [⟨[], f⟩]

def field {α : Type} (entries : List (Value × Value)) (name : String) (missing : α)
    (read : Value → Checked α) : Checked α :=
  match Value.find? entries name with
  | none => .ok missing
  | some v => (read v).under name

def readText : Value → Checked String
  | .text s => .ok s
  | _ => flawed .notText

def readOptionalText : Value → Checked (Option String)
  | .null => .ok none
  | .text s => .ok (some s)
  | _ => flawed .notText

/-- Whole numbers are also read from truth values, from numbers without a fraction and from
numerals. -/
def readInt : Value → Checked Int
  | .int n => .ok n
  | .bool b => .ok (if b then 1 else 0)
  | .float x =>
    match floatFloor? x, floatInt? x with
    | none, _ => flawed .notFinite
    | some _, none => flawed .fractional
    | some _, some n =>
      if Int64.minValue.toInt < n ∧ n ≤ Int64.maxValue.toInt then .ok n else flawed .numeralTooLong
  | .text s =>
    match Number.setting s with
    | .ok n => .ok n
    | .error .notNumeral => flawed .notNumeral
    | .error .tooLong => flawed .numeralTooLong
  | _ => flawed .notInteger

def atLeast (bound : Int) (x : Checked Int) : Checked Int :=
  match x with
  | .ok n => if n < bound then flawed (.below bound) else .ok n
  | e => e

def atMost (bound : Int) (x : Checked Int) : Checked Int :=
  match x with
  | .ok n => if bound < n then flawed (.above bound) else .ok n
  | e => e

def trueWords : List String := ["1", "t", "y", "on", "yes", "true"]
def falseWords : List String := ["0", "f", "n", "no", "off", "false"]

def readBoolWord (s : String) : Checked Bool :=
  let word := s.map Char.toLower
  if trueWords.contains word then .ok true
  else if falseWords.contains word then .ok false
  else flawed .notBooleanWord

/-- Zero and one count as truth values; other numbers within 64 bits are told apart from the
rest. -/
def readBoolNumber (n : Int) : Checked Bool :=
  if n = 0 then .ok false
  else if n = 1 then .ok true
  else if Int64.minValue.toInt ≤ n ∧ n ≤ Int64.maxValue.toInt then flawed .notBooleanWord
  else flawed .notBoolean

def readBool : Value → Checked Bool
  | .bool b => .ok b
  | .int n => readBoolNumber n
  | .float x =>
    match floatInt? x with
    | some n => readBoolNumber n
    | none => flawed .notBoolean
  | .text s => readBoolWord s
  | _ => flawed .notBoolean

def readTexts (place : Nat) : List Value → Checked (List String)
  | [] => .ok []
  | v :: vs =>
    Checked.apply (Checked.apply (.ok List.cons) ((readText v).under (toString place)))
      (readTexts (place + 1) vs)

def readTextList : Value → Checked (List String)
  | .list items => readTexts 0 items
  | _ => flawed .notList

def interfaceNames (items : List Value) : List String :=
  (items.filter fun v => match v with
    | .null => false
    | _ => true).map (fun v => trim v.plain) |>.filter (· != "")

def readInterfaces : Value → Checked Interfaces
  | .null => .ok .standard
  | .text s =>
    let word := lower (trim s)
    .ok (if word = "default" then .standard else if word = "all" then .all else .addresses [word])
  | .list items => .ok (.addresses (interfaceNames items))
  | _ => .error [⟨["str"], .notText⟩, ⟨["list[str]"], .notList⟩]

def v4Words : List String := ["v4", "v4only", "ipv4", "4"]
def v6Words : List String := ["v6", "v6only", "ipv6", "6"]
def bothWords : List String := ["all", "both"]

def readIpVersion : Value → Checked (Option IpVersion)
  | .null => .ok none
  | v =>
    let word := lower (trim v.plain)
    if word = "" then .ok none
    else if v4Words.contains word then .ok (some .v4)
    else if v6Words.contains word then .ok (some .v6)
    else if bothWords.contains word then .ok (some .all)
    else flawed .notIpVersion

/-- The transport by its name; values that count as absent stand for UDP. -/
def readTransport (v : Value) : Checked Transport :=
  let word := if v.isEmpty then "udp" else lower (trim v.plain)
  if word = "udp" then .ok .udp else if word = "tcp" then .ok .tcp else flawed .notTransport

end ServiceDiscovery.Settings
