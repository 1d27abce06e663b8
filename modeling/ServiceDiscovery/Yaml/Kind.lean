import ServiceDiscovery.Yaml.Moment

/-!
Kinds of nodes, as tags name them, and the kind of a plain scalar without a tag.
-/
namespace ServiceDiscovery.Yaml

inductive Kind
  | null | bool | int | float | moment | text | merge | value | list | map | binary | set | omap
  | pairs
  | foreign (tag : String)
  deriving DecidableEq, Repr

namespace Kind

def standardTag : String := "tag:yaml.org,2002:"

def standard : List (String × Kind) :=
  [("null", null), ("bool", bool), ("int", int), ("float", float), ("timestamp", moment),
   ("str", text), ("seq", list), ("map", map), ("binary", binary), ("set", set), ("omap", omap),
   ("pairs", pairs)]

def ofTag (tag : String) : Kind :=
  match standard.find? fun p => standardTag ++ p.1 == tag with
  | some (_, k) => k
  | none => foreign tag

/-! ### Numbers -/

def dropSign : List Char → List Char
  | '-' :: cs => cs
  | '+' :: cs => cs
  | cs => cs

def isDigits (cs : List Char) : Bool := cs.all Char.isDigit

/-- Groups of a colon and a number below sixty; what is left, if there is a group at all. -/
def sixties : List Char → Option (List Char)
  | ':' :: a :: b :: rest =>
    if '0' ≤ a && a ≤ '5' && b.isDigit then some ((sixties rest).getD rest)
    else if a.isDigit then some ((sixties (b :: rest)).getD (b :: rest))
    else none
  | [':', a] => if a.isDigit then some [] else none
  | _ => none

def isOrUnderscore (p : Char → Bool) (c : Char) : Bool := p c || c = '_'

def isRun (p : Char → Bool) (cs : List Char) : Bool := !cs.isEmpty && cs.all (isOrUnderscore p)

def startsDecimal (cs : List Char) : Bool := cs.head?.any fun c => '1' ≤ c && c ≤ '9'

def isInt (cs : List Char) : Bool :=
  match dropSign cs with
  | ['0'] => true
  | '0' :: 'b' :: rest => isRun (fun c => c = '0' || c = '1') rest
  | '0' :: 'x' :: rest =>
    isRun (fun c => c.isDigit || ('a' ≤ c && c ≤ 'f') || ('A' ≤ c && c ≤ 'F')) rest
  | '0' :: rest => isRun (fun c => '0' ≤ c && c ≤ '7') rest
  | body =>
    startsDecimal body &&
      (body.all (isOrUnderscore Char.isDigit)
        || sixties (body.dropWhile (isOrUnderscore Char.isDigit)) == some [])

def isExponent : List Char → Bool
  | [] => true
  | e :: sign :: digits =>
    (e = 'e' || e = 'E') && (sign = '-' || sign = '+') && !digits.isEmpty && isDigits digits
  | _ => false

def isFraction : List Char → Bool
  | '.' :: rest => isExponent (rest.dropWhile (isOrUnderscore Char.isDigit))
  | _ => false

def isSexagesimalFloat (cs : List Char) : Bool :=
  match sixties (cs.dropWhile (isOrUnderscore Char.isDigit)) with
  | some ('.' :: rest) => rest.all (isOrUnderscore Char.isDigit)
  | _ => false

def isFloat (cs : List Char) : Bool :=
  let body := dropSign cs
  if body = ".inf".toList || body = ".Inf".toList || body = ".INF".toList then true
  else if cs = ".nan".toList || cs = ".NaN".toList || cs = ".NAN".toList then true
  else if body.head?.any Char.isDigit then
    isFraction (body.dropWhile (isOrUnderscore Char.isDigit)) || isSexagesimalFloat body
  else match cs with
    | '.' :: d :: _ => d.isDigit && isFraction cs
    | _ => false

def trueWords : List String := ["yes", "Yes", "YES", "true", "True", "TRUE", "on", "On", "ON"]
def falseWords : List String := ["no", "No", "NO", "false", "False", "FALSE", "off", "Off", "OFF"]
def nullWords : List String := ["", "~", "null", "Null", "NULL"]

def ofPlain (s : String) : Kind :=
  if trueWords.contains s || falseWords.contains s then bool
  else if isFloat s.toList then float
  else if isInt s.toList then int
  else if s = "<<" then merge
  else if nullWords.contains s then null
  else if Moment.isImplicit s.toList then moment
  else if s = "=" then value
  else text

end Kind
end ServiceDiscovery.Yaml
