import ServiceDiscovery.Text.Lowercase
import ServiceDiscovery.Text.Quoted
import ServiceDiscovery.Text.Utf8

/-!
What can go wrong when a document is read from the bytes of a file.
-/
namespace ServiceDiscovery.Yaml
open ServiceDiscovery.Text

inductive ReadError
  | undecodable (e : Utf8Error)
  /-- The document breaks the grammar, or a node does not have the form that its kind needs. Any
  other error that is not one of values also counts as this. -/
  | malformed
  | notNumeral (base : Nat) (text : String)
  | emptyNumber
  | notFloat (text : String)
  | notTruth (text : String)
  | notMoment
  /-- A time that there is not, or anything else that is wrong with a value. -/
  | badMoment (why : String)
  deriving DecidableEq, Repr

def flawText : Utf8Flaw → String
  | .badLead => "invalid start byte"
  | .badFollower => "invalid continuation byte"
  | .cutShort => "unexpected end of data"

/-- Where the bytes of a file cannot be read as text. Bytes cut short by its end are counted from
the first of them. -/
def utf8Message (e : Utf8Error) : String :=
  let start := if e.flaw = .cutShort then 0 else e.start
  let place := match e.bytes with
    | [b] => s!"byte 0x{String.ofList (hexDigits 2 b.toNat)} in position {start}"
    | bytes => s!"bytes in position {start}-{start + bytes.length - 1}"
  s!"'utf-8' codec can't decode {place}: {flawText e.flaw}"

def ReadError.message : ReadError → String
  | undecodable e => utf8Message e
  | malformed => ""
  | notNumeral base text => s!"invalid literal for int() with base {base}: {quoted text}"
  | emptyNumber => "string index out of range"
  | notFloat text => s!"could not convert string to float: {quoted text}"
  | notTruth text => quoted (lower text)
  | notMoment => "'NoneType' object has no attribute 'groupdict'"
  | badMoment why => why

end ServiceDiscovery.Yaml
