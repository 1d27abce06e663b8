import ServiceDiscovery.Files
import ServiceDiscovery.Settings.Load
import ServiceDiscovery.Yaml.ReadError

/-!
Settings and certificates from files. How the documents in them are read is up to the package that
does it.
-/
namespace ServiceDiscovery.Settings
open ServiceDiscovery.Text (Octets)

inductive SourceError
  | unreadable (e : SystemError)
  | unparseable (e : Yaml.ReadError)
  | invalid (e : LoadError)
  deriving DecidableEq, Repr

def SourceError.message : SourceError → String
  | unreadable e => e.message
  | unparseable e => e.message
  | invalid e => e.message

/-- The errors that the command answers for: those of the system, and values that do not fit. Any
other one ends it. -/
def SourceError.isContained : SourceError → Bool
  | unreadable _ => true
  | unparseable e =>
    match e with
    | .undecodable _ => true
    | .notNumeral .. => true
    | .notFloat _ => true
    | .badMoment _ => true
    | .malformed => false
    | .emptyNumber => false
    | .notTruth _ => false
    | .notMoment => false
  | invalid e =>
    match e with
    | .notMapping => true
    | .invalid .. => true
    | .keyNotText => false

/-- What a package for documents makes of the bytes of a file. -/
abbrev Parser := Octets → Except Yaml.ReadError Value

def ofBytes (parse : Parser) (bytes : Octets) (overrides : List (Value × Value)) (path : String) :
    Except SourceError Config :=
  match parse bytes with
  | .error e => .error (.unparseable e)
  | .ok document => (load document overrides path).mapError .invalid

def loadWith (parse : Parser) (files : Files) (path : String) (overrides : List (Value × Value)) :
    Except SourceError Config :=
  if path = "" then (load .null overrides "").mapError .invalid
  else match files.read (files.absolute path) with
    | .error e => .error (.unreadable e)
    | .ok bytes => ofBytes parse bytes overrides path

def isSpaceByte (b : UInt8) : Bool := (9 ≤ b && b ≤ 13) || b = 32

/-- The certificate in a file, without white space around it; empty if no file is named. -/
def readCertificate (files : Files) (path : String) : Except SystemError Octets :=
  if path = "" then .ok []
  else (files.read (files.expandHome path)).map fun bytes =>
    Text.dropEndWhile isSpaceByte (bytes.dropWhile isSpaceByte)

end ServiceDiscovery.Settings
