import ServiceDiscovery.Number.Shortest
import ServiceDiscovery.Text.Quoted

/-!
Values of configuration documents, their text in messages, and look-up in mappings.
-/
namespace ServiceDiscovery

/-- A document value; `opaque` entries such as dates carry their plain and their quoted text. -/
inductive Value
  | null
  | bool (b : Bool)
  | int (n : Int)
  | float (x : Float)
  | text (s : String)
  | list (items : List Value)
  | map (entries : List (Value × Value))
  | stamp (plain shown : String)
  deriving Inhabited

namespace Value
open ServiceDiscovery.Text ServiceDiscovery.Number

mutual
def shown : Value → String
  | null => "None"
  | bool b => if b then "True" else "False"
  | int n => toString n
  | float x => floatText x
  | text s => quoted s
  | list items => "[" ++ ", ".intercalate (shownAll items) ++ "]"
  | map entries => "\x7b" ++ ", ".intercalate (shownEntries entries) ++ "\x7d"
  | stamp _ s => s
def shownAll : List Value → List String
  | [] => []
  | v :: vs => v.shown :: shownAll vs
def shownEntries : List (Value × Value) → List String
  | [] => []
  | (k, v) :: es => (k.shown ++ ": " ++ v.shown) :: shownEntries es
end

def plain : Value → String
  | text s => s
  | stamp s _ => s
  | v => v.shown

def kindName : Value → String
  | null => "NoneType"
  | bool _ => "bool"
  | int _ => "int"
  | float _ => "float"
  | text _ => "str"
  | list _ => "list"
  | map _ => "dict"
  | stamp .. => "datetime.date"

/-- Zero, empty and missing values count as absent where a value is optional. -/
def isEmpty : Value → Bool
  | null => true
  | bool b => !b
  | int n => n == 0
  | float x => x == 0
  | text s => s == ""
  | list items => items.isEmpty
  | map entries => entries.isEmpty
  | stamp .. => false

def keyNumber? : Value → Option Int
  | bool b => some (if b then 1 else 0)
  | int n => some n
  | float x => floatInt? x
  | _ => none

/-- Keys are the same if they are equal texts, equal numbers of any kind, or both missing; what is
not a number is one key. -/
def sameKey : Value → Value → Bool
  | text s, text t => s == t
  | null, null => true
  | stamp s p, stamp t q => s == t && p == q
  | float x, float y => x == y || (x.isNaN && y.isNaN)
  | v, w => match v.keyNumber?, w.keyNumber? with
    | some m, some n => m == n
    | _, _ => false

def find? (entries : List (Value × Value)) (key : String) : Option Value :=
  (entries.find? fun e => e.1.sameKey (text key)).map (·.2)

def put (key value : Value) : List (Value × Value) → List (Value × Value)
  | [] => [(key, value)]
  | e :: es => if e.1.sameKey key then (e.1, value) :: es else e :: put key value es

def get? : Value → String → Option Value
  | map entries, key => find? entries key
  | _, _ => none

end Value
end ServiceDiscovery
