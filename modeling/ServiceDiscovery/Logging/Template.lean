import ServiceDiscovery.Number.Fixed
import ServiceDiscovery.Value

/-!
Templates: text with places that arguments fill. A place starts with a percent sign and ends with
the letter of the way in which its argument is written; between them stand flags, a width and a
precision.
-/
namespace ServiceDiscovery.Logging
open ServiceDiscovery.Number

inductive TemplateFlaw
  | tooFew
  | tooMany
  | notMapping
  | noSuchKey (key : String)
  | countNotInteger
  | countTooBig (count : String)
  | precisionTooLarge
  | incomplete
  | incompleteKey
  | notReal (way : Char) (given : String)
  | notInteger (way : Char) (given : String)
  | notFloat (given : String)
  | notCharacter
  | noSuchCharacter
  | unsupported (way : Char) (place : Nat)
  | infinite
  | undefined
  | tooLarge
  deriving DecidableEq, Repr

def TemplateFlaw.message : TemplateFlaw → String
  | tooFew => "not enough arguments for format string"
  | tooMany => "not all arguments converted during string formatting"
  | notMapping => "format requires a mapping"
  | noSuchKey key => Text.quoted key
  | countNotInteger => "* wants int"
  | countTooBig count => s!"{count} too big"
  | precisionTooLarge => "precision too large"
  | incomplete => "incomplete format"
  | incompleteKey => "incomplete format key"
  | notReal way given => s!"%{way} format: a real number is required, not {given}"
  | notInteger way given => s!"%{way} format: an integer is required, not {given}"
  | notFloat given => s!"must be real number, not {given}"
  | notCharacter => "%c requires int or char"
  | noSuchCharacter => "%c arg not in range(0x110000)"
  | unsupported way place =>
    let shown := if 31 ≤ way.toNat && way.toNat < 127 then way else '?'
    let code := String.ofList (Nat.toDigits 16 way.toNat)
    s!"unsupported format character '{shown}' (0x{code}) at index {place}"
  | infinite => "cannot convert float infinity to integer"
  | undefined => "cannot convert float NaN to integer"
  | tooLarge => "int too large to convert to float"

structure Place where
  left : Bool := false
  signed : Bool := false
  spaced : Bool := false
  alternate : Bool := false
  zeros : Bool := false
  width : Nat := 0
  precision : Option Nat := none
  way : Char := 's'
  deriving DecidableEq, Repr

structure Supply where
  waiting : List Value
  mapping : Option (List (Value × Value)) := none

namespace Supply

def ofList : List Value → Supply
  | [.map (e :: es)] => ⟨[.map (e :: es)], some (e :: es)⟩
  | vs => ⟨vs, none⟩

def next (s : Supply) : Except TemplateFlaw (Value × Supply) :=
  match s.waiting with
  | [] => .error .tooFew
  | v :: vs => .ok (v, { s with waiting := vs })

def choose (s : Supply) (es : List (Value × Value)) (key : String) : Except TemplateFlaw Supply :=
  match Value.find? es key with
  | some v => .ok { s with waiting := [v] }
  | none => .error (.noSuchKey key)

end Supply

/-! ### Reading a place -/

def readKey : Nat → List Char → Option (List Char × List Char)
  | _, [] => none
  | depth, c :: cs =>
    if c = ')' then
      match depth with
      | 0 => some ([], cs)
      | d + 1 => (readKey d cs).map fun p => (c :: p.1, p.2)
    else (readKey (if c = '(' then depth + 1 else depth) cs).map fun p => (c :: p.1, p.2)

def readFlags (p : Place) : List Char → Place × List Char
  | '-' :: cs => readFlags { p with left := true } cs
  | '+' :: cs => readFlags { p with signed := true } cs
  | ' ' :: cs => readFlags { p with spaced := true } cs
  | '#' :: cs => readFlags { p with alternate := true } cs
  | '0' :: cs => readFlags { p with zeros := true } cs
  | cs => (p, cs)

structure CountKind where
  name : String
  greatest : Nat

def widthKind : CountKind := ⟨"width", Nat.pow 2 63 - 1⟩
def precisionKind : CountKind := ⟨"precision", Nat.pow 2 31 - 1⟩

def CountKind.check (k : CountKind) (n : Int) : Except TemplateFlaw Int :=
  if n.natAbs ≤ k.greatest then .ok n else .error (.countTooBig k.name)

def readCount (k : CountKind) (s : Supply) : List Char →
    Except TemplateFlaw (Option Int × List Char × Supply)
  | '*' :: cs => do
    let (v, s) ← s.next
    match v with
    | .int n => return (some (← k.check n), cs, s)
    | .bool b => return (some (if b then 1 else 0), cs, s)
    | _ => .error .countNotInteger
  | cs =>
    match cs.takeWhile Char.isDigit with
    | [] => .ok (none, cs, s)
    | ds => do
      let n ← k.check (ds.foldl (fun n c => 10 * n + (c.toNat - '0'.toNat)) 0 : Nat)
      return (some n, cs.drop ds.length, s)

/-- A negative width pads at the end. -/
def Place.withWidth (p : Place) : Option Int → Place
  | some n => { p with left := p.left || n < 0, width := n.natAbs }
  | none => p

def readPrecision (p : Place) (s : Supply) :
    List Char → Except TemplateFlaw (Place × List Char × Supply)
  | '.' :: cs => do
    let (n, cs, s) ← readCount precisionKind s cs
    return ({ p with precision := some (n.getD 0).toNat }, cs, s)
  | cs => .ok (p, cs, s)

def skipSize : List Char → List Char
  | c :: cs => if c = 'h' || c = 'l' || c = 'L' then cs else c :: cs
  | [] => []

def readPlace (s : Supply) (cs : List Char) : Except TemplateFlaw (Place × List Char × Supply) := do
  let (cs, s) ← match cs with
    | '(' :: rest =>
      match s.mapping, readKey 0 rest with
      | none, _ => .error .notMapping
      | some _, none => .error .incompleteKey
      | some es, some (key, rest) => (s.choose es (.ofList key)).map (rest, ·)
    | _ => .ok (cs, s)
  let (p, cs) := readFlags {} cs
  let (n, cs, s) ← readCount widthKind s cs
  let (p, cs, s) ← readPrecision (p.withWidth n) s cs
  match skipSize cs with
  | [] => .error .incomplete
  | c :: cs => return ({ p with way := c }, cs, s)

/-! ### Filling a place -/

def blanks (n : Nat) : List Char := List.replicate n ' '

def fillText (p : Place) (cs : List Char) : List Char :=
  let cs := match p.precision with
    | some n => cs.take n
    | none => cs
  let pad := blanks (p.width - cs.length)
  if p.left then cs ++ pad else pad ++ cs

def fillNumber (p : Place) (negative : Bool) (mark digits : List Char) : List Char :=
  let sign := if negative then ['-'] else if p.signed then ['+'] else if p.spaced then [' '] else []
  let count := p.width - (sign.length + mark.length + digits.length)
  if p.left then sign ++ mark ++ digits ++ blanks count
  else if p.zeros then sign ++ mark ++ List.replicate count '0' ++ digits
  else blanks count ++ sign ++ mark ++ digits

def greatestPrecision : Nat := Nat.pow 2 31 - 4

def Place.digits (p : Place) : Except TemplateFlaw Nat :=
  let n := p.precision.getD 0
  if n ≤ greatestPrecision then .ok n else .error .precisionTooLarge

def wholeOf (way : Char) : Value → Except TemplateFlaw Int
  | .int n => .ok n
  | .bool b => .ok (if b then 1 else 0)
  | .float x =>
    match Double.of x with
    | .finite negative n d => .ok (if negative then -(n / d : Nat) else (n / d : Nat))
    | .infinite _ => .error .infinite
    | .undefined => .error .undefined
  | v => .error (.notReal way v.kindName)

def fillWhole (p : Place) (v : Value) : Except TemplateFlaw (List Char) := do
  let n ← wholeOf p.way v
  return fillNumber p (n < 0) [] (digitsOf (← p.digits) n.natAbs)

def fillBase (p : Place) (base : Nat) (v : Value) : Except TemplateFlaw (List Char) := do
  let n ← match v with
    | .int n => .ok n
    | .bool b => .ok (if b then 1 else 0)
    | v => .error (.notInteger p.way v.kindName)
  let ds := Nat.toDigits base n.natAbs
  let ds := List.replicate ((← p.digits) - ds.length) '0' ++ ds
  let mark := if p.alternate then ['0', p.way] else []
  return fillNumber p (n < 0) mark (if p.way = 'X' then ds.map Char.toUpper else ds)

def doubleOf : Value → Except TemplateFlaw Double
  | .int n => match Double.ofInt? n with
    | some x => .ok x
    | none => .error .tooLarge
  | .bool b => .ok (.finite false (if b then 1 else 0) 1)
  | .float x => .ok (.of x)
  | v => .error (.notFloat v.kindName)

def fillFloat (p : Place) (v : Value) : Except TemplateFlaw (List Char) := do
  let way := p.way.toLower
  let places := p.precision.getD 6
  let written (n d : Nat) : List Char :=
    if way = 'e' then scientificText p.alternate places n d
    else if way = 'f' then fixedText p.alternate places n d
    else generalText p.alternate places n d
  let (negative, cs) := match ← doubleOf v with
    | .finite negative n d => (negative, written n d)
    | .infinite negative => (negative, "inf".toList)
    | .undefined => (false, "nan".toList)
  return fillNumber p negative [] (if p.way.isUpper then cs.map Char.toUpper else cs)

def characterOf : Value → Except TemplateFlaw Char
  | .text s => match s.toList with
    | [c] => .ok c
    | _ => .error .notCharacter
  | .int n => if 0 ≤ n && n < 0x110000 then .ok (Char.ofNat n.toNat) else .error .noSuchCharacter
  | .bool b => .ok (if b then '\x01' else '\x00')
  | _ => .error .notCharacter

def asciiOnly (s : String) : List Char :=
  s.toList.flatMap fun c =>
    if c.toNat < 0x80 then [c]
    else if c.toNat < 0x100 then ['\\', 'x'] ++ Text.hexDigits 2 c.toNat
    else if c.toNat < 0x10000 then ['\\', 'u'] ++ Text.hexDigits 4 c.toNat
    else ['\\', 'U'] ++ Text.hexDigits 8 c.toNat

def fill (p : Place) (place : Nat) (v : Value) : Except TemplateFlaw (List Char) :=
  match p.way with
  | 's' => .ok (fillText p v.plain.toList)
  | 'r' => .ok (fillText p v.shown.toList)
  | 'a' => .ok (fillText p (asciiOnly v.shown))
  | 'd' => fillWhole p v
  | 'i' => fillWhole p v
  | 'u' => fillWhole p v
  | 'o' => fillBase p 8 v
  | 'x' => fillBase p 16 v
  | 'X' => fillBase p 16 v
  | 'c' => (characterOf v).map fun c => fillText { p with precision := none } [c]
  | way => if "eEfFgG".toList.contains way then fillFloat p v else .error (.unsupported way place)

def fillAll (size : Nat) : Nat → List Char → Supply → Except TemplateFlaw (List Char)
  | 0, _, _ => .ok []
  | _, [], s => if s.mapping.isNone && !s.waiting.isEmpty then .error .tooMany else .ok []
  | fuel + 1, '%' :: '%' :: cs, s => (fillAll size fuel cs s).map ('%' :: ·)
  | fuel + 1, '%' :: cs, s => do
    let (p, rest, s) ← readPlace s cs
    let (v, s) ← s.next
    let written ← fill p (size - rest.length - 1) v
    return written ++ (← fillAll size fuel rest s)
  | fuel + 1, c :: cs, s => (fillAll size fuel cs s).map (c :: ·)

def fillTemplate (template : String) (arguments : List Value) : Except TemplateFlaw String :=
  if arguments.isEmpty then .ok template
  else
    let cs := template.toList
    (fillAll cs.length (cs.length + 1) cs (.ofList arguments)).map String.ofList

end ServiceDiscovery.Logging
