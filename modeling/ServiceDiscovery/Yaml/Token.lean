import ServiceDiscovery.Text.Utf8
import ServiceDiscovery.Yaml.Scalar

/-!
Tokens of a document. Indentation becomes opening and closing tokens. A key is known as one only
when its colon is met, so the tokens that announce it are put before it afterwards.
-/
namespace ServiceDiscovery.Yaml
open ServiceDiscovery.Text (Octets)

structure TagName where
  handle : Option String
  suffix : String
  deriving DecidableEq, Repr

inductive Directive
  | version (major : Nat)
  | tag (handle expansion : String)
  | other
  deriving DecidableEq, Repr

inductive Token
  | directive (d : Directive)
  | documentStart
  | documentEnd
  | blockSequence
  | blockMapping
  | blockEnd
  | flowSequence
  | flowSequenceEnd
  | flowMapping
  | flowMappingEnd
  | blockEntry
  | flowEntry
  | key
  | value
  | reference (name : String)
  | anchor (name : String)
  | tag (t : TagName)
  /-- A scalar and whether it is plain. -/
  | scalar (text : String) (plain : Bool)
  deriving DecidableEq, Repr

/-! ### Names -/

def word (c : Cursor) : Read String :=
  let (run, c) := c.span isWord
  if run.isEmpty then none else some (.ofList run, c)

def endsAnchor (c : Cursor) : Bool := c.peek.all fun ch => isGap ch || "?:,]\x7d%@`".contains ch

def anchorName (c : Cursor) : Read String :=
  match word c.next with
  | some (name, c) => if endsAnchor c then some (name, c) else none
  | none => none

def isUriChar (c : Char) : Bool := c.isAlphanum || "-;/?:@&=+$,_.!~*'()[]".contains c

def uriEscapes : Nat → Octets → Cursor → Read Octets
  | 0, bytes, c => some (bytes, c)
  | fuel + 1, bytes, c =>
    if c.peek = some '%' then
      let digits := c.next.rest.take 2
      if digits.length = 2 && digits.all isHex then
        uriEscapes fuel (bytes ++ [UInt8.ofNat (hexNumber digits)]) (c.next.skip 2)
      else none
    else some (bytes, c)

def uriChunks : Nat → String → Cursor → Read String
  | 0, text, c => some (text, c)
  | fuel + 1, text, c =>
    let (run, c) := c.span isUriChar
    let text := text ++ .ofList run
    if c.peek = some '%' then
      match uriEscapes (c.rest.length + 1) [] c with
      | some (bytes, c) =>
        match Text.decode? bytes with
        | .ok t => uriChunks fuel (text ++ t) c
        | .error _ => none
      | none => none
    else some (text, c)

def uri (c : Cursor) : Read String :=
  match uriChunks (c.rest.length + 1) "" c with
  | some (text, d) => if d.index = c.index then none else some (text, d)
  | none => none

def tagHandle (c : Cursor) : Read String :=
  if c.peek ≠ some '!' then none
  else if c.ahead 1 = some ' ' then some ("!", c.next)
  else
    let (run, d) := c.next.span isWord
    if d.peek = some '!' then some ("!" ++ .ofList run ++ "!", d.next) else none

def hasHandle (c : Cursor) : Bool :=
  ((c.next.span fun ch => !(ch = ' ' || isBreak ch || ch = '!')).2).peek = some '!'

def tagName (c : Cursor) : Option (TagName × Cursor) := do
  let (t, c) ← (
    if c.ahead 1 = some '<' then
      match uri (c.skip 2) with
      | some (suffix, c) =>
        if c.peek = some '>' then some (TagName.mk none suffix, c.next) else none
      | none => none
    else if c.gapAt 1 then some (TagName.mk none "!", c.next)
    else if hasHandle c then do
      let (handle, c) ← tagHandle c
      let (suffix, c) ← uri c
      some (TagName.mk (some handle) suffix, c)
    else (uri c.next).map fun (suffix, c) => (TagName.mk (some "!") suffix, c))
  if c.atSpace then some (t, c) else none

def number (c : Cursor) : Read Nat :=
  let (run, c) := c.span Char.isDigit
  if run.isEmpty then none else some (run.foldl (fun n d => 10 * n + hexDigit d) 0, c)

def directive (c : Cursor) : Option (Directive × Cursor) := do
  let (name, c) ← word c.next
  if !c.atSpace then none
  let (d, c) ← (
    if name = "YAML" then do
      let (major, c) ← number c.skipSpaces
      if c.peek ≠ some '.' then none
      let (_, c) ← number c.next
      if c.atSpace then some (Directive.version major, c) else none
    else if name = "TAG" then do
      let (handle, c) ← tagHandle c.skipSpaces
      if c.peek ≠ some ' ' then none
      let (expansion, c) ← uri c.skipSpaces
      if c.atSpace then some (Directive.tag handle expansion, c) else none
    else some (Directive.other, c.skipLine))
  let c ← c.skipRestOfLine
  some (d, c)

/-! ### The state of reading -/

/-- A place where a key may have begun: the number of its first token; whether it has to be one. -/
structure KeyMark where
  token : Nat
  required : Bool
  index : Nat
  line : Nat
  column : Nat

structure Scanner where
  cursor : Cursor
  /-- The tokens so far, the latest first. -/
  tokens : List Token := []
  count : Nat := 0
  /-- Tokens to put before the token with a number. -/
  announced : List (Nat × List Token) := []
  flow : Nat := 0
  indent : Int := -1
  outer : List Int := []
  allowKey : Bool := true
  /-- The place of the latest possible key on each level of brackets. -/
  marks : List (Nat × KeyMark) := []

namespace Scanner

def push (s : Scanner) (t : Token) : Scanner :=
  { s with tokens := t :: s.tokens, count := s.count + 1 }

def take (s : Scanner) (n : Nat) (t : Token) : Scanner :=
  { s with cursor := s.cursor.skip n }.push t

def unwind (s : Scanner) (column : Int) : Scanner :=
  if s.flow ≠ 0 then s
  else
    let closed := (s.indent :: s.outer).takeWhile (column < ·)
    match (s.indent :: s.outer).drop closed.length with
    | [] => s
    | indent :: outer =>
      { s with indent, outer, tokens := closed.map (fun _ => Token.blockEnd) ++ s.tokens,
               count := s.count + closed.length }

def openBlock (s : Scanner) (column : Nat) : Bool × Scanner :=
  if s.indent < column then (true, { s with indent := column, outer := s.indent :: s.outer })
  else (false, s)

def dropMark (s : Scanner) : Option Scanner :=
  match s.marks.lookup s.flow with
  | some k => if k.required then none else some { s with marks := s.marks.filter (·.1 != s.flow) }
  | none => some s

def saveMark (s : Scanner) : Option Scanner :=
  if s.allowKey then
    let c := s.cursor
    let required := s.flow = 0 && s.indent == c.column
    s.dropMark.map fun s =>
      { s with marks := (s.flow, ⟨s.count, required, c.index, c.line, c.column⟩) :: s.marks }
  else some s

def keyLimit : Nat := 1024

/-- Forgets the possible keys that have become too long or end on an earlier line. -/
def dropStale (s : Scanner) : Option Scanner :=
  let stale (k : KeyMark) : Bool := k.line ≠ s.cursor.line || keyLimit < s.cursor.index - k.index
  if s.marks.any fun m => stale m.2 && m.2.required then none
  else some { s with marks := s.marks.filter fun m => !stale m.2 }

def toNext : Nat → Scanner → Scanner
  | 0, s => s
  | fuel + 1, s =>
    let c := s.cursor.skipSpaces.skipComment
    if c.peek.any isBreak then
      toNext fuel { s with cursor := c.lineBreak.2, allowKey := s.allowKey || s.flow = 0 }
    else { s with cursor := c }

def endDocument (s : Scanner) : Option Scanner := do
  let s ← (s.unwind (-1)).dropMark
  some { s with allowKey := false }

def marker (s : Scanner) (t : Token) : Option Scanner :=
  s.endDocument.map fun (s : Scanner) => s.take 3 t

def openFlow (s : Scanner) (t : Token) : Option Scanner :=
  s.saveMark.map fun s => { s with flow := s.flow + 1, allowKey := true }.take 1 t

def closeFlow (s : Scanner) (t : Token) : Option Scanner :=
  s.dropMark.map fun s => { s with flow := s.flow - 1, allowKey := false }.take 1 t

def flowEntry (s : Scanner) : Option Scanner :=
  (dropMark { s with allowKey := true }).map fun s => s.take 1 .flowEntry

def enter (s : Scanner) (t : Token) : Option Scanner :=
  if s.flow ≠ 0 then some s
  else if !s.allowKey then none
  else
    match s.openBlock s.cursor.column with
    | (true, s) => some (s.push t)
    | (false, s) => some s

def blockEntry (s : Scanner) : Option Scanner := do
  let s ← s.enter .blockSequence
  let s ← dropMark { s with allowKey := true }
  some (s.take 1 .blockEntry)

def explicitKey (s : Scanner) : Option Scanner := do
  let s ← s.enter .blockMapping
  let s ← dropMark { s with allowKey := s.flow = 0 }
  some (s.take 1 .key)

/-- A colon: it ends the possible key of its level, or stands for itself. -/
def value (s : Scanner) : Option Scanner :=
  match s.marks.lookup s.flow with
  | some k =>
    let s := { s with marks := s.marks.filter (·.1 != s.flow), allowKey := false }
    let (opened, s) := if s.flow = 0 then s.openBlock k.column else (false, s)
    let before := if opened then [Token.blockMapping, .key] else [.key]
    some ({ s with announced := (k.token, before) :: s.announced }.take 1 .value)
  | none => do
    let s ← s.enter .blockMapping
    let s ← dropMark { s with allowKey := s.flow = 0 }
    some (s.take 1 .value)

def content (s : Scanner) (read : Cursor → Read Token) : Option Scanner := do
  let s ← s.saveMark
  let (t, c) ← read s.cursor
  some ({ s with cursor := c, allowKey := false }.push t)

def plain (s : Scanner) : Option Scanner := do
  let s ← s.saveMark
  let (text, ended, c) := plainScalar (s.flow ≠ 0) (s.indent + 1) s.cursor
  some ({ s with cursor := c, allowKey := ended }.push (.scalar text true))

def block (s : Scanner) (folded : Bool) : Option Scanner := do
  let s ← dropMark { s with allowKey := true }
  let (text, c) ← blockScalar folded s.indent s.cursor
  some ({ s with cursor := c }.push (.scalar text false))

def startsPlain (s : Scanner) (ch : Char) : Bool :=
  !(isGap ch || "-?:,[]\x7b\x7d#&*!|>'\"%@`".contains ch)
    || (!s.cursor.gapAt 1 && (ch = '-' || (s.flow = 0 && (ch = '?' || ch = ':'))))

def token (s : Scanner) (ch : Char) : Option Scanner :=
  let c := s.cursor
  let inFlow := s.flow ≠ 0
  if ch = '%' && c.column = 0 then do
    let s ← s.endDocument
    let (d, c) ← directive s.cursor
    some ({ s with cursor := c }.push (.directive d))
  else if ch = '-' && c.column = 0 && c.atMarker then s.marker .documentStart
  else if ch = '.' && c.column = 0 && c.atMarker then s.marker .documentEnd
  else if ch = '[' then s.openFlow .flowSequence
  else if ch = '\x7b' then s.openFlow .flowMapping
  else if ch = ']' then s.closeFlow .flowSequenceEnd
  else if ch = '\x7d' then s.closeFlow .flowMappingEnd
  else if ch = ',' then s.flowEntry
  else if ch = '-' && c.gapAt 1 then s.blockEntry
  else if ch = '?' && (inFlow || c.gapAt 1) then s.explicitKey
  else if ch = ':' && (inFlow || c.gapAt 1) then s.value
  else if ch = '*' then s.content fun c => (anchorName c).map fun (n, c) => (.reference n, c)
  else if ch = '&' then s.content fun c => (anchorName c).map fun (n, c) => (.anchor n, c)
  else if ch = '!' then s.content fun c => (tagName c).map fun (t, c) => (.tag t, c)
  else if ch = '|' && !inFlow then s.block false
  else if ch = '>' && !inFlow then s.block true
  else if ch = '\'' then s.content fun c => (quotedScalar false c).map fun (t, c) =>
    (.scalar t false, c)
  else if ch = '"' then s.content fun c => (quotedScalar true c).map fun (t, c) =>
    (.scalar t false, c)
  else if s.startsPlain ch then s.plain
  else none

def run : Nat → Scanner → Option Scanner
  | 0, _ => none
  | fuel + 1, s =>
    match (s.toNext (s.cursor.rest.length + 1)).dropStale with
    | none => none
    | some s =>
      let s := s.unwind s.cursor.column
      match s.cursor.peek with
      | none => (s.unwind (-1)).dropMark
      | some ch =>
        match s.token ch with
        | none => none
        | some s => run fuel s

def tokensInOrder (s : Scanner) : List Token :=
  (s.tokens.reverse.mapIdx fun i t => (s.announced.lookup i).getD [] ++ [t]).flatten

end Scanner

def skipMark (c : Cursor) : Cursor := if c.peek = some '\uFEFF' then c.next else c

def tokens? (text : List Char) : Option (List Token) :=
  if text.all isAllowed then
    (Scanner.run (2 * text.length + 2) { cursor := skipMark { rest := text } }).map
      Scanner.tokensInOrder
  else none

end ServiceDiscovery.Yaml
