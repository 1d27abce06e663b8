import ServiceDiscovery.Yaml.Cursor

/-!
Scalars as they are written: plain, in quotation marks, and as indented blocks. Each reader gives
the text and the place after it, or nothing if the scalar is malformed.
-/
namespace ServiceDiscovery.Yaml

abbrev Read (α : Type) := Option (α × Cursor)

/-! ### Plain scalars -/

def plainPiece (flow : Bool) : List Char → List Char
  | [] => []
  | c :: rest =>
    let ends := isGap c
      || (c = ':' && rest.head?.all fun d => isGap d || (flow && ",[]\x7b\x7d".contains d))
      || (flow && ",?[]\x7b\x7d".contains c)
    if ends then [] else c :: plainPiece flow rest

def plainBreaks : Nat → List Char → Cursor → Option (List Char) × Cursor
  | 0, breaks, c => (some breaks, c)
  | fuel + 1, breaks, c =>
    match c.peek with
    | some ch =>
      if ch = ' ' then plainBreaks fuel breaks c.next
      else if isBreak ch then
        let (b, c) := c.lineBreak
        if c.atMarker then (none, c) else plainBreaks fuel (breaks ++ b) c
      else (some breaks, c)
    | none => (some breaks, c)

/-- What the gap after a piece of a plain scalar stands for; nothing if the scalar ends there. The
flag says that a line ended. -/
def plainGap (c : Cursor) : List Char × Bool × Cursor :=
  let (spaces, c) := c.span (· == ' ')
  if c.peek.any isBreak then
    let (b, c) := c.lineBreak
    if c.atMarker then ([], true, c)
    else match plainBreaks c.rest.length [] c with
      | (none, c) => ([], true, c)
      | (some breaks, c) =>
        let first := if b ≠ ['\n'] then b else if breaks.isEmpty then [' '] else []
        (first ++ breaks, true, c)
  else (spaces, false, c)

def plainPieces (flow : Bool) (indent : Int) :
    Nat → List Char → List Char → Bool → Cursor → List Char × Bool × Cursor
  | 0, text, _, ended, c => (text, ended, c)
  | fuel + 1, text, gap, ended, c =>
    if c.peek = some '#' then (text, ended, c)
    else
      let piece := plainPiece flow c.rest
      if piece.isEmpty then (text, ended, c)
      else
        let text := text ++ gap ++ piece
        let (gap, ended, c) := plainGap (c.skip piece.length)
        if gap.isEmpty || c.peek == some '#' || (!flow && (c.column : Int) < indent) then
          (text, ended, c)
        else plainPieces flow indent fuel text gap ended c

def plainScalar (flow : Bool) (indent : Int) (c : Cursor) : String × Bool × Cursor :=
  let (text, ended, c) := plainPieces flow indent (c.rest.length + 1) [] [] false c
  (.ofList text, ended, c)

/-! ### Quoted scalars -/

def escapes : List (Char × Char) :=
  [('0', '\x00'), ('a', '\x07'), ('b', '\x08'), ('t', '\t'), ('\t', '\t'), ('n', '\n'),
   ('v', '\x0b'), ('f', '\x0c'), ('r', '\r'), ('e', '\x1b'), (' ', ' '), ('"', '"'), ('\\', '\\'),
   ('/', '/'), ('N', '\u0085'), ('_', '\u00a0'), ('L', '\u2028'), ('P', '\u2029')]

def escapeLengths : List (Char × Nat) := [('x', 2), ('u', 4), ('U', 8)]

def quotedBreaks : Nat → List Char → Cursor → Read (List Char)
  | 0, breaks, c => some (breaks, c)
  | fuel + 1, breaks, c =>
    if c.atMarker then none
    else
      let c := (c.span fun ch => ch = ' ' || ch = '\t').2
      if c.peek.any isBreak then
        let (b, c) := c.lineBreak
        quotedBreaks fuel (breaks ++ b) c
      else some (breaks, c)

def escaped (c : Cursor) : Read (List Char) :=
  match c.peek with
  | none => none
  | some ch =>
    match escapes.lookup ch, escapeLengths.lookup ch with
    | some d, _ => some ([d], c.next)
    | none, some n =>
      let digits := c.next.rest.take n
      if digits.length = n && digits.all isHex && hexNumber digits < 0x110000 then
        some ([Char.ofNat (hexNumber digits)], c.next.skip n)
      else none
    | none, none =>
      if isBreak ch then
        let c := c.lineBreak.2
        quotedBreaks (c.rest.length + 1) [] c
      else none

def quotedText (double : Bool) : Nat → List Char → Cursor → Read (List Char)
  | 0, _, _ => none
  | fuel + 1, text, c =>
    match c.peek with
    | none => some (text, c)
    | some ch =>
      if isGap ch then some (text, c)
      else if ch = '\'' && !double then
        if c.ahead 1 = some '\'' then quotedText double fuel (text ++ ['\'']) (c.skip 2)
        else some (text, c)
      else if ch = '"' && double then some (text, c)
      else if ch = '\\' && double then
        match escaped c.next with
        | some (t, c) => quotedText double fuel (text ++ t) c
        | none => none
      else quotedText double fuel (text ++ [ch]) c.next

/-- Reads a gap, in which a line break counts as a space if no empty lines follow it. -/
def quotedGap (c : Cursor) : Read (List Char) :=
  let (blanks, c) := c.span fun ch => ch = ' ' || ch = '\t'
  match c.peek with
  | none => none
  | some ch =>
    if isBreak ch then
      let (b, c) := c.lineBreak
      (quotedBreaks (c.rest.length + 1) [] c).map fun (breaks, c) =>
        ((if b ≠ ['\n'] then b else if breaks.isEmpty then [' '] else []) ++ breaks, c)
    else some (blanks, c)

def quotedPieces (double : Bool) : Nat → List Char → Cursor → Read (List Char)
  | 0, _, _ => none
  | fuel + 1, text, c =>
    match quotedText double (c.rest.length + 1) text c with
    | none => none
    | some (text, c) =>
      if c.peek = some (if double then '"' else '\'') then some (text, c.next)
      else match quotedGap c with
        | none => none
        | some (gap, c) => quotedPieces double fuel (text ++ gap) c

def quotedScalar (double : Bool) (c : Cursor) : Read String :=
  (quotedPieces double (c.rest.length + 1) [] c.next).map fun (text, c) => (.ofList text, c)

/-! ### Block scalars -/

inductive Chomping
  | strip | clip | keep
  deriving DecidableEq

def chomping? : Option Char → Option Chomping
  | some '+' => some .keep
  | some '-' => some .strip
  | _ => none

def blockHeader (c : Cursor) : Read (Chomping × Option Nat) :=
  let digit (c : Cursor) : Option Nat :=
    c.peek.bind fun ch => if ch.isDigit then some (hexDigit ch) else none
  let (header, c) :=
    match chomping? c.peek, digit c with
    | some k, _ =>
      match digit c.next with
      | some n => ((k, some n), c.skip 2)
      | none => ((k, none), c.next)
    | none, some n =>
      match chomping? c.next.peek with
      | some k => ((k, some n), c.skip 2)
      | none => ((.clip, some n), c.next)
    | none, none => ((.clip, none), c)
  if header.2 = some 0 || !c.atSpace then none else some (header, c)

/-- Empty lines and spaces before the first line of a block; also the widest indentation seen. -/
def blockIndentation : Nat → List Char → Nat → Cursor → List Char × Nat × Cursor
  | 0, breaks, width, c => (breaks, width, c)
  | fuel + 1, breaks, width, c =>
    if c.peek = some ' ' then blockIndentation fuel breaks (max width c.next.column) c.next
    else if c.peek.any isBreak then
      let (b, c) := c.lineBreak
      blockIndentation fuel (breaks ++ b) width c
    else (breaks, width, c)

def skipIndent (indent : Nat) : Nat → Cursor → Cursor
  | 0, c => c
  | fuel + 1, c =>
    if c.column < indent && c.peek == some ' ' then skipIndent indent fuel c.next else c

def blockBreaks (indent : Nat) : Nat → List Char → Cursor → List Char × Cursor
  | 0, breaks, c => (breaks, c)
  | fuel + 1, breaks, c =>
    let c := skipIndent indent c.rest.length c
    if c.peek.any isBreak then
      let (b, c) := c.lineBreak
      blockBreaks indent fuel (breaks ++ b) c
    else (breaks, c)

def startsWithBlank (c : Cursor) : Bool := c.peek.any fun ch => ch = ' ' || ch = '\t'

def blockLines (folded : Bool) (indent : Nat) : Nat → List Char → List Char → List Char → Cursor →
    List Char × List Char × List Char × Cursor
  | 0, text, last, breaks, c => (text, last, breaks, c)
  | fuel + 1, text, last, breaks, c =>
    if c.column = indent && !c.rest.isEmpty then
      let blank := startsWithBlank c
      let (line, c) := c.span fun ch => !isBreak ch
      let text := text ++ breaks ++ line
      let (last, c) := c.lineBreak
      let (breaks, c) := blockBreaks indent (c.rest.length + 1) [] c
      if c.column = indent && !c.rest.isEmpty then
        let joined :=
          if folded && last == ['\n'] && !blank && !startsWithBlank c then
            if breaks.isEmpty then [' ']
          else []
          else last
        blockLines folded indent fuel (text ++ joined) last breaks c
      else (text, last, breaks, c)
    else (text, last, breaks, c)

def blockScalar (folded : Bool) (parent : Int) (c : Cursor) : Option (String × Cursor) := do
  let ((chomping, increment), c) ← blockHeader c.next
  let c ← c.skipRestOfLine
  let least : Nat := max 1 (parent + 1).toNat
  let (breaks, indent, c) := match increment with
    | none =>
      let (breaks, width, c) := blockIndentation c.rest.length [] 0 c
      (breaks, max least width, c)
    | some n =>
      let indent := least + n - 1
      let (breaks, c) := blockBreaks indent (c.rest.length + 1) [] c
      (breaks, indent, c)
  let (text, last, breaks, c) := blockLines folded indent (c.rest.length + 1) [] [] breaks c
  let text := match chomping with
    | .strip => text
    | .clip => text ++ last
    | .keep => text ++ last ++ breaks
  some (.ofList text, c)

end ServiceDiscovery.Yaml
