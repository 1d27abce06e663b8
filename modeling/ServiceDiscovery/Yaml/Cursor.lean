/-!
A place in a document: what is left to read, with line and column. Also the classes of characters
that the grammar is written with.
-/
namespace ServiceDiscovery.Yaml

def isBreak (c : Char) : Bool := c = '\n' || c = '\r' || c = '\x85' || c = '\u2028' || c = '\u2029'

def isGap (c : Char) : Bool := c = ' ' || c = '\t' || isBreak c

def isWord (c : Char) : Bool := c.isAlphanum || c = '-' || c = '_'

def isHex (c : Char) : Bool := c.isDigit || ('a' ≤ c && c ≤ 'f') || ('A' ≤ c && c ≤ 'F')

def hexDigit (c : Char) : Nat := if c.isDigit then c.toNat - '0'.toNat else c.toNat % 32 + 9

def hexNumber (cs : List Char) : Nat := cs.foldl (fun n c => 16 * n + hexDigit c) 0

def isAllowed (c : Char) : Bool :=
  let n := c.toNat
  n = 9 || n = 0xa || n = 0xd || (0x20 ≤ n && n ≤ 0x7e) || n = 0x85 || (0xa0 ≤ n && n ≤ 0xd7ff)
    || (0xe000 ≤ n && n ≤ 0xfffd) || 0x10000 ≤ n

structure Cursor where
  rest : List Char
  index : Nat := 0
  line : Nat := 0
  column : Nat := 0

namespace Cursor

def peek (c : Cursor) : Option Char := c.rest.head?

def ahead (c : Cursor) (n : Nat) : Option Char := c.rest[n]?

/-- One character on. A line ends with its break, and a byte order mark has no width. -/
def next (c : Cursor) : Cursor :=
  match c.rest with
  | [] => c
  | ch :: rest =>
    if isBreak ch && !(ch = '\r' && rest.head? == some '\n') then ⟨rest, c.index + 1, c.line + 1, 0⟩
    else ⟨rest, c.index + 1, c.line, if ch = '\uFEFF' then c.column else c.column + 1⟩

def skip (c : Cursor) : Nat → Cursor
  | 0 => c
  | n + 1 => c.next.skip n

def span (p : Char → Bool) (c : Cursor) : List Char × Cursor :=
  let run := c.rest.takeWhile p
  (run, c.skip run.length)

def skipSpaces (c : Cursor) : Cursor := (c.span (· == ' ')).2

def skipLine (c : Cursor) : Cursor := (c.span fun ch => !isBreak ch).2

def gapAt (c : Cursor) (n : Nat) : Bool := (c.ahead n).all isGap

def atSpace (c : Cursor) : Bool := c.peek.all fun ch => ch = ' ' || isBreak ch

def atLineEnd (c : Cursor) : Bool := c.peek.all isBreak

/-- Reads a line break, if one is next. All but the two separators count as a new line. -/
def lineBreak (c : Cursor) : List Char × Cursor :=
  match c.rest with
  | '\r' :: '\n' :: _ => (['\n'], c.skip 2)
  | ch :: _ =>
    if ch = '\u2028' || ch = '\u2029' then ([ch], c.next)
    else if isBreak ch then (['\n'], c.next)
    else ([], c)
  | [] => ([], c)

def atMarker (c : Cursor) : Bool :=
  (['-', '-', '-'].isPrefixOf c.rest || ['.', '.', '.'].isPrefixOf c.rest) && c.gapAt 3

def skipComment (c : Cursor) : Cursor := if c.peek = some '#' then c.skipLine else c

def skipRestOfLine (c : Cursor) : Option Cursor :=
  let c := c.skipSpaces.skipComment
  if c.atLineEnd then some c.lineBreak.2 else none

end Cursor
end ServiceDiscovery.Yaml
