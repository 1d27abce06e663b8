/-!
White space and the cutting of text at it: what is blank, what trimming keeps, parts between
separators.
-/
namespace ServiceDiscovery.Text

/-- The white space of Unicode together with the four information separators U+001C to U+001F. -/
def isBlank (c : Char) : Bool :=
  let n := c.toNat
  (0x9 ≤ n && n ≤ 0xd) || (0x1c ≤ n && n ≤ 0x20) || n == 0x85 || n == 0xa0 || n == 0x1680
    || (0x2000 ≤ n && n ≤ 0x200a) || n == 0x2028 || n == 0x2029 || n == 0x202f ||
      n == 0x205f || n == 0x3000

def isWhite (c : Char) : Bool := isBlank c && !(0x1c ≤ c.toNat && c.toNat ≤ 0x1f)

def dropEndWhile {α : Type} (p : α → Bool) (xs : List α) : List α :=
  (xs.reverse.dropWhile p).reverse

def trimChars (cs : List Char) : List Char := dropEndWhile isBlank (cs.dropWhile isBlank)

def trim (s : String) : String := .ofList (trimChars s.toList)

def trimEnd (s : String) : String := .ofList (dropEndWhile isBlank s.toList)

def trimWhite (cs : List Char) : List Char := dropEndWhile isWhite (cs.dropWhile isWhite)

/-- The parts of a text between occurrences of `sep`; always one more than there are separators. -/
def parts (sep : Char) : List Char → List (List Char)
  | [] => [[]]
  | c :: cs =>
    if c = sep then [] :: parts sep cs
    else match parts sep cs with
      | [] => [[c]]
      | p :: ps => (c :: p) :: ps

def dropDots (cs : List Char) : List Char := dropEndWhile (· == '.') cs

def firstLabel (s : String) : String := .ofList (s.toList.takeWhile (· != '.'))

theorem parts_ne_nil (sep : Char) (cs : List Char) : parts sep cs ≠ [] := by
  induction cs with
  | nil => simp [parts]
  | cons c cs _ =>
    unfold parts
    split
    · simp
    · split <;> simp

end ServiceDiscovery.Text
