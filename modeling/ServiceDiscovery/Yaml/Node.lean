import ServiceDiscovery.Yaml.Kind
import ServiceDiscovery.Yaml.Token

/-!
Nodes of a document, read from its tokens by the grammar of blocks and flows. An alias stands for a
copy of the node that its anchor names.
-/
namespace ServiceDiscovery.Yaml

inductive Node
  | scalar (kind : Kind) (text : String)
  | list (kind : Kind) (items : List Node)
  | map (kind : Kind) (entries : List (Node × Node))
  /-- An alias inside the very node that it names. -/
  | loop
  deriving Inhabited

namespace Node

def missing : Node := .scalar .null ""

structure Source where
  tokens : List Token
  anchors : List (String × Option Node) := []

abbrev Parse (α : Type) := StateT Source Option α

abbrev Handles := List (String × String)

def malformed {α : Type} : Parse α := fun _ => none

def peek : Parse (Option Token) := fun s => some (s.tokens.head?, s)

def advance : Parse Unit := fun s => some ((), { s with tokens := s.tokens.drop 1 })

def accept (t : Token) : Parse Bool := fun s =>
  if s.tokens.head? = some t then some (true, { s with tokens := s.tokens.drop 1 })
  else some (false, s)

def expect (t : Token) : Parse Unit := do
  if !(← accept t) then malformed

def at? (ts : List Token) : Parse Bool := fun s =>
  some (s.tokens.head?.any fun t => ts.contains t, s)

def anchor? : Parse (Option String) := fun s =>
  match s.tokens with
  | .anchor name :: rest => some (some name, { s with tokens := rest })
  | _ => some (none, s)

def tag? : Parse (Option TagName) := fun s =>
  match s.tokens with
  | .tag t :: rest => some (some t, { s with tokens := rest })
  | _ => some (none, s)

def properties : Parse (Option String × Option TagName) := do
  match ← anchor? with
  | some a => return (some a, ← tag?)
  | none =>
    match ← tag? with
    | some t => return (← anchor?, some t)
    | none => return (none, none)

def fullTag (handles : Handles) : Option TagName → Parse (Option String)
  | none => return none
  | some ⟨none, suffix⟩ => return if suffix = "!" then none else some suffix
  | some ⟨some handle, suffix⟩ =>
    match handles.lookup handle with
    | some expansion =>
      return if expansion ++ suffix = "!" then none else some (expansion ++ suffix)
    | none => malformed

/-- The kind of a scalar: by its tag, or by its text if it is plain or its tag leaves the kind
open. -/
def scalarKind (tag : Option String) (tagged plain : Bool) (text : String) : Kind :=
  match tag with
  | some t => .ofTag t
  | none => if plain || tagged then .ofPlain text else .text

def kindOr (kind : Kind) : Option String → Kind
  | some t => .ofTag t
  | none => kind

def declare : Option String → Parse Unit
  | none => return
  | some a => fun s =>
    if s.anchors.any (·.1 == a) then none
    else some ((), { s with anchors := (a, none) :: s.anchors })

def define (a : Option String) (n : Node) : Parse Node := fun s =>
  match a with
  | none => some (n, s)
  | some a => some (n, { s with anchors := (a, some n) :: s.anchors.filter (·.1 != a) })

def reference (name : String) : Parse Node := fun s =>
  match s.anchors.lookup name with
  | some (some n) => some (n, s)
  | some none => some (.loop, s)
  | none => none

mutual
/-- Reads a node. Blocks may begin here if `block` says so, and an entry may begin a list without
further indentation if `loose` does. -/
def read (handles : Handles) : Nat → Bool → Bool → Parse Node
  | 0, _, _ => malformed
  | fuel + 1, block, loose => do
    match ← peek with
    | some (.reference name) =>
      advance
      reference name
    | _ =>
      let (anchor, tagName) ← properties
      let tag ← fullTag handles tagName
      declare anchor
      let next ← peek
      if loose && next == some .blockEntry then
        define anchor (.list (kindOr .list tag) (← looseItems handles fuel))
      else match next with
        | some (.scalar text plain) =>
          advance
          define anchor (.scalar (scalarKind tag tagName.isSome plain text) text)
        | some .flowSequence =>
          advance
          define anchor (.list (kindOr .list tag) (← flowItems handles fuel true))
        | some .flowMapping =>
          advance
          define anchor (.map (kindOr .map tag) (← flowEntries handles fuel true))
        | some .blockSequence =>
          if !block then malformed
          advance
          define anchor (.list (kindOr .list tag) (← blockItems handles fuel))
        | some .blockMapping =>
          if !block then malformed
          advance
          define anchor (.map (kindOr .map tag) (← blockEntries handles fuel))
        | _ =>
          if anchor.isNone && tagName.isNone then malformed
          define anchor (.scalar (scalarKind tag tagName.isSome true "") "")

def readUnless (handles : Handles) : Nat → Bool → Bool → List Token → Parse Node
  | 0, _, _, _ => malformed
  | fuel + 1, block, loose, ends => do
    if ← at? ends then return missing
    read handles fuel block loose

def blockItems (handles : Handles) : Nat → Parse (List Node)
  | 0 => malformed
  | fuel + 1 => do
    if ← accept .blockEntry then
      let item ← readUnless handles fuel true false [.blockEntry, .blockEnd]
      return item :: (← blockItems handles fuel)
    else
      expect .blockEnd
      return []

def looseItems (handles : Handles) : Nat → Parse (List Node)
  | 0 => malformed
  | fuel + 1 => do
    if ← accept .blockEntry then
      let item ← readUnless handles fuel true false [.blockEntry, .key, .value, .blockEnd]
      return item :: (← looseItems handles fuel)
    else return []

def blockEntries (handles : Handles) : Nat → Parse (List (Node × Node))
  | 0 => malformed
  | fuel + 1 => do
    if ← accept .key then
      let k ← readUnless handles fuel true true [.key, .value, .blockEnd]
      let v ← blockValue handles fuel
      return (k, v) :: (← blockEntries handles fuel)
    else
      expect .blockEnd
      return []

def blockValue (handles : Handles) : Nat → Parse Node
  | 0 => malformed
  | fuel + 1 => do
    if ← accept .value then readUnless handles fuel true true [.key, .value, .blockEnd]
    else return missing

def flowItems (handles : Handles) : Nat → Bool → Parse (List Node)
  | 0, _ => malformed
  | fuel + 1, first => do
    if ← accept .flowSequenceEnd then return []
    if !first then expect .flowEntry
    if ← accept .key then
      let k ← readUnless handles fuel false false [.value, .flowEntry, .flowSequenceEnd]
      let v ← flowValue handles fuel .flowSequenceEnd
      return .map .map [(k, v)] :: (← flowItems handles fuel false)
    else if ← accept .flowSequenceEnd then return []
    else
      let item ← read handles fuel false false
      return item :: (← flowItems handles fuel false)

def flowEntries (handles : Handles) : Nat → Bool → Parse (List (Node × Node))
  | 0, _ => malformed
  | fuel + 1, first => do
    if ← accept .flowMappingEnd then return []
    if !first then expect .flowEntry
    if ← accept .key then
      let k ← readUnless handles fuel false false [.value, .flowEntry, .flowMappingEnd]
      let v ← flowValue handles fuel .flowMappingEnd
      return (k, v) :: (← flowEntries handles fuel false)
    else if ← accept .flowMappingEnd then return []
    else
      let k ← read handles fuel false false
      return (k, missing) :: (← flowEntries handles fuel false)

def flowValue (handles : Handles) : Nat → Token → Parse Node
  | 0, _ => malformed
  | fuel + 1, last => do
    if ← accept .value then readUnless handles fuel false false [.flowEntry, last]
    else return missing
end

/-! ### Documents -/

def standardHandles : Handles := [("!", "!"), ("!!", Kind.standardTag)]

def directives (versioned : Bool) (handles : Handles) : List Token → Option (Handles × List Token)
  | .directive (.version major) :: rest =>
    if versioned || major ≠ 1 then none else directives true handles rest
  | .directive (.tag handle expansion) :: rest =>
    if handles.any (·.1 == handle) then none
    else directives versioned ((handle, expansion) :: handles) rest
  | .directive .other :: rest => directives versioned handles rest
  | tokens => some (handles ++ standardHandles, tokens)

def isExplicit : List Token → Bool
  | .directive _ :: _ => true
  | .documentStart :: _ => true
  | _ => false

def isBare : List Token → Bool
  | [] => true
  | .directive _ :: _ => true
  | .documentStart :: _ => true
  | .documentEnd :: _ => true
  | _ => false

def dropEnds (tokens : List Token) : List Token := tokens.dropWhile (· == .documentEnd)

def whole (handles : Handles) (tokens : List Token) : Option Node :=
  match (read handles (4 * tokens.length + 4) true false).run ⟨tokens, []⟩ with
  | some (n, s) => if (dropEnds s.tokens).isEmpty then some n else none
  | none => none

def ofTokens? (tokens : List Token) : Option (Option Node) :=
  if tokens.isEmpty then some none
  else if isExplicit tokens then
    match directives false [] tokens with
    | some (handles, .documentStart :: rest) =>
      if isBare rest then if (dropEnds rest).isEmpty then some (some missing) else none
      else (whole handles rest).map some
    | _ => none
  else (whole standardHandles tokens).map some

end Node
end ServiceDiscovery.Yaml
