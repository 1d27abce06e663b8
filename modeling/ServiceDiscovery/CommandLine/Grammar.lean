import ServiceDiscovery.Number.Numeral
import ServiceDiscovery.Text.Quoted

/-!
Command lines of programs with commands, each of which has options of its own. An option may be cut
short as long as no other one starts so, takes its value from after an equals sign or from the next
argument, and may be repeated.
-/
namespace ServiceDiscovery.CommandLine

inductive Takes
  | nothing
  | text
  | number
  | word (choices : List String)
  | help
  deriving DecidableEq, Repr

structure OptionForm where
  name : String
  takes : Takes := .text
  deriving DecidableEq, Repr

def helpOption : OptionForm := ⟨"--help", .help⟩

def OptionForm.label (f : OptionForm) : String := if f.takes = .help then "-h/--help" else f.name

inductive Setting
  | given
  | text (s : String)
  | number (n : Int)
  deriving DecidableEq, Repr

inductive UsageFlaw
  | ambiguous (argument : String) (candidates : List String)
  | valueMissing (label : String)
  | valueIgnored (label value : String)
  | notNumber (label value : String)
  | notChoice (label value : String) (choices : List String)
  | commandMissing
  | unrecognized (arguments : List String)
  deriving DecidableEq, Repr

def UsageFlaw.message : UsageFlaw → String
  | ambiguous argument candidates =>
    s!"ambiguous option: {argument} could match " ++ ", ".intercalate candidates
  | valueMissing label => s!"argument {label}: expected one argument"
  | valueIgnored label value => s!"argument {label}: ignored explicit argument {Text.quoted value}"
  | notNumber label value => s!"argument {label}: invalid int value: {Text.quoted value}"
  | notChoice label value choices =>
    s!"argument {label}: invalid choice: {Text.quoted value} (choose from "
      ++ ", ".intercalate (choices.map Text.quoted) ++ ")"
  | commandMissing => "the following arguments are required: command"
  | unrecognized arguments => "unrecognized arguments: " ++ " ".intercalate arguments

structure UsageError where
  program : String
  flaw : UsageFlaw
  deriving DecidableEq, Repr

def UsageError.message (e : UsageError) : String := s!"{e.program}: error: {e.flaw.message}"

inductive Halt
  | usage (e : UsageError)
  | help
  deriving DecidableEq, Repr

inductive Mark
  | plain
  /-- The two dashes after which all arguments are plain. -/
  | dashes
  | unknown
  | option (f : OptionForm) (value : Option String)
  deriving DecidableEq, Repr

def isNegativeNumber : List Char → Bool
  | '-' :: cs =>
    let cs := if cs.getLast? == some '\n' then cs.dropLast else cs
    let isDigit (c : Char) : Bool := (Number.anyDigit? c).isSome
    let whole := cs.takeWhile isDigit
    match cs.dropWhile isDigit with
    | [] => !whole.isEmpty
    | '.' :: fraction => !fraction.isEmpty && fraction.all isDigit
    | _ => false
  | _ => false

def splitValue (cs : List Char) : List Char × Option String :=
  match cs.dropWhile (· != '=') with
  | _ :: value => (cs.takeWhile (· != '='), some (.ofList value))
  | [] => (cs, none)

def classify (options : List OptionForm) (argument : String) : Except UsageFlaw Mark :=
  let cs := argument.toList
  match cs with
  | '-' :: second :: _ =>
    let (name, value) := splitValue cs
    match options.find? (·.name.toList == name) with
    | some f => .ok (.option f value)
    | none =>
      if second = '-' then
        match options.filter fun f => name.isPrefixOf f.name.toList with
        | [] => .ok (unmatched cs)
        | [f] => .ok (.option f value)
        | candidates => .error (.ambiguous argument (candidates.map (·.name)))
      else if second = 'h' then .ok (.option helpOption none)
      else .ok (unmatched cs)
  | _ => .ok .plain
where
  unmatched (cs : List Char) : Mark :=
    if isNegativeNumber cs || cs.contains ' ' then .plain else .unknown

def classifyAll (options : List OptionForm) : List String → Except UsageFlaw (List (String × Mark))
  | [] => .ok []
  | a :: rest =>
    if a = "--" then .ok ((a, .dashes) :: rest.map (·, .plain))
    else do
      let m ← classify options a
      return (a, m) :: (← classifyAll options rest)

def readValue (f : OptionForm) (value : String) : Except UsageFlaw Setting :=
  match f.takes with
  | .number =>
    match Number.argument? value with
    | some n => .ok (.number n)
    | none => .error (.notNumber f.label value)
  | .word choices =>
    if choices.contains value then .ok (.text value) else .error (.notChoice f.label value choices)
  | _ => .ok (.text value)

structure Reading where
  settings : List (String × Setting) := []
  left : List String := []
  deriving DecidableEq, Repr

def Reading.set (name : String) (s : Setting) (r : Reading) : Reading :=
  { r with settings := (name, s) :: r.settings }

def Reading.leave (argument : String) (r : Reading) : Reading :=
  { r with left := argument :: r.left }

def withValue (program : String) (f : OptionForm) (value : String) (later : Except Halt Reading) :
    Except Halt Reading :=
  match readValue f value with
  | .error flaw => .error (.usage ⟨program, flaw⟩)
  | .ok s => later.map (Reading.set f.name s)

def readOptions (program : String) : List (String × Mark) → Except Halt Reading
  | [] => .ok {}
  | (_, .option f (some value)) :: rest =>
    if f.takes = .nothing || f.takes = .help then
      .error (.usage ⟨program, .valueIgnored f.label value⟩)
    else withValue program f value (readOptions program rest)
  | (_, .option f none) :: rest =>
    match f.takes, rest with
    | .help, _ => .error .help
    | .nothing, rest => (readOptions program rest).map (Reading.set f.name .given)
    | _, (value, .plain) :: rest => withValue program f value (readOptions program rest)
    | _, _ => .error (.usage ⟨program, .valueMissing f.label⟩)
  | (a, _) :: rest => (readOptions program rest).map (Reading.leave a)

structure Program where
  name : String
  commands : List (String × List OptionForm)

namespace Program

def usage (p : Program) (flaw : UsageFlaw) : Halt := .usage ⟨p.name, flaw⟩

def readCommand (p : Program) (name : String) (arguments : List String) : Except Halt Reading :=
  match p.commands.lookup name with
  | none => .error (p.usage (.notChoice "command" name (p.commands.map (·.1))))
  | some options =>
    let program := s!"{p.name} {name}"
    match classifyAll (helpOption :: options) arguments with
    | .error flaw => .error (.usage ⟨program, flaw⟩)
    | .ok marked => readOptions program marked

/-- Goes to the first argument that can name a command. Unknown options before it are left for
later. -/
def readFrom (p : Program) : List (String × Mark) → Except Halt (String × Reading)
  | [] => .error (p.usage .commandMissing)
  | (name, .plain) :: rest => (p.readCommand name (rest.map (·.1))).map (name, ·)
  | (_, .dashes) :: [] => .error (p.usage .commandMissing)
  | (name, .dashes) :: rest => (p.readCommand name (rest.map (·.1))).map (name, ·)
  | (_, .option f (some value)) :: _ => .error (p.usage (.valueIgnored f.label value))
  | (_, .option _ none) :: _ => .error .help
  | (a, .unknown) :: rest => (p.readFrom rest).map fun (name, r) => (name, r.leave a)

def read (p : Program) (arguments : List String) : Except Halt (String × List (String × Setting)) :=
  match classifyAll [helpOption] arguments with
  | .error flaw => .error (p.usage flaw)
  | .ok marked => do
    let (name, r) ← p.readFrom marked
    if r.left.isEmpty then return (name, r.settings) else .error (p.usage (.unrecognized r.left))

end Program
end ServiceDiscovery.CommandLine
