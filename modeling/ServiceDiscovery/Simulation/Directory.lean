import ServiceDiscovery.Files
import ServiceDiscovery.Logging.Routing

/-!
A directory with some files, which programs run in and have as their home; nothing else is on the
disk.
-/
namespace ServiceDiscovery.Simulation
open ServiceDiscovery.Text (Octets)

structure Directory where
  path : String
  files : List (String × Octets) := []

namespace Directory

def partsOf (path : String) : List (List Char) := (Text.parts '/' path.toList).filter (!·.isEmpty)

inductive Found
  | file (content : Octets)
  | folder
  | missing
  /-- The path goes on below a file. -/
  | beyond
  deriving DecidableEq, Repr

def entries (d : Directory) : List (List (List Char) × Octets) :=
  d.files.map fun f => (partsOf d.path ++ partsOf f.1, f.2)

def at? (d : Directory) (place : List (List Char)) : Found :=
  match d.entries.lookup place with
  | some content => .file content
  | none =>
    if place.isPrefixOf (partsOf d.path) || d.entries.any fun e => place.isPrefixOf e.1 then .folder
    else .missing

def walk (d : Directory) (place : List (List Char)) : List (List Char) → Found
  | [] => d.at? place
  | part :: rest =>
    match d.at? place with
    | .folder =>
      if part = [] || part = ['.'] then d.walk place rest
      else if part = ['.', '.'] then d.walk place.dropLast rest
      else d.walk (place ++ [part]) rest
    | .file _ => .beyond
    | found => found

def find (d : Directory) (path : String) : Found :=
  let start := if Path.isAbsolute path then [] else partsOf d.path
  d.walk start (Text.parts '/' path.toList)

def read (d : Directory) (path : String) : Except SystemError Octets :=
  match d.find path with
  | .file content => .ok content
  | .folder => .error (.isDirectory path)
  | .missing => .error (.notFound path)
  | .beyond => .error (.notDirectory path)

def view (d : Directory) : Files := ⟨d.path, d.path, d.read⟩

def textOf (parts : List (List Char)) : String := "/" ++ "/".intercalate (parts.map String.ofList)

def makeFolders (d : Directory) (made : List (List Char)) : List (List Char) → Option SystemError
  | [] => none
  | part :: rest =>
    let place := made ++ [part]
    match d.at? place, rest with
    | .file _, [] => some (.occupied (textOf place))
    | .file _, next :: _ => some (.notDirectory (textOf (place ++ [next])))
    | _, _ => d.makeFolders place rest

def appendFault? (d : Directory) (path : String) : Option SystemError :=
  match d.makeFolders [] (partsOf path).dropLast with
  | some e => some e
  | none =>
    match d.at? (partsOf path) with
    | .folder => some (.isDirectory path)
    | _ => none

def nameOf? (d : Directory) (path : String) : Option String :=
  let home := partsOf d.path
  let parts := partsOf path
  if home.isPrefixOf parts then some ("/".intercalate ((parts.drop home.length).map String.ofList))
  else none

def append (d : Directory) (path text : String) : Directory :=
  match d.nameOf? path with
  | none => d
  | some name =>
    if d.files.any (·.1 == name) then
      { d with files := d.files.map fun f => if f.1 == name then
                 (f.1, f.2 ++ Text.encode text) else f }
    else { d with files := d.files ++ [(name, Text.encode text)] }

end Directory

def syslogFault? : Value → Option SystemError
  | .text "fail" => some ⟨some 2, "no syslog"⟩
  | _ => none

def Directory.outlets (d : Directory) : Logging.Outlets := ⟨d.appendFault?, syslogFault?⟩

end ServiceDiscovery.Simulation
