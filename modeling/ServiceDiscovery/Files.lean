import ServiceDiscovery.Fault
import ServiceDiscovery.Text.Blank
import ServiceDiscovery.Text.Utf8

/-!
Files as the program sees them: what reading a path gives, and how paths are completed.
-/
namespace ServiceDiscovery

structure Files where
  directory : String
  home : String
  read : String → Except SystemError Text.Octets

namespace Path

def isAbsolute (path : String) : Bool := path.toList.head? == some '/'

def normalParts : List (List Char) → List (List Char) → List (List Char)
  | before, [] => before.reverse
  | before, part :: rest =>
    if part = [] || part = ['.'] then normalParts before rest
    else if part = ['.', '.'] then normalParts before.tail rest
    else normalParts (part :: before) rest

/-- The shortest text of an absolute path. Two slashes at its start stay two, more become one. -/
def normalize (path : String) : String :=
  let cs := path.toList
  let root := match cs with
    | '/' :: '/' :: '/' :: _ => "/"
    | '/' :: '/' :: _ => "//"
    | _ => "/"
  root ++ "/".intercalate ((normalParts [] (Text.parts '/' cs)).map String.ofList)

end Path

namespace Files

def expandHome (f : Files) (path : String) : String :=
  match path.toList with
  | ['~'] => f.home
  | '~' :: '/' :: rest => f.home ++ .ofList ('/' :: rest)
  | _ => path

def absolute (f : Files) (path : String) : String :=
  let path := f.expandHome path
  Path.normalize (if Path.isAbsolute path then path else f.directory ++ "/" ++ path)

end Files

namespace SystemError

def notFound (path : String) : SystemError :=
  ⟨some 2, "No such file or directory: " ++ Text.quoted path⟩
def occupied (path : String) : SystemError := ⟨some 17, "File exists: " ++ Text.quoted path⟩
def notDirectory (path : String) : SystemError := ⟨some 20, "Not a directory: " ++ Text.quoted path⟩
def isDirectory (path : String) : SystemError := ⟨some 21, "Is a directory: " ++ Text.quoted path⟩

end SystemError
end ServiceDiscovery
