import ServiceDiscovery.Fault
import ServiceDiscovery.Text.Blank
import ServiceDiscovery.Text.Lowercase

/-!
Names of service types on the multicast network, made from registration types, and the instance part
of a full service name.
-/
namespace ServiceDiscovery.Multicast
open ServiceDiscovery.Text

def localDomain : String := "local."

/-- The type to browse or register, which names the subtype; the type without it; and the
registration type that replies carry. -/
structure ServiceType where
  full : String
  base : String
  reply : String
  deriving DecidableEq, Repr

def isLocalDomain (domain : String) : Bool :=
  let d := lower (.ofList (dropDots (trimChars domain.toList)))
  d == "" || d == "local"

namespace ServiceType

/-- The type of a base name and the trimmed parts after it, of which the first that is not empty
names the subtype. -/
def ofParts (base : String) (others : List (List Char)) : ServiceType :=
  let baseType := base ++ "." ++ localDomain
  let full := match others.find? (fun p => !p.isEmpty) with
    | some subtype => String.ofList subtype ++ "._sub." ++ baseType
    | none => baseType
  ⟨full, baseType, base ++ "."⟩

def of? (regtype domain : Option String) : Except Refusal ServiceType :=
  let d := domain.getD ""
  if !isLocalDomain d then
    .error ⟨ErrorCode.unsupported, s!"zeroconf only serves {localDomain}, not {quoted d}"⟩
  else match (parts ',' (regtype.getD "").toList).map trimChars with
    | [] => .error ⟨ErrorCode.badParam, "empty registration type"⟩
    | first :: others =>
      let base := dropDots first
      if base.isEmpty then .error ⟨ErrorCode.badParam, "empty registration type"⟩
      else .ok (ofParts (.ofList base) others)

end ServiceType

/-- The instance part of a full name: what stands before the type, or before the first dot if the
name does not end with the type. -/
def instanceName (name baseType : String) : String :=
  let suffix := '.' :: baseType.toList
  if suffix.isSuffixOf name.toList then
    .ofList (name.toList.take (name.toList.length - suffix.length))
  else firstLabel name

end ServiceDiscovery.Multicast
