import ServiceDiscovery.Value

/-!
Merging of mappings: overrides win over base values, mapping by mapping, and missing overrides keep
what the base says.
-/
namespace ServiceDiscovery.Settings

def lookUp (entries : List (Value × Value)) (key : Value) : Option Value :=
  (entries.find? fun e => e.1.sameKey key).map (·.2)

mutual
def mergeValue (old : Option Value) : Value → Option Value
  | .map overrides =>
    match old with
    | some (.map base) => some (.map (merge base overrides))
    | _ => some (.map overrides)
  | .null => none
  | v => some v
def merge (base : List (Value × Value)) : List (Value × Value) → List (Value × Value)
  | [] => base
  | (k, v) :: rest =>
    match mergeValue (lookUp base k) v with
    | some w => merge (Value.put k w base) rest
    | none => merge base rest
end

end ServiceDiscovery.Settings
