import ServiceDiscovery.Record

/-!
The store of all records handed out. A record is known by its number, so two records with equal
contents stay apart and a change is seen by everyone who holds the number.
-/
namespace ServiceDiscovery

abbrev RecordId := Nat

structure Records where
  items : List Record := []
  deriving DecidableEq, Repr

namespace Records

def get? (rs : Records) (i : RecordId) : Option Record := rs.items[i]?

def nextId (rs : Records) : RecordId := rs.items.length

def add (rs : Records) (r : Record) : Records := ⟨rs.items ++ [r]⟩

def modify (rs : Records) (i : RecordId) (f : Record → Record) : Records := ⟨rs.items.modify i f⟩

def get (rs : Records) (i : RecordId) : Record := (rs.get? i).getD (.named "")

@[simp] theorem get?_modify_self (rs : Records) (i : RecordId) (f : Record → Record) :
    (rs.modify i f).get? i = (rs.get? i).map f := by
  simp [get?, modify]

theorem get?_modify_of_ne (rs : Records) {i j : RecordId} (f : Record → Record) (h : i ≠ j) :
    (rs.modify i f).get? j = rs.get? j := by
  simp [get?, modify, h]

@[simp] theorem get?_add_self (rs : Records) (r : Record) : (rs.add r).get? rs.nextId = some r := by
  simp [get?, add, nextId]

theorem get?_add_of_lt (rs : Records) (r : Record) {i : RecordId} (h : i < rs.nextId) :
    (rs.add r).get? i = rs.get? i := by
  simp only [get?, add]
  exact List.getElem?_append_left h

end Records
end ServiceDiscovery
