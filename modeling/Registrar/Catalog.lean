import Registrar.Connective
import Registrar.Field

/-!
Field groups, from which a search for duplicates is put together, and the catalog of the groups on
offer. A catalog lists its groups by display order; groups of one order stay as they were given.
-/

namespace Registrar

/-- A named set of fields and how many of them have to agree. -/
structure FieldGroup where
  id : String
  label : String
  fields : List Field
  connective : Connective
  /-- The place in the list of choices. -/
  order : Nat
  /-- The group is chosen when nobody chooses. -/
  preselected : Bool
  deriving DecidableEq, Repr

structure Catalog where
  groups : List FieldGroup
  ordered : groups.Pairwise fun a b => a.order ≤ b.order

namespace Catalog

def ofGroups (groups : List FieldGroup) : Catalog where
  groups := groups.mergeSort fun a b => decide (a.order ≤ b.order)
  ordered := by
    have h : (groups.mergeSort fun a b => decide (a.order ≤ b.order)).Pairwise
        fun a b => decide (a.order ≤ b.order) = true :=
      List.pairwise_mergeSort
        (by intro a b c h1 h2; simp only [decide_eq_true_eq] at *; omega)
        (by intro a b; simp only [Bool.or_eq_true, decide_eq_true_eq]; omega) groups
    simpa using h

theorem mem_ofGroups {groups : List FieldGroup} {g : FieldGroup} :
    g ∈ (ofGroups groups).groups ↔ g ∈ groups :=
  (List.mergeSort_perm _ _).mem_iff

/-- The groups that every country may choose from. -/
def standard : Catalog := ofGroups [
  ⟨"Ids", "Identification numbers",
    [.identificationNumber 0, .identificationNumber 1, .identificationNumber 2], .any, 0, true⟩,
  ⟨"FreeField1", "Free Field 1", [.freeField 0], .any, 1, false⟩,
  ⟨"Emails", "E-Mails", [.email 0, .email 1, .email 2], .any, 2, false⟩,
  ⟨"FreeField2", "Free Field 2", [.freeField 1], .any, 3, false⟩,
  ⟨"PhoneNumbers", "Phone numbers", [.phoneNumber 0, .phoneNumber 1, .phoneNumber 2], .any, 4,
    false⟩,
  ⟨"FreeField3", "Free Field 3", [.freeField 2], .any, 5, false⟩,
  ⟨"FullName", "Full Name", [.fullName], .any, 6, false⟩,
  ⟨"FreeField4", "Free Field 4", [.freeField 3], .any, 7, false⟩,
  ⟨"Names", "Names", [.firstName, .middleName, .lastName], .all, 8, false⟩,
  ⟨"FreeField5", "Free Field 5", [.freeField 4], .any, 9, false⟩]

def find? (catalog : Catalog) (id : String) : Option FieldGroup :=
  catalog.groups.find? (·.id == id)

/-- The ids of the groups that are chosen when nobody chooses. -/
def preselected (catalog : Catalog) : List String :=
  (catalog.groups.filter (·.preselected)).map (·.id)

end Catalog

end Registrar
