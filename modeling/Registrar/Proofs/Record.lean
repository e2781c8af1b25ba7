import Registrar.Proofs.Text.Lowercase
import Registrar.Record

/-!
Records in normal form, and live ones. Bringing a value or a record to normal form twice is doing it
once, so that what is stored is in normal form, and matching cannot tell a record from its normal
form: the normal values of both are the same.
-/

namespace Registrar

theorem normalPhone_normalPhone (raw : String) :
    normalPhone (normalPhone raw) = normalPhone raw := by
  rw [normalPhone, normalPhone, String.toList_ofList, List.filter_filter]
  simp only [Bool.and_self]

theorem normalEmail_normalEmail (raw : String) :
    normalEmail (normalEmail raw) = normalEmail raw := by
  rw [normalEmail, normalEmail, Text.unpad_lower_unpad, Text.lower_lower]

namespace Field

theorem normalize_normalize (f : Field) (raw : String) :
    f.normalize (f.normalize raw) = f.normalize raw := by
  unfold normalize
  split
  · exact normalPhone_normalPhone raw
  · exact normalEmail_normalEmail raw
  · exact Text.unpad_unpad raw

theorem normalize_empty (f : Field) : f.normalize "" = "" := by
  unfold normalize
  split <;> decide

end Field

namespace Record

def liveIn (country : String) (r : Record) : Bool := r.country == country && !r.isDeleted

def live (r : Record) : Record := { r with deletedAt := none }

theorem normalize_eq_self_iff {r : Record} : r.normalize = r ↔
    Text.unpad r.id = r.id ∧ Text.unpad r.country = r.country ∧
      ∀ f, f.normalize (r.value f) = r.value f := by
  constructor
  · intro h
    refine ⟨congrArg Record.id h, congrArg Record.country h, fun f => ?_⟩
    rw [← value_normalize, h]
  · rintro ⟨hid, hcountry, hvalues⟩
    have htable : r.values.map Field.normalize = r.values := by
      refine Field.Table.ext_get fun f => ?_
      rw [Field.Table.get_map]
      exact hvalues f
    rw [normalize, hid, hcountry, htable]

theorem normalize_normalize (r : Record) : r.normalize.normalize = r.normalize := by
  refine normalize_eq_self_iff.2 ⟨Text.unpad_unpad r.id, Text.unpad_unpad r.country, fun f => ?_⟩
  rw [value_normalize, Field.normalize_normalize]

theorem normalValue?_normalize (r : Record) (f : Field) :
    r.normalize.normalValue? f = r.normalValue? f := by
  simp only [normalValue?, value_normalize, Field.normalize_normalize]

end Record

end Registrar
