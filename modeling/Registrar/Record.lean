import Registrar.Field
import Registrar.Instant.Basic

/-!
A registration: who it is, by an id and a country, what the compared fields hold, and when it was
withdrawn, if it was. The normal form of a record is what the registry stores of it; it keeps the
moment of withdrawal.
-/

namespace Registrar

/-- A registration of an individual. -/
structure Record where
  id : String
  country : String
  values : Field.Table String
  deletedAt : Option Instant
  deriving DecidableEq, Repr

namespace Record

def blank : Record := ⟨"", "", .ofFn fun _ => "", none⟩

def value (r : Record) (f : Field) : String := r.values.get f

/-- The surname, by which messages call a person. -/
def lastName (r : Record) : String := r.value .lastName

/-- What a field holds in normal form, if that is not empty. -/
def normalValue? (r : Record) (f : Field) : Option String :=
  let v := f.normalize (r.value f)
  if v = "" then none else some v

/-- The record was withdrawn. -/
def isDeleted (r : Record) : Bool := r.deletedAt.isSome

def normalize (r : Record) : Record :=
  { r with
    id := Text.unpad r.id
    country := Text.unpad r.country
    values := r.values.map Field.normalize }

@[simp] theorem value_normalize (r : Record) (f : Field) :
    r.normalize.value f = f.normalize (r.value f) := by simp [normalize, value]

@[simp] theorem deletedAt_normalize (r : Record) : r.normalize.deletedAt = r.deletedAt := rfl

@[simp] theorem isDeleted_normalize (r : Record) : r.normalize.isDeleted = r.isDeleted := rfl

theorem normalValue?_eq_some_iff {r : Record} {f : Field} {v : String} :
    r.normalValue? f = some v ↔ v ≠ "" ∧ f.normalize (r.value f) = v := by
  unfold normalValue?
  by_cases h : f.normalize (r.value f) = ""
  · simp only [h, if_true, reduceCtorEq, false_iff]
    rintro ⟨h', rfl⟩; exact h' rfl
  · simp only [h, if_false, Option.some.injEq]
    exact ⟨fun e => ⟨e ▸ h, e⟩, fun e => e.2⟩

end Record

end Registrar
