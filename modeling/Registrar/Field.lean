import Registrar.Text.Blank
import Registrar.Text.Decimal
import Registrar.Text.Lowercase

/-!
The fields of a registration that take part in the search for duplicates: their names, their
kinds, and the normal form in which two values are compared. A table holds one entry for each
field; it is known by its entries.
-/

namespace Registrar

/-- There is a first one of three, so that `0 : Fin 3` counts from it. -/
instance instNeZeroThree : @NeZero Nat Zero.ofOfNat0 3 := Nat.instNeZeroSucc

/-- There is a first one of five, so that `0 : Fin 5` counts from it. -/
instance instNeZeroFive : @NeZero Nat Zero.ofOfNat0 5 := Nat.instNeZeroSucc

/-- A compared field. Numbered fields count from zero here and from one in their names. -/
inductive Field
  | identificationNumber (i : Fin 3)
  | phoneNumber (i : Fin 3)
  | email (i : Fin 3)
  | firstName
  | middleName
  | lastName
  | nativeName
  | fullName
  | freeField (i : Fin 5)
  deriving DecidableEq, Repr

/-- How the values of a field are brought to normal form. -/
inductive Field.Kind
  | phone
  | email
  | text
  deriving DecidableEq, Repr

namespace Field

/-- Every field, in the order of the stored columns. -/
def all : List Field := [
  .identificationNumber 0, .identificationNumber 1, .identificationNumber 2,
  .phoneNumber 0, .phoneNumber 1, .phoneNumber 2,
  .email 0, .email 1, .email 2,
  .firstName, .middleName, .lastName, .nativeName, .fullName,
  .freeField 0, .freeField 1, .freeField 2, .freeField 3, .freeField 4]

/-- The place of the field in `all`. -/
def index : Field → Nat
  | identificationNumber i => i
  | phoneNumber i => 3 + i
  | email i => 6 + i
  | firstName => 9
  | middleName => 10
  | lastName => 11
  | nativeName => 12
  | fullName => 13
  | freeField i => 14 + i

theorem index_lt (f : Field) : f.index < all.length := by
  cases f <;> simp only [index, all, List.length_cons, List.length_nil] <;> omega

theorem get_all_index (f : Field) : all.get ⟨f.index, f.index_lt⟩ = f := by
  cases f with
  | identificationNumber i => revert i; decide
  | phoneNumber i => revert i; decide
  | email i => revert i; decide
  | freeField i => revert i; decide
  | _ => rfl

theorem index_get_all : ∀ k : Fin all.length, (all.get k).index = k := by decide

theorem mem_all (f : Field) : f ∈ all := by
  have h := List.get_mem all ⟨f.index, f.index_lt⟩
  rwa [get_all_index] at h

/-- The name without its number. -/
def stem : Field → String
  | identificationNumber _ => "identification_number"
  | phoneNumber _ => "phone_number"
  | email _ => "email"
  | firstName => "first_name"
  | middleName => "middle_name"
  | lastName => "last_name"
  | nativeName => "native_name"
  | fullName => "full_name"
  | freeField _ => "free_field"

def number? : Field → Option Nat
  | identificationNumber i | phoneNumber i | email i => some (i + 1)
  | freeField i => some (i + 1)
  | _ => none

/-- The name of the column that stores the field; it also names the field in records. -/
def column (f : Field) : String :=
  match f.number? with
  | some n => f.stem ++ "_" ++ toString n
  | none => f.stem

/-- The name of the field in lists of fields: its number follows without a line between. -/
def tag (f : Field) : String :=
  match f.number? with
  | some n => f.stem ++ toString n
  | none => f.stem

def ofTag? (name : String) : Option Field := all.find? (·.tag == name)

def kind : Field → Kind
  | phoneNumber _ => .phone
  | email _ => .email
  | _ => .text

end Field

/-- A phone number in normal form: its ASCII digits. -/
def normalPhone (raw : String) : String := String.ofList (raw.toList.filter Text.isDigit)

/-- An e-mail address in normal form: unpadded, in small letters. -/
def normalEmail (raw : String) : String := Text.lower (Text.unpad raw)

namespace Field

def normalize (f : Field) (raw : String) : String :=
  match f.kind with
  | .phone => normalPhone raw
  | .email => normalEmail raw
  | .text => Text.unpad raw

/-- One entry for each field, in the order of `all`. -/
structure Table (α : Type) where
  entries : List α
  length_entries : entries.length = all.length
  deriving DecidableEq, Repr

namespace Table

variable {α β : Type}

def get (t : Table α) (f : Field) : α :=
  t.entries.get ⟨f.index, by rw [t.length_entries]; exact f.index_lt⟩

def ofFn (g : Field → α) : Table α := ⟨all.map g, List.length_map g⟩

@[simp] theorem get_ofFn (g : Field → α) (f : Field) : (ofFn g).get f = g f := by
  have h := get_all_index f
  simp only [List.get_eq_getElem] at h
  simp [get, ofFn, h]

theorem entries_eq (t : Table α) : t.entries = all.map t.get := by
  refine List.ext_getElem (by rw [t.length_entries, List.length_map]) fun i hi hj => ?_
  have h := index_get_all ⟨i, by rwa [← t.length_entries]⟩
  simp only [List.get_eq_getElem] at h
  simp only [List.getElem_map, get, List.get_eq_getElem, h]

theorem ext_get {s t : Table α} (h : ∀ f, s.get f = t.get f) : s = t := by
  have e : s.entries = t.entries := by
    rw [entries_eq s, entries_eq t, show s.get = t.get from funext h]
  cases s; cases t; cases e; rfl

def map (g : Field → α → β) (t : Table α) : Table β := ofFn fun f => g f (t.get f)

@[simp] theorem get_map (g : Field → α → β) (t : Table α) (f : Field) :
    (t.map g).get f = g f (t.get f) := by simp [map]

def set (t : Table α) (f : Field) (a : α) : Table α :=
  ofFn fun g => if g = f then a else t.get g

@[simp] theorem get_set (t : Table α) (f g : Field) (a : α) :
    (t.set f a).get g = if g = f then a else t.get g := by simp [set]

end Table

end Field

end Registrar
