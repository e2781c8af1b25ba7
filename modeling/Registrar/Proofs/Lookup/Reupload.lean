import Registrar.Proofs.Lookup.Sound
import Registrar.Proofs.Report.Normal

/-!
Looking up the very records that are stored. Of a stored id the padding is cut off, of the id of a
candidate all blanks; a record is told from its duplicates by comparing the two. So an id that ends
in some other blank is not known again, and a record that carries one is listed as a duplicate of
itself, while every other record with an id never is (`forall₂_run_stored`).
-/

namespace Registrar

/-- The record has an id, and what is stored of it is what a candidate is compared by. -/
def Record.Recognized (r : Record) : Prop :=
  Text.trim r.id ≠ "" ∧ Text.trim r.id = Text.unpad r.id

namespace Lookup

variable {σ : Type} {registry : Registry (StateM σ)} {s : Selection} {country : String}
  {batch : List Record} {st : σ}

/-- What is stored of a record is its own exactly where the record is recognized. -/
theorem isOwn_normalize_iff {r : Record} : isOwn r r.normalize = true ↔ r.Recognized := by
  have hsame : Text.sameIgnoringCase (Text.trim r.id) r.normalize.id = true ↔
      Text.trim r.id = Text.unpad r.id := by
    have hiff := Text.sameIgnoringCase_trim_iff (s := Text.unpad r.id)
    rwa [Text.trim_unpad] at hiff
  rw [isOwn, Bool.and_eq_true, bne_iff_ne, hsame, Record.Recognized]

/-- Whatever the registry answers, nobody gets an own record. -/
theorem forall₂_isOwn_of_run_eq_ok {found : List (List Record)}
    (h : ((run registry s country batch).run st).1.value = .ok found) :
    List.Forall₂ (fun candidate rows => ∀ r ∈ rows, isOwn candidate r = false) batch found :=
  (forall₂_duplicates_of_run_eq_ok h).imp fun _ _ hrows r hr => (hrows r hr).2

end Lookup

namespace Held

/-- **When a stored record is listed for itself.** Let records be stored and then looked up, by any
selection, in any country and within any limit. If the lookup ends with lists, then a record whose
id has no blanks but padding at its ends is not listed for itself. The lookup does end with lists if
the limit admits a value beside the country and all values together fit a word; and where the stored
ids are distinct, every other record is listed for itself as soon as it is a live record of the
country and the rule holds between it and itself. -/
theorem forall₂_run_stored (limit : Nat) (records : List Record) (s : Selection) (country : String)
    (asked : Nat) :
    (∀ found, ((Lookup.run (ofRecords limit records).registry s country records).run asked).1.value =
        .ok found →
      List.Forall₂ (fun r rows => r.Recognized → r.normalize ∉ rows) records found) ∧
    (2 ≤ limit →
      (records.map fun r => (Criterion.ofCandidate s r).size).sum < UInt64.size →
      ∃ found, ((Lookup.run (ofRecords limit records).registry s country records).run asked).1.value =
          .ok found ∧
        ((records.map fun r => r.normalize.id).Nodup →
          List.Forall₂ (fun r rows => r.normalize ∈ rows ↔
            r.normalize.liveIn country = true ∧ isDuplicate s r r = true ∧ ¬ r.Recognized)
            records found)) := by
  refine ⟨fun found h => ?_, fun hl hsize => ?_⟩
  · refine (Lookup.forall₂_isOwn_of_run_eq_ok h).imp fun r rows hrows hr hmem => ?_
    exact absurd (Lookup.isOwn_normalize_iff.2 hr) (by simp [hrows _ hmem])
  · obtain ⟨found, h⟩ := @exists_value_run records country s (ofRecords limit records) hl hsize asked
    refine ⟨found, h, fun hids => ?_⟩
    rw [eq_of_value_run hids hl h, List.forall₂_map_right_iff]
    refine List.forall₂_same.2 fun r hr => ?_
    have hheld : r.normalize ∈ (ofRecords limit records).records := mem_ofRecords.2 ⟨r, hr, rfl⟩
    have hdup : isDuplicate s r r.normalize = isDuplicate s r r := Criterion.holds_normalize r _
    rw [mem_duplicates, hdup, ← Bool.not_eq_true, Lookup.isOwn_normalize_iff, and_assoc]
    exact and_iff_right hheld

def byNumber : Selection :=
  ⟨[⟨"Ids", "Identification numbers",
    [.identificationNumber 0, .identificationNumber 1, .identificationNumber 2], .any, 0, true⟩], .all⟩

def spaced : Record :=
  ⟨"\u00a0p1", "NL", .ofFn fun
    | .identificationNumber 0 => "X"
    | _ => "", none⟩

/-- It has an id, and is listed for itself. -/
theorem mem_run_spaced :
    ([spaced].map (·.id)).Nodup ∧ Text.trim spaced.id ≠ "" ∧
      ((Lookup.run (ofRecords databaseLimit [spaced]).registry byNumber "NL" [spaced]).run
        0).1.value = .ok [[spaced.normalize]] := by
  refine ⟨by decide, by decide, ?_⟩
  have hheld : (ofRecords databaseLimit [spaced]).records = [spaced.normalize] := by
    simp [ofRecords]
  rw [value_run (by decide) (by decide) (by decide)]
  simp only [List.map_cons, List.map_nil, duplicates, hheld]
  decide

end Held

end Registrar
