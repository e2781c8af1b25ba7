import Registrar.Proofs.Batch
import Registrar.Proofs.Batch.SharedIds
import Registrar.Proofs.Lookup.Reupload

/-!
Two ways of telling that ids are the same. A lookup takes a stored record for the own record of a
row whatever case their ids are in; the ids that rows of a batch share are taken as they are
spelled. So two rows may have the same own record without sharing an id: exactly those whose ids
differ in case (`sharesId_iff_sameOwn`).
-/

namespace Registrar.Batch

/-- Some stored record would be taken for the own record of both rows. -/
def SameOwn (a b : Record) : Prop := ∃ r, Lookup.isOwn a r = true ∧ Lookup.isOwn b r = true

variable {batch : List Record} {i j : Nat} {a b : Record}

theorem isOwn_iff {r : Record} : Lookup.isOwn a r = true ↔
    knownId a ≠ "" ∧ Text.asciiLower (knownId a) = Text.asciiLower r.id := by
  simp [Lookup.isOwn, Text.sameIgnoringCase, knownId]

theorem asciiLower_eq_empty_iff {s : String} : Text.asciiLower s = "" ↔ s = "" := by
  rw [← String.toList_inj, ← String.toList_inj, Text.asciiLower, String.toList_ofList]
  exact List.map_eq_nil_iff

theorem sameOwn_iff : SameOwn a b ↔
    knownId a ≠ "" ∧ Text.sameIgnoringCase (knownId a) (knownId b) = true := by
  rw [Text.sameIgnoringCase, beq_iff_eq]
  constructor
  · rintro ⟨r, ha, hb⟩
    rw [isOwn_iff] at ha hb
    exact ⟨ha.1, ha.2.trans hb.2.symm⟩
  · rintro ⟨hne, hsame⟩
    have hne' : knownId b ≠ "" := by
      rwa [ne_eq, ← asciiLower_eq_empty_iff, ← hsame, asciiLower_eq_empty_iff]
    exact ⟨{ Record.blank with id := knownId a }, isOwn_iff.2 ⟨hne, rfl⟩,
      isOwn_iff.2 ⟨hne', hsame.symm⟩⟩

theorem SameOwn.isOwn_eq (h : SameOwn a b) (r : Record) :
    Lookup.isOwn a r = Lookup.isOwn b r := by
  obtain ⟨own, ha, hb⟩ := h
  rw [isOwn_iff] at ha hb
  rw [Bool.eq_iff_iff, isOwn_iff, isOwn_iff, ha.2, hb.2, iff_true_intro ha.1, iff_true_intro hb.1]

/-- **When rows with the same own record share an id.** Two rows have the same own record if their
ids, blanks cut off, are not empty and differ in case at most; then they have all own records in
common. But they are told as sharing an id, so that the batch is not clean, only if the two ids are
spelled alike. -/
theorem sharesId_iff_sameOwn (hij : i ≠ j) (ha : batch[i]? = some a) (hb : batch[j]? = some b) :
    (SameOwn a b ↔ Text.trim a.id ≠ "" ∧
      Text.sameIgnoringCase (Text.trim a.id) (Text.trim b.id) = true) ∧
    (SameOwn a b → ∀ r, Lookup.isOwn a r = Lookup.isOwn b r) ∧
    (SharesId batch i j ↔ SameOwn a b ∧ Text.trim a.id = Text.trim b.id) ∧
    (SharesId batch i j → ∀ s report, (Findings.ofReport s batch report).clean = false) := by
  refine ⟨sameOwn_iff, fun h => h.isOwn_eq, ?_, fun h s report => ?_⟩
  · rw [sharesId_iff hij ha hb, sameOwn_iff, and_assoc]
    refine and_congr_right fun _ => ⟨fun heq => ⟨?_, heq⟩, And.right⟩
    rw [heq]
    exact Text.sameIgnoringCase_refl _
  · rw [← Bool.not_eq_true]
    intro hclean
    obtain ⟨s, hs, -⟩ := h
    rw [List.isEmpty_iff.1 (Findings.of_clean hclean).1] at hs
    cases hs

def numbered (id first second : String) : Record :=
  ⟨id, "NL", .ofFn fun
    | .identificationNumber 0 => first
    | .identificationNumber 1 => second
    | _ => "", none⟩

/-- Two rows under one id, in one spelling. -/
theorem sharesId_iff_sameOwn_spelledAlike :
    (0 : Nat) ≠ 1 ∧ SameOwn (numbered "a1" "X" "") (numbered " a1" "" "Y") ∧
      SharesId [numbered "a1" "X" "", numbered " a1" "" "Y"] 0 1 ∧
      ∀ s report,
        (Findings.ofReport s [numbered "a1" "X" "", numbered " a1" "" "Y"] report).clean =
          false := by
  obtain ⟨hown, -, hshares, hclean⟩ := @sharesId_iff_sameOwn
    [numbered "a1" "X" "", numbered " a1" "" "Y"] 0 1 _ _ (by decide) rfl rfl
  have hsame := hown.2 ⟨by decide, by decide⟩
  have hshare := hshares.2 ⟨hsame, by decide⟩
  exact ⟨by decide, hsame, hshare, hclean hshare⟩

/-- The same two rows, the first id in capitals, are told as clean, though both duplicate the stored
record that both of them take for their own. -/
theorem clean_respelled :
    SameOwn (numbered "A1" "X" "") (numbered " a1" "" "Y") ∧
      ¬ SharesId [numbered "A1" "X" "", numbered " a1" "" "Y"] 0 1 ∧
      isDuplicate Held.byNumber (numbered "A1" "X" "") (numbered "a1" "X" "Y") = true ∧
      isDuplicate Held.byNumber (numbered " a1" "" "Y") (numbered "a1" "X" "Y") = true ∧
      ∃ report, ((Report.search (Held.registry ⟨[numbered "a1" "X" "Y"], 9⟩) Held.byNumber "NL"
          [numbered "A1" "X" "", numbered " a1" "" "Y"]).run 0).1.value = .ok report ∧
        (Findings.ofReport Held.byNumber [numbered "A1" "X" "", numbered " a1" "" "Y"]
          report).clean = true := by
  refine ⟨sameOwn_iff.2 ⟨by decide, by decide⟩, ?_, by decide, by decide,
    ⟨[[], []], [[], []]⟩, by decide, by decide⟩
  rw [sharesId_iff (by decide) rfl rfl]
  decide

end Registrar.Batch
