import Registrar.Proofs.Text.Strip
import Registrar.Selection

/-!
The names in a text with commas. A text is the join, by commas, of pieces without commas, and in one
way only, so the names of a text are told by those of its pieces (`names_intercalate`). It follows
that blanks around a name, and items that are blank, do not count (`Padded.names_intercalate`).
-/

namespace Registrar

namespace Text

def Blank (s : String) : Prop := ∀ c ∈ s.toList, isBlank c = true

instance (s : String) : Decidable (Blank s) :=
  decidable_of_iff (s.toList.all isBlank = true) List.all_eq_true

theorem trim_of_blank {s : String} (h : Blank s) : trim s = "" := by
  have hnil : stripBoth isBlank (s.toList ++ []) = stripBoth isBlank [] :=
    stripBoth_append_left h
  rw [List.append_nil] at hnil
  rw [trim, hnil]
  rfl

theorem trim_append_blanks {before after : String} (hbefore : Blank before) (hafter : Blank after)
    (s : String) : trim (before ++ s ++ after) = trim s := by
  rw [trim, String.toList_append, String.toList_append, stripBoth_append_right hafter,
    stripBoth_append_left hbefore, trim]

theorem comma_not_mem_of_blank {s : String} (h : Blank s) : ',' ∉ s.toList :=
  fun hmem => absurd (h ',' hmem) (by decide)

end Text

namespace Selection

/-! ### Pieces -/

theorem notMem_of_mem_splitOn {α : Type} [BEq α] [LawfulBEq α] {a : α} {as piece : List α}
    (h : piece ∈ as.splitOn a) : a ∉ piece := by
  induction as generalizing piece with
  | nil =>
    obtain rfl : piece = [] := by simpa using h
    exact List.not_mem_nil
  | cons b as ih =>
    rw [List.splitOn_cons_eq_if_modifyHead] at h
    split at h
    · rcases List.mem_cons.1 h with rfl | h
      · exact List.not_mem_nil
      · exact ih h
    · next hb =>
      obtain ⟨first, more, hsplit⟩ := List.exists_cons_of_ne_nil (List.splitOn_ne_nil a as)
      rw [hsplit] at h ih
      rcases List.mem_cons.1 h with rfl | h
      · rw [List.mem_cons, not_or]
        exact ⟨fun e => hb (by simp [e]), ih List.mem_cons_self⟩
      · exact ih (List.mem_cons_of_mem _ h)

/-- Every text is a join of items without commas. -/
theorem exists_eq_intercalate (text : String) :
    ∃ items : List String, (∀ item ∈ items, ',' ∉ item.toList) ∧ text = ",".intercalate items := by
  refine ⟨(text.toList.splitOn ',').map String.ofList, fun item hitem => ?_, ?_⟩
  · obtain ⟨piece, hpiece, rfl⟩ := List.mem_map.1 hitem
    rw [String.toList_ofList]
    exact notMem_of_mem_splitOn hpiece
  · have htoList : ∀ piece ∈ text.toList.splitOn ',',
        (String.toList ∘ String.ofList) piece = piece := fun piece _ => String.toList_ofList
    rw [← String.toList_inj, String.toList_intercalate, List.map_map,
      List.map_congr_left htoList, List.map_id']
    exact (List.intercalate_splitOn ',').symm

/-! ### Names -/

theorem names_intercalate {items : List String} (h : ∀ item ∈ items, ',' ∉ item.toList) :
    names (",".intercalate items) = (items.map Text.trim).filter (· ≠ "") := by
  by_cases hne : items = []
  · rw [hne]
    decide
  · have hcommas : ∀ piece ∈ items.map String.toList, ',' ∉ piece := by
      intro piece hpiece
      obtain ⟨item, hitem, rfl⟩ := List.mem_map.1 hpiece
      exact h item hitem
    have hpieces : (",".intercalate items).toList.splitOn ',' = items.map String.toList := by
      rw [String.toList_intercalate]
      exact List.splitOn_intercalate ',' hcommas (by simpa using hne)
    rw [names, hpieces, List.map_map]
    simp only [Function.comp_def, String.ofList_toList]

/-- The items are the ids, in order, with blanks around them and blank items between them. -/
inductive Padded : (ids items : List String) → Prop
  | nil : Padded [] []
  | blank {ids items : List String} {item : String} : Text.Blank item → Padded ids items →
      Padded ids (item :: items)
  | name {ids items : List String} {before after : String} (id : String) : Text.Blank before →
      Text.Blank after → Padded ids items → Padded (id :: ids) ((before ++ id ++ after) :: items)

/-- An id that can be given among others in one text. -/
structure Listable (id : String) : Prop where
  trimmed : Text.trim id = id
  nonblank : id ≠ ""
  comma : ',' ∉ id.toList

namespace Padded

variable {ids items : List String}

theorem comma_not_mem (h : Padded ids items) (hids : ∀ id ∈ ids, Listable id) :
    ∀ item ∈ items, ',' ∉ item.toList := by
  induction h with
  | nil => simp
  | blank hblank _ ih =>
    exact List.forall_mem_cons.2 ⟨Text.comma_not_mem_of_blank hblank, ih hids⟩
  | name id hbefore hafter _ ih =>
    obtain ⟨hid, hids⟩ := List.forall_mem_cons.1 hids
    refine List.forall_mem_cons.2 ⟨?_, ih hids⟩
    rw [String.toList_append, String.toList_append, List.mem_append, List.mem_append]
    rintro ((hmem | hmem) | hmem)
    · exact Text.comma_not_mem_of_blank hbefore hmem
    · exact hid.comma hmem
    · exact Text.comma_not_mem_of_blank hafter hmem

theorem filter_map_trim (h : Padded ids items) (hids : ∀ id ∈ ids, Listable id) :
    (items.map Text.trim).filter (· ≠ "") = ids := by
  induction h with
  | nil => rfl
  | blank hblank _ ih =>
    rw [List.map_cons, Text.trim_of_blank hblank, List.filter_cons_of_neg (by simp), ih hids]
  | name id hbefore hafter _ ih =>
    obtain ⟨hid, hids⟩ := List.forall_mem_cons.1 hids
    rw [List.map_cons, Text.trim_append_blanks hbefore hafter, hid.trimmed,
      List.filter_cons_of_pos (by simpa using hid.nonblank), ih hids]

/-- Blanks do not change what a text names. -/
theorem names_intercalate (h : Padded ids items) (hids : ∀ id ∈ ids, Listable id) :
    names (",".intercalate items) = ids := by
  rw [Selection.names_intercalate (h.comma_not_mem hids), h.filter_map_trim hids]

example : names " Emails,, Ids ,\t,Emails " = ["Emails", "Ids", "Emails"] := by decide

end Padded

end Selection

end Registrar
