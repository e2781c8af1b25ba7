import Registrar.Proofs.Fallible
import Registrar.Proofs.Record
import Registrar.Registry.Table

/-!
Rows and the records that they hold. A row that has a record tells it column by column
(`record_eq_ok`), and rows with records tell them one by one (`records_eq_ok_iff`). In a normal row
every field is empty or in normal form, which is how the table stores what it is given.
-/

namespace Registrar

theorem exists_of_forall₂ {α β : Type} {R : α → β → Prop} {as : List α} {bs : List β}
    (h : List.Forall₂ R as bs) {b : β} (hb : b ∈ bs) : ∃ a ∈ as, R a b := by
  induction h with
  | nil => simp at hb
  | @cons a b' as bs hab _ ih =>
    rcases List.mem_cons.1 hb with rfl | hb
    · exact ⟨a, List.mem_cons_self, hab⟩
    · obtain ⟨a', ha', h⟩ := ih hb
      exact ⟨a', List.mem_cons_of_mem _ ha', h⟩

namespace Row

variable {row : Row} {r : Record}

/-! ### The record of a row -/

theorem record_eq_ok (h : row.record = .ok r) :
    row.text "id" = .ok r.id ∧ row.text "country_id" = .ok r.country ∧
      row.instant? "deleted_at" = .ok r.deletedAt ∧
      ∀ f : Field, row.text f.column = .ok (r.value f) := by
  obtain ⟨id, hid, h⟩ := bind_eq_ok.1 h
  obtain ⟨country, hcountry, h⟩ := bind_eq_ok.1 h
  obtain ⟨deletedAt, hdeleted, h⟩ := bind_eq_ok.1 h
  obtain ⟨texts, htexts, h⟩ := bind_eq_ok.1 h
  obtain rfl := Except.ok.inj h
  refine ⟨hid, hcountry, hdeleted, fun f => ?_⟩
  have hfields := List.forall₂_iff_get.1 (mapM_eq_ok_iff.1 htexts)
  have hlt : f.index < texts.length := hfields.1 ▸ f.index_lt
  have hf := hfields.2 f.index f.index_lt hlt
  rw [Field.get_all_index] at hf
  have hget : texts.getD f.index "" = texts.get ⟨f.index, hlt⟩ := by simp [List.getD, hlt]
  rw [hf, Record.value, Field.Table.get_ofFn, hget]

/-- The record is told by the columns, wherever they stand. -/
theorem record_congr {row' : Row} (h : ∀ column, row.cell column = row'.cell column) :
    row.record = row'.record := by
  have htext : row.text = row'.text := funext fun column => by rw [text, text, h column]
  have hinstant : row.instant? = row'.instant? := funext fun column => by
    rw [instant?, instant?, h column]
  rw [record, record, htext, hinstant]

theorem isDeleted_eq_false_iff (h : row.record = .ok r) :
    r.isDeleted = false ↔ row.cell "deleted_at" = .ok .null := by
  have hd := (record_eq_ok h).2.2.1
  unfold instant? at hd
  unfold Record.isDeleted
  split at hd
  · next hcell =>
    rw [hcell, ← Except.ok.inj hd]
    simp
  · next t hcell =>
    rw [hcell, ← Except.ok.inj hd]
    simp
  · cases hd
  · cases hd

theorem records_eq_ok_iff {rows : List Row} {rs : List Record} :
    records rows = .ok rs ↔ List.Forall₂ (fun row r => row.record = .ok r) rows rs :=
  mapM_eq_ok_iff

/-! ### Normal rows -/

/-- Each field of the row is empty or holds a normal form. -/
def Normal (row : Row) : Prop :=
  ∀ f : Field, row.cell f.column = .ok .null ∨
    ∃ s, row.cell f.column = .ok (.text s) ∧ f.normalize s = s

def isNormal (row : Row) (f : Field) : Bool :=
  match row.cell f.column with
  | .ok .null => true
  | .ok (.text s) => f.normalize s == s
  | _ => false

theorem normal_iff : row.Normal ↔ ∀ f ∈ Field.all, row.isNormal f = true := by
  constructor
  · intro h f _
    unfold isNormal
    rcases h f with hcell | ⟨s, hcell, hs⟩
    · rw [hcell]
    · rw [hcell]
      simpa using hs
  · intro h f
    have hf := h f (Field.mem_all f)
    unfold isNormal at hf
    split at hf
    · next hcell => exact .inl hcell
    · next s hcell => exact .inr ⟨s, hcell, by simpa using hf⟩
    · cases hf

instance (row : Row) : Decidable row.Normal := decidable_of_iff _ normal_iff.symm

theorem normalValue?_of_normal (hn : row.Normal) (h : row.record = .ok r) (f : Field) :
    row.cell f.column = .ok .null ∧ r.normalValue? f = none ∨
      ∃ s, row.cell f.column = .ok (.text s) ∧ ∀ v, v ≠ "" →
        (r.normalValue? f = some v ↔ s = v) := by
  have htext := (record_eq_ok h).2.2.2 f
  unfold text at htext
  rcases hn f with hcell | ⟨s, hcell, hs⟩
  · left
    rw [hcell] at htext
    have hv : r.value f = "" := (Except.ok.inj htext).symm
    refine ⟨hcell, ?_⟩
    simp [Record.normalValue?, hv, Field.normalize_empty]
  · right
    rw [hcell] at htext
    have hv : r.value f = s := (Except.ok.inj htext).symm
    refine ⟨s, hcell, fun v hne => ?_⟩
    rw [Record.normalValue?_eq_some_iff, hv, hs]
    exact ⟨fun h => h.2, fun h => ⟨hne, h⟩⟩

/-! ### The row of a record -/

def ofRecord (r : Record) : Row :=
  ("id", .text r.id) :: ("country_id", .text r.country) ::
    ("deleted_at", r.deletedAt.elim .null .instant) ::
    Field.all.map fun f => (f.column, .text (r.value f))

theorem lookup_columns (g : Field → Cell) {fs : List Field} (h : (fs.map Field.column).Nodup)
    {f : Field} (hf : f ∈ fs) : (fs.map fun f => (f.column, g f)).lookup f.column = some (g f) := by
  induction fs with
  | nil => cases hf
  | cons f' fs ih =>
    obtain ⟨hnot, hnodup⟩ := List.nodup_cons.1 h
    rw [List.map_cons]
    rcases List.mem_cons.1 hf with rfl | hf
    · rw [List.lookup_cons_self]
    · have hne : (f.column == f'.column) = false := by
        rw [beq_eq_false_iff_ne]
        intro e
        exact hnot (e ▸ List.mem_map_of_mem hf)
      rw [List.lookup_cons, hne]
      exact ih hnodup hf

theorem nodup_columns : (Field.all.map Field.column).Nodup := by decide +kernel

theorem cell_ofRecord (r : Record) (f : Field) :
    (ofRecord r).cell f.column = .ok (.text (r.value f)) := by
  have hother : ∀ f ∈ Field.all, (f.column == "id") = false ∧ (f.column == "country_id") = false ∧
      (f.column == "deleted_at") = false := by decide +kernel
  obtain ⟨h1, h2, h3⟩ := hother f (Field.mem_all f)
  have hlookup := lookup_columns (fun f => .text (r.value f)) nodup_columns (Field.mem_all f)
  unfold cell ofRecord
  rw [List.lookup_cons, h1, List.lookup_cons, h2, List.lookup_cons, h3]
  dsimp only
  rw [hlookup]

theorem record_ofRecord (r : Record) : (ofRecord r).record = .ok r := by
  have htext : ∀ f : Field, (ofRecord r).text f.column = .ok (r.value f) := by
    intro f
    unfold text
    rw [cell_ofRecord]
  have htexts : Field.all.mapM (fun f => (ofRecord r).text f.column) =
      .ok (Field.all.map r.value) := by
    refine mapM_eq_ok_iff.2 (List.forall₂_map_right_iff.2 (List.forall₂_same.2 fun f _ => htext f))
  have hdeleted : (ofRecord r).instant? "deleted_at" = .ok r.deletedAt := by
    obtain ⟨id, country, values, deletedAt⟩ := r
    cases deletedAt <;> rfl
  have hvalues : (.ofFn fun f : Field => (Field.all.map r.value).getD f.index "" :
      Field.Table String) = r.values := by
    refine Field.Table.ext_get fun f => ?_
    have hget := Field.get_all_index f
    simp only [List.get_eq_getElem] at hget
    have hlt := f.index_lt
    simp [List.getD, hlt, hget, Record.value]
  have hid : (ofRecord r).text "id" = .ok r.id := rfl
  have hcountry : (ofRecord r).text "country_id" = .ok r.country := rfl
  unfold record
  rw [hid, hcountry, hdeleted, htexts]
  show Except.ok _ = Except.ok r
  rw [hvalues]

theorem normal_ofRecord {r : Record} (h : r.normalize = r) : (ofRecord r).Normal := by
  intro f
  exact .inr ⟨r.value f, cell_ofRecord r f, (Record.normalize_eq_self_iff.1 h).2.2 f⟩

end Row

end Registrar
