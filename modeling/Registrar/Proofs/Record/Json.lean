import Mathlib.Data.List.Forall2
import Registrar.Proofs.Fallible
import Registrar.Proofs.Instant
import Registrar.Proofs.Json
import Registrar.Record.Json

/-!
Written records are read back. The names of a record's parts are distinct, so what an object says of
a name does not depend on where it stands, nor on foreign names beside it, and a part that says
nothing may as well be missing (`ofJson?_of_rearranged`). With it reading a batch undoes writing it
(`read?_written`).
-/

namespace Registrar

namespace Record

variable {r : Record} {ms ns : List (String × Json)} {name s : String} {v : Json}

/-! ### What members say of a name -/

def valuesOf (ms : List (String × Json)) (name : String) : List Json :=
  (ms.filter fun m => m.1 == name).map Prod.snd

theorem valuesOf_append (ms ns : List (String × Json)) (name : String) :
    valuesOf (ms ++ ns) name = valuesOf ms name ++ valuesOf ns name := by
  rw [valuesOf, List.filter_append, List.map_append, valuesOf, valuesOf]

theorem valuesOf_perm (h : ms.Perm ns) (name : String) :
    (valuesOf ms name).Perm (valuesOf ns name) :=
  (h.filter _).map _

theorem mem_valuesOf : v ∈ valuesOf ms name ↔ (name, v) ∈ ms := by
  simp [valuesOf]

theorem valuesOf_eq_nil (h : name ∉ ms.map Prod.fst) : valuesOf ms name = [] :=
  List.eq_nil_iff_forall_not_mem.2 fun _ hv => h (List.mem_map_of_mem (mem_valuesOf.1 hv))

theorem valuesOf_eq_singleton (hnames : (ms.map Prod.fst).Nodup) (h : (name, v) ∈ ms) :
    valuesOf ms name = [v] := by
  induction ms with
  | nil => cases h
  | cons m ms ih =>
    rw [List.map_cons, List.nodup_cons] at hnames
    obtain ⟨hm, hnames⟩ := hnames
    rw [← List.singleton_append, valuesOf_append]
    rcases List.mem_cons.1 h with rfl | h
    · rw [valuesOf_eq_nil hm]
      simp [valuesOf]
    · have hne : m.1 ≠ name := fun e => hm (e ▸ List.mem_map_of_mem h)
      rw [ih hnames h]
      simp [valuesOf, hne]

theorem filter_some (ms : List (String × Json)) (name : String) :
    (ms.map fun m => (some m.1, m.2)).filter (fun m => m.1 == some name) =
      (ms.filter fun m => m.1 == name).map fun m => (some m.1, m.2) := by
  rw [List.filter_map]
  rfl

theorem said?_eq_of_nil (h : valuesOf ms name = []) :
    said? (ms.map fun m => (some m.1, m.2)) name = some none := by
  rw [said?, filter_some, List.map_eq_nil_iff.1 h]
  rfl

theorem said?_eq_of_singleton (h : valuesOf ms name = [v]) :
    said? (ms.map fun m => (some m.1, m.2)) name = some (some v) := by
  obtain ⟨m, hm, rfl⟩ := List.map_eq_singleton_iff.1 h
  rw [said?, filter_some, hm]
  rfl

/-! ### Rearranged members -/

/-- The value says no more of a part than its name missing would. -/
def SaysNothing (v : Json) : Prop := v = .text "" ∨ v = .null

/-- The members are those of the record in any order, without some that say nothing, and with some
of foreign names. -/
def Rearranged (r : Record) (ms : List (String × Json)) : Prop :=
  ∃ kept dropped added, (kept ++ dropped).Perm r.members ∧ ms.Perm (kept ++ added) ∧
    (∀ m ∈ dropped, SaysNothing m.2) ∧ ∀ m ∈ added, m.1 ∉ names

theorem rearranged_members (r : Record) : r.Rearranged r.members :=
  ⟨r.members, [], [], by simp⟩

theorem map_fst_members (r : Record) : r.members.map Prod.fst = names := by
  simp [members, names, Function.comp_def]

theorem nodup_names : names.Nodup := by decide +kernel

theorem mem_members_field (r : Record) (f : Field) :
    (f.column, .text (r.value f)) ∈ r.members := by
  have hmem := List.mem_map_of_mem (f := fun f => (f.column, Json.text (r.value f)))
    (Field.mem_all f)
  exact .tail _ (.tail _ (List.mem_append_left _ hmem))

/-- What rearranged members say of a name is what the record has for it, or nothing where that says
nothing. -/
theorem said?_of_rearranged (h : r.Rearranged ms) (hmem : (name, v) ∈ r.members) :
    said? (ms.map fun m => (some m.1, m.2)) name = some (some v) ∨
      SaysNothing v ∧ said? (ms.map fun m => (some m.1, m.2)) name = some none := by
  obtain ⟨kept, dropped, added, hmembers, hms, hdropped, hadded⟩ := h
  have hname : name ∈ names := map_fst_members r ▸ List.mem_map_of_mem hmem
  have hone : valuesOf r.members name = [v] :=
    valuesOf_eq_singleton (map_fst_members r ▸ nodup_names) hmem
  have hforeign : valuesOf added name = [] := by
    refine valuesOf_eq_nil fun hin => ?_
    obtain ⟨m, hm, rfl⟩ := List.mem_map.1 hin
    exact hadded m hm hname
  have hboth : valuesOf kept name ++ valuesOf dropped name = [v] := by
    rw [← valuesOf_append]
    exact List.perm_singleton.1 (hone ▸ valuesOf_perm hmembers name)
  have hkept : (valuesOf ms name).Perm (valuesOf kept name) := by
    have hperm := valuesOf_perm hms name
    rwa [valuesOf_append, hforeign, List.append_nil] at hperm
  rcases List.append_eq_singleton_iff.1 hboth with ⟨hnone, hin⟩ | ⟨hin, -⟩
  · have hv : v ∈ valuesOf dropped name := hin ▸ List.mem_singleton_self v
    rw [hnone] at hkept
    exact .inr ⟨hdropped _ (mem_valuesOf.1 hv), said?_eq_of_nil hkept.eq_nil⟩
  · rw [hin] at hkept
    exact .inl (said?_eq_of_singleton (List.perm_singleton.1 hkept))

theorem text?_of_rearranged (h : r.Rearranged ms) (hmem : (name, .text s) ∈ r.members) :
    text? (ms.map fun m => (some m.1, m.2)) name = some s := by
  unfold text?
  rcases said?_of_rearranged h hmem with hsaid | ⟨hnothing, hsaid⟩
  · rw [hsaid]
    rfl
  · rw [hsaid]
    rcases hnothing with heq | heq
    · cases heq
      rfl
    · cases heq

/-- The withdrawal is read back, if it was at a moment of the calendar. -/
theorem instant?_of_rearranged (h : r.Rearranged ms) (hvalid : ∀ t ∈ r.deletedAt, t.Valid) :
    instant? (ms.map fun m => (some m.1, m.2)) "deleted_at" = some r.deletedAt := by
  unfold instant?
  cases hdeleted : r.deletedAt with
  | none =>
    have hmem : ("deleted_at", .null) ∈ r.members := by simp [members, hdeleted]
    rcases said?_of_rearranged h hmem with hsaid | ⟨-, hsaid⟩
    · rw [hsaid]
    · rw [hsaid]
  | some t =>
    have hmem : ("deleted_at", .text t.render) ∈ r.members := by simp [members, hdeleted]
    have hread : Instant.read? t.render = some t := Instant.read?_render (hvalid t hdeleted)
    rcases said?_of_rearranged h hmem with hsaid | ⟨hnothing, -⟩
    · rw [hsaid]
      show (Instant.read? t.render).map some = _
      rw [hread]
      rfl
    · rcases hnothing with heq | heq
      · -- an instant is never written as an empty text
        exact absurd (Json.text_injective heq) t.render_ne_empty
      · cases heq

theorem ofJson?_of_rearranged (h : r.Rearranged ms) (hvalid : ∀ t ∈ r.deletedAt, t.Valid) :
    ofJson? (.members ms) = some r := by
  have hid : ("id", .text r.id) ∈ r.members := List.mem_cons_self
  have hcountry : ("country_id", .text r.country) ∈ r.members :=
    List.mem_cons_of_mem _ List.mem_cons_self
  have hfield : ∀ f : Field, text? (ms.map fun m => (some m.1, m.2)) f.column =
      some (r.value f) := fun f => text?_of_rearranged h (mem_members_field r f)
  have htexts : Field.all.mapM (fun f => text? (ms.map fun m => (some m.1, m.2)) f.column) =
      some (Field.all.map r.value) := by
    simp only [hfield]
    exact List.mapM_pure
  have hvalues : (Field.Table.ofFn fun f => (Field.all.map r.value).getD f.index "") =
      r.values := by
    refine Field.Table.ext_get fun f => ?_
    have hindex : Field.all[f.index]? = some f := by
      rw [List.getElem?_eq_getElem f.index_lt]
      exact congrArg some (Field.get_all_index f)
    rw [Field.Table.get_ofFn, List.getD_eq_getElem?_getD, List.getElem?_map, hindex]
    rfl
  show ofMembers? (ms.map fun m => (some m.1, m.2)) = some r
  have hguard : ((ms.map fun m => (some m.1, m.2)).all fun m => m.1.isSome) = true := by simp
  rw [ofMembers?, hguard, text?_of_rearranged h hid, text?_of_rearranged h hcountry, htexts,
    instant?_of_rearranged h hvalid]
  show some { r with values := Field.Table.ofFn fun f => (Field.all.map r.value).getD f.index "" } =
    some r
  rw [hvalues]

theorem readable_toJson (r : Record) : r.toJson.Readable := by
  refine Json.readable_members ?_
  unfold members
  refine List.forall_mem_cons.2 ⟨Json.readable_text r.id,
    List.forall_mem_cons.2 ⟨Json.readable_text r.country, List.forall_mem_append.2 ⟨?_, ?_⟩⟩⟩
  · rw [List.forall_mem_map]
    exact fun f _ => Json.readable_text (r.value f)
  · rw [List.forall_mem_singleton]
    cases r.deletedAt with
    | none => exact Json.readable_null
    | some t => exact Json.readable_text t.render

end Record

namespace Batch

variable {batch : List Record}

theorem ofJson?_of_rearranged {objects : List (List (String × Json))}
    (hvalid : ∀ r ∈ batch, ∀ t ∈ r.deletedAt, t.Valid)
    (h : List.Forall₂ Record.Rearranged batch objects) :
    ofJson? (.array (objects.map Json.members)) = some batch := by
  show (objects.map Json.members).mapM Record.ofJson? = some batch
  have hboth := (List.forall₂_and_left batch objects).2 ⟨hvalid, h⟩
  refine mapM_eq_some (List.forall₂_map_left_iff.2 (hboth.flip.imp fun ms r hr => ?_))
  exact Record.ofJson?_of_rearranged hr.2 hr.1

/-- The batch is read from every text for objects with rearranged members of its records. -/
theorem read?_of_rearranged {text : String} {objects : List (List (String × Json))}
    (hvalid : ∀ r ∈ batch, ∀ t ∈ r.deletedAt, t.Valid)
    (htext : Json.read? text = some (.array (objects.map Json.members)))
    (h : List.Forall₂ Record.Rearranged batch objects) : read? text = some batch := by
  rw [read?, htext]
  exact ofJson?_of_rearranged hvalid h

/-- **Reading a batch undoes writing it**, in one line as well as over several, if its records were
withdrawn at moments of the calendar. Each of them is also told by an object that has its members in
another order, without some that say nothing, or with foreign ones among them. -/
theorem read?_written (hvalid : ∀ r ∈ batch, ∀ t ∈ r.deletedAt, t.Valid) :
    read? (toJson batch).compact = some batch ∧ read? (toJson batch).pretty = some batch ∧
      ∀ r ∈ batch, ∀ ms, r.Rearranged ms → Record.ofJson? (.members ms) = some r := by
  have hreadable : (toJson batch).Readable := Json.readable_array fun v hv => by
    obtain ⟨r, -, rfl⟩ := List.mem_map.1 hv
    exact r.readable_toJson
  have hwritten : toJson batch = .array ((batch.map Record.members).map Json.members) := by
    rw [toJson, List.map_map]
    rfl
  have hsame : List.Forall₂ Record.Rearranged batch (batch.map Record.members) :=
    List.forall₂_map_right_iff.2 (List.forall₂_same.2 fun r _ => r.rearranged_members)
  refine ⟨read?_of_rearranged hvalid ?_ hsame, read?_of_rearranged hvalid ?_ hsame,
    fun r hr ms h => Record.ofJson?_of_rearranged h (hvalid r hr)⟩
  · rw [Json.read?_compact hreadable, hwritten]
  · rw [Json.read?_pretty hreadable, hwritten]

/-- A record with signs to be escaped in its id, withdrawn on a leap day. -/
def withdrawn : Record :=
  { Record.blank with
    id := "\"a\\\n\x01é"
    country := "NL"
    deletedAt := some ⟨⟨2024, 2, 29⟩, 23, 59, 59, 120000000⟩ }

/-- Its parts that say something, behind each other backwards, with a foreign one in front. -/
def withdrawnMembers : List (String × Json) :=
  [("note", .number "7"), ("deleted_at", .text "2024-02-29T23:59:59.120Z"),
    ("country_id", .text "NL"), ("id", .text "\"a\\\n\x01é")]

theorem rearranged_withdrawnMembers : withdrawn.Rearranged withdrawnMembers := by
  have hrender : Instant.render ⟨⟨2024, 2, 29⟩, 23, 59, 59, 120000000⟩ =
      "2024-02-29T23:59:59.120Z" := by decide +kernel
  refine ⟨withdrawnMembers.tail.reverse,
    Field.all.map fun f => (f.column, .text (withdrawn.value f)), [("note", .number "7")],
    ?_, ?_, ?_, by decide +kernel⟩
  · -- the withdrawal is written behind the fields
    have hmembers : withdrawn.members = ("id", .text withdrawn.id) ::
        ("country_id", .text withdrawn.country) ::
          (Field.all.map (fun f => (f.column, Json.text (withdrawn.value f))) ++
            [("deleted_at", .text "2024-02-29T23:59:59.120Z")]) := by
      rw [← hrender]
      rfl
    rw [hmembers]
    exact ((List.perm_append_singleton _ _).symm.cons _).cons _
  · exact (List.reverse_perm withdrawnMembers).symm
  · intro m hm
    obtain ⟨f, -, rfl⟩ := List.mem_map.1 hm
    have hempty : withdrawn.value f = "" := Field.Table.get_ofFn _ f
    rw [hempty]
    exact .inl rfl

/-- It is read back, also from an object that leaves its empty fields out, with its parts in another
order and a foreign one beside them. -/
theorem read?_written_withdrawn :
    (∀ r ∈ [withdrawn, Record.blank], ∀ t ∈ r.deletedAt, t.Valid) ∧
    read? (toJson [withdrawn, Record.blank]).compact = some [withdrawn, Record.blank] ∧
    read? (toJson [withdrawn, Record.blank]).pretty = some [withdrawn, Record.blank] ∧
    Record.ofJson? (.members withdrawnMembers) = some withdrawn := by
  have hvalid : ∀ r ∈ [withdrawn, Record.blank], ∀ t ∈ r.deletedAt, t.Valid := by decide
  obtain ⟨hcompact, hpretty, hobjects⟩ := read?_written hvalid
  exact ⟨hvalid, hcompact, hpretty,
    hobjects withdrawn List.mem_cons_self _ rearranged_withdrawnMembers⟩

end Batch

end Registrar
