import Registrar.Proofs.Lookup.Outline
import Registrar.Proofs.Registry.Acts
import Registrar.Proofs.Report
import Registrar.Proofs.Selection
import Registrar.Proofs.Sql.Outline

/-!
No value reaches a text. Batches that fill in the same compared fields are looked up with the same
texts, whatever stands in the fields and whatever the registries answer, and as many records are
inserted with the same texts, whatever they hold (`texts_congr`).
-/

namespace Registrar

variable {σ τ : Type}

/-- Row by row, the batches fill in the same fields of the chosen groups. -/
def SameFilled (s : Selection) (batch batch' : List Record) : Prop :=
  List.Forall₂ (fun a b => ∀ f ∈ s.fields, (a.normalValue? f).isSome = (b.normalValue? f).isSome)
    batch batch'

/-- The queries become statements of one text and with as many values. -/
def SameText (x y : Exchange) : Prop :=
  (Sql.select x.query.criterion).text = (Sql.select y.query.criterion).text ∧
    (Sql.select x.query.criterion).values.length = (Sql.select y.query.criterion).values.length

/-- Outcomes that look alike are two failures, or two values that look alike. -/
theorem map_eq_map_cases {ε α β : Type} {f : α → β} {x y : Except ε α} (h : x.map f = y.map f) :
    (∃ e e', x = .error e ∧ y = .error e') ∨ ∃ a b, x = .ok a ∧ y = .ok b ∧ f a = f b := by
  cases x with
  | error e =>
    cases y with
    | error e' => exact .inl ⟨e, e', rfl, rfl⟩
    | ok b => cases h
  | ok a =>
    cases y with
    | error e => cases h
    | ok b => exact .inr ⟨a, b, rfl, rfl, Except.ok.inj h⟩

theorem forall₂_of_map_eq {α β γ : Type} {f : α → γ} {g : β → γ} {xs : List α} {ys : List β}
    (h : xs.map f = ys.map g) : List.Forall₂ (fun x y => f x = g y) xs ys := by
  rw [← List.forall₂_eq_eq_eq] at h
  exact List.forall₂_map_right_iff.1 (List.forall₂_map_left_iff.1 h)

theorem outlines_congr {s : Selection} {batch batch' : List Record}
    (h : SameFilled s batch batch') :
    batch.map (fun a => (Criterion.ofCandidate s a).outline) =
      batch'.map fun a => (Criterion.ofCandidate s a).outline := by
  induction h with
  | nil => rfl
  | cons hab _ ih =>
    rw [List.map_cons, List.map_cons, ih, Criterion.outline_ofCandidate_congr]
    exact fun g hg f hf => hab f (Selection.mem_fields.2 ⟨g, hg, hf⟩)

/-- Batches that fill in the same fields have as many values to ask for. -/
theorem sizes_congr {s : Selection} {batch batch' : List Record}
    (h : SameFilled s batch batch') :
    (batch.map fun a => (Criterion.ofCandidate s a).size) =
      batch'.map fun a => (Criterion.ofCandidate s a).size := by
  have hsizes := congrArg (List.map Criterion.size) (outlines_congr h)
  rw [List.map_map, List.map_map] at hsizes
  simpa only [Function.comp_def, Criterion.size_outline] using hsizes

namespace Lookup

theorem outline_queries_congr (limit : Nat) {s : Selection} (country country' : String)
    {batch batch' : List Record} (h : SameFilled s batch batch') :
    (queries limit s country batch).map (·.criterion.outline) =
      (queries limit s country' batch').map (·.criterion.outline) := by
  have houtlines : ∀ (country : String) (cs : List (List Probe)),
      (queriesOf country cs).map (·.criterion.outline) =
        (cs.map (List.map Probe.outline)).map request := by
    intro country cs
    rw [queriesOf, List.map_map, List.map_map]
    exact List.map_congr_left fun chunk _ => (request_map_outline chunk).symm
  unfold queries
  rcases map_eq_map_cases (outline_chunks_congr limit (outlines_congr h)) with
    ⟨e, e', hcs, hcs'⟩ | ⟨cs, cs', hcs, hcs', hchunks⟩
  · rw [hcs, hcs']
  · rw [hcs, hcs']
    dsimp only
    rw [houtlines, houtlines, hchunks]

theorem sameText_exchanges {registry : Registry (StateM σ)} {registry' : Registry (StateM τ)}
    (hlimit : registry.limit = registry'.limit) {s : Selection} {country country' : String}
    {batch batch' : List Record} (h : SameFilled s batch batch') {st : σ} {st' : τ}
    (hok : ∀ x ∈ exchanges registry s country batch st, ∃ rows, x.answer = .ok rows)
    (hok' : ∀ x ∈ exchanges registry' s country' batch' st', ∃ rows, x.answer = .ok rows) :
    List.Forall₂ SameText (exchanges registry s country batch st)
      (exchanges registry' s country' batch' st') := by
  rw [exchanges_eq] at hok hok' ⊢
  rw [exchanges_eq]
  rw [← hlimit] at hok' ⊢
  have houtlines := outline_queries_congr registry.limit country country' h
  rw [← Registry.queries_dialogue hok, ← Registry.queries_dialogue hok', List.map_map,
    List.map_map] at houtlines
  exact (forall₂_of_map_eq houtlines).imp fun x y e => Sql.select_congr e

end Lookup

namespace Database

theorem length_insertChunks_congr (limit : Nat) {records records' : List Record}
    (h : records.length = records'.length) :
    (insertChunks limit records).map (List.map List.length) =
      (insertChunks limit records').map (List.map List.length) := by
  have hempty : records.isEmpty = records'.isEmpty := by
    rw [Bool.eq_iff_iff, List.isEmpty_iff_length_eq_zero, List.isEmpty_iff_length_eq_zero, h]
  unfold insertChunks
  rw [hempty]
  split
  · rfl
  · exact Chunks.length_cut_congr _ _ (by rw [List.length_map, List.length_map, h])

theorem texts_insertStatements_congr (limit : Nat) {records records' : List Record}
    (h : records.length = records'.length) :
    (insertStatements limit records).map (·.text) =
      (insertStatements limit records').map (·.text) := by
  unfold insertStatements
  rcases map_eq_map_cases (length_insertChunks_congr limit h) with
    ⟨e, e', hcs, hcs'⟩ | ⟨chunks, chunks', hcs, hcs', hlengths⟩
  · rw [hcs, hcs']
  · rw [hcs, hcs']
    dsimp only
    rw [List.map_map, List.map_map, ← List.forall₂_eq_eq_eq, List.forall₂_map_left_iff,
      List.forall₂_map_right_iff]
    exact (forall₂_of_map_eq hlengths).imp fun chunk chunk' e => Sql.text_insert_congr e

def insertTexts (db : Database (StateM σ)) (limit : Nat) (records : List Record) (st : σ) :
    List String :=
  ((db.insertActs limit records st).filterMap Act.executed?).map (·.text)

theorem insertTexts_follow (db : Database (StateM σ)) (limit : Nat) (records : List Record)
    (st : σ) :
    db.insertTexts limit records st <+: (insertStatements limit records).map (·.text) ∧
      (Unbroken (db.insertActs limit records st) →
        db.insertTexts limit records st = (insertStatements limit records).map (·.text)) := by
  obtain ⟨hsent, hall⟩ := db.executed_insertActs limit records st
  exact ⟨hsent.map _, fun h => congrArg _ (hall h)⟩

/-- A database that takes everything and finds nothing. -/
def willing : Database (StateM Unit) where
  connect _ := return .ok ()
  probe _ := return .ok ()
  select _ := return .ok []
  execute _ := return .ok 1
  transact _ := return .ok ()

end Database

/-- **No value reaches a text.** Two lookups with one limit, of batches that fill in the same
compared fields, become statements of the same texts and with as many values, query by query, as
long as no query fails. Two inserts with one limit, of as many records, send the same texts one by
one, all of them where nothing stops the inserts, and else until one is stopped. -/
theorem texts_congr (limit : Nat) :
    (∀ (registry : Registry (StateM σ)) (registry' : Registry (StateM τ)),
      registry.limit = limit → registry'.limit = limit →
      ∀ (s : Selection) (country country' : String) (batch batch' : List Record) (st : σ) (st' : τ),
        SameFilled s batch batch' →
        (∀ x ∈ Lookup.exchanges registry s country batch st, ∃ rows, x.answer = .ok rows) →
        (∀ x ∈ Lookup.exchanges registry' s country' batch' st', ∃ rows, x.answer = .ok rows) →
        List.Forall₂ SameText (Lookup.exchanges registry s country batch st)
          (Lookup.exchanges registry' s country' batch' st')) ∧
    ∀ (db : Database (StateM σ)) (db' : Database (StateM τ)) (records records' : List Record)
      (st : σ) (st' : τ), records.length = records'.length →
        (db.insertTexts limit records st <+: db'.insertTexts limit records' st' ∨
          db'.insertTexts limit records' st' <+: db.insertTexts limit records st) ∧
        (Unbroken (db.insertActs limit records st) → Unbroken (db'.insertActs limit records' st') →
          db.insertTexts limit records st = db'.insertTexts limit records' st') := by
  refine ⟨?_, ?_⟩
  · rintro registry registry' rfl hlimit s country country' batch batch' st st' hfilled hok hok'
    exact Lookup.sameText_exchanges hlimit.symm hfilled hok hok'
  · intro db db' records records' st st' hlength
    obtain ⟨hsent, hall⟩ := db.insertTexts_follow limit records st
    obtain ⟨hsent', hall'⟩ := db'.insertTexts_follow limit records' st'
    rw [← Database.texts_insertStatements_congr limit hlength] at hsent' hall'
    refine ⟨List.prefix_or_prefix_of_prefix hsent hsent', fun hok hok' => ?_⟩
    rw [hall hok, hall' hok']

/-- A name that tries to be a condition, and one that tries to end the statement. -/
def quoting : List Record := [Held.named "" "" "' OR '1' = '1" "); DROP TABLE --"]

/-- Names that try to reach the text are looked up and inserted as plain ones are. -/
theorem texts_congr_quoting :
    List.Forall₂ SameText
        (Lookup.exchanges (.lasting 3 9 []) Held.bothNames "NL" [Held.named "" "" "Ann" "Lee"] 0)
        (Lookup.exchanges (.lasting 3 9 Held.threeNamed) Held.bothNames "BE" quoting 0) ∧
      Database.willing.insertTexts 21 Held.threeNamed () =
        Database.willing.insertTexts 21 (quoting ++ quoting ++ quoting) () := by
  have hplain : Lookup.exchanges (.lasting 3 9 []) Held.bothNames "NL"
      [Held.named "" "" "Ann" "Lee"] 0 =
        [⟨⟨"NL", .all [.equals .firstName "Ann", .equals .lastName "Lee"]⟩, .ok []⟩] := rfl
  have hquoting : Lookup.exchanges (.lasting 3 9 Held.threeNamed) Held.bothNames "BE" quoting 0 =
      [⟨⟨"BE", .all [.equals .firstName "' OR '1' = '1", .equals .lastName "); DROP TABLE --"]⟩,
        .ok Held.threeNamed⟩] := rfl
  have hfilled : SameFilled Held.bothNames [Held.named "" "" "Ann" "Lee"] quoting :=
    .cons (by decide) .nil
  refine ⟨(texts_congr 3).1 (.lasting 3 9 []) (.lasting 3 9 Held.threeNamed) rfl rfl
    Held.bothNames "NL" "BE" _ quoting 0 0 hfilled ?_ ?_,
    ((texts_congr 21).2 .willing .willing Held.threeNamed (quoting ++ quoting ++ quoting) () ()
      rfl).2 ⟨by decide, by decide⟩ ⟨by decide, by decide⟩⟩
  · rw [hplain]
    exact List.forall_mem_singleton.2 ⟨_, rfl⟩
  · rw [hquoting]
    exact List.forall_mem_singleton.2 ⟨_, rfl⟩

end Registrar
