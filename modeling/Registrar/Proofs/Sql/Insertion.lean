import Registrar.Proofs.Registry.Rows
import Registrar.Proofs.Sql.Truth

/-!
Reading inserts. The text of an insert names a table, its columns, and the placeholders of row after
row; with the values that are bound to the placeholders it tells the rows that are written. What is
read back from an insert are its records, in order, each once, none of them withdrawn
(`readBack_insert`): row after row takes the next placeholders, and the columns stand in the order
of the values of a record.
-/

namespace Registrar

namespace Sql

/-! ### What an insert says -/

structure Insertion where
  table : String
  columns : List String
  /-- The numbers of the placeholders, row by row. -/
  rows : List (List Nat)
  deriving DecidableEq, Repr

/-- Reads names up to a closing parenthesis. What stands behind it is left. -/
def readNames : List Token → Option (List String × List Token)
  | .name s :: .comma :: ts => (readNames ts).map fun (names, rest) => (s :: names, rest)
  | .name s :: .closing :: ts => some ([s], ts)
  | _ => none

mutual

/-- Reads a row of placeholders of which `row` was read, and the rows behind it. What a placeholder
is cast to is passed over. -/
def readRow (row : List Nat) : List Token → Option (List (List Nat))
  | .placeholder n _ :: .comma :: ts => readRow (row ++ [n]) ts
  | .placeholder n _ :: .closing :: ts => (readRows ts).map ((row ++ [n]) :: ·)
  | _ => none

/-- Reads the rows that stand behind a row. -/
def readRows : List Token → Option (List (List Nat))
  | [] => some []
  | .comma :: .opening :: ts => readRow [] ts
  | _ => none

end

/-- What a text says, if it is that of an insert. -/
def insertion? (text : String) : Option Insertion :=
  match tokens text with
  | .name "INSERT" :: .name "INTO" :: .name table :: .opening :: ts =>
    match readNames ts with
    -- the first row is read as one that stands behind another
    | some (columns, .name "VALUES" :: ts) =>
      (readRows (.comma :: ts)).map fun rows => ⟨table, columns, rows⟩
    | _ => none
  | _ => none

/-- The row in which the columns hold the values of the placeholders and nothing tells of a
withdrawal. -/
def row? (columns : List String) (bound : Nat → Option String) (numbers : List Nat) :
    Option Row :=
  if numbers.length = columns.length then
    (numbers.mapM bound).map fun values =>
      ("deleted_at", .null) :: columns.zip (values.map Cell.text)
  else none

/-- The records that a statement writes, read back from it. -/
def Statement.readBack (statement : Statement) : Option (List Record) := do
  let insertion ← insertion? statement.text
  let rows ← insertion.rows.mapM (row? insertion.columns statement.bound)
  (Row.records rows).toOption

/-- The records that statements write, read back from them one after another. -/
def readBack (statements : List Statement) : Option (List Record) :=
  (statements.mapM Statement.readBack).map List.flatten

/-! ### The text of an insert -/

def insertColumns : List String := "id" :: "country_id" :: Field.all.map Field.column

/-- A placeholder with the types that it is cast to, as a token. -/
def cellToken (cell : Nat × List String) : Token := .placeholder cell.1 cell.2

/-- The placeholders of a record behind the first one. -/
def laterCells (first : Nat) : List (Nat × List String) :=
  (first + 1, ["text", "uuid"]) ::
    (List.range Field.all.length).map fun i => (first + 2 + i, [])

/-- The numbers of the first placeholders of the records. -/
def recordFirsts (records : List Record) : List Nat :=
  (List.range records.length).map fun i => 1 + i * valuesPerRecord

theorem tokens_identifier (n : Nat) : tokens (placeholder n ++ "::text::uuid") =
    [.placeholder n ["text", "uuid"]] := by
  have hcasts : "::text::uuid".toList = ':' :: ":text::uuid".toList := by decide
  have hword : ("::text::uuid".toList.all fun c => !endsWord c) = true := by decide
  refine @tokens_placeholder_casts "::text::uuid" (":text::uuid".toList.splitOn ':')
    ["text", "uuid"] (fun c hc => ?_) (fun digits hdigits => ?_) (by decide) n
  · simpa using List.all_eq_true.1 hword c hc
  · rw [hcasts]
    exact List.splitOn_append_cons_self_of_not_mem hdigits _

theorem tokens_recordPlaceholders (first : Nat) :
    tokens (recordPlaceholders first) =
      .opening :: (cellToken (first, ["text", "uuid"]) ::
        (laterCells first).flatMap fun c => [.comma, cellToken c]) ++ [.closing] := by
  have hfields : ((List.range Field.all.length).map fun i => placeholder (first + 2 + i)).flatMap
      (fun q => .comma :: tokens q) = ((List.range Field.all.length).map fun i =>
        (first + 2 + i, [])).flatMap fun c => [.comma, cellToken c] := by
    rw [List.flatMap_map, List.flatMap_map]
    simp only [tokens_placeholder, cellToken]
  rw [recordPlaceholders, tokens_parentheses, tokens_intercalate tokens_comma, tokens_identifier,
    List.flatMap_cons, tokens_identifier, hfields]
  rfl

theorem map_laterCells (first : Nat) :
    first :: (laterCells first).map (·.1) = List.range' first valuesPerRecord := by
  have hrange : List.range' first valuesPerRecord =
      first :: (first + 1) :: List.range' (first + 2) Field.all.length := rfl
  rw [hrange, laterCells, List.range'_eq_map_range, List.map_cons, List.map_map]
  rfl

/-- The text of an insert up to its rows. -/
def insertHead : String :=
  "INSERT INTO " ++ table ++ " (id, country_id, " ++ fieldColumns ++ ") VALUES"

theorem tokens_insertHead : tokens insertHead =
    .name "INSERT" :: .name "INTO" :: .name table :: .opening ::
      (.name "id" :: (insertColumns.tail.flatMap fun c => [.comma, .name c]) ++
        [.closing, .name "VALUES"]) := by
  have hlist : insertHead.toList = "INSERT INTO ".toList ++ table.toList ++
      " (id, country_id, ".toList ++ ", ".toList.intercalate (Field.all.map fun f =>
        f.column.toList) ++ ") VALUES".toList := by
    unfold insertHead
    rw [String.toList_append, String.toList_append, String.toList_append, String.toList_append,
      toList_fieldColumns]
  rw [tokens, hlist]
  decide +kernel

theorem tokens_insert {records : List Record} {first : Nat} {firsts : List Nat}
    (h : recordFirsts records = first :: firsts) : tokens (insert records).text =
      tokens insertHead ++ (tokens (recordPlaceholders first) ++
        (firsts.map recordPlaceholders).flatMap fun q => .comma :: tokens q) := by
  have blank : endsWord ' ' = true := by decide
  have hrows : ((List.range records.length).map fun i =>
      recordPlaceholders (1 + i * valuesPerRecord)) =
        recordPlaceholders first :: firsts.map recordPlaceholders := by
    rw [← List.map_cons, ← h, recordFirsts, List.map_map]
    rfl
  have htext : (insert records).text = insertHead ++ (" " ++ String.intercalate ", "
      (recordPlaceholders first :: firsts.map recordPlaceholders)) := by
    rw [← hrows]
    exact append_blank _ ") VALUES" _
  rw [htext, tokens_append blank insertHead _ (String.toList_append), tokens_blank,
    tokens_intercalate tokens_comma]

/-! ### Reading the text of an insert -/

theorem readNames_columns (c : String) (cs : List String) (ts : List Token) :
    readNames (.name c :: (cs.flatMap fun c => [.comma, .name c]) ++ .closing :: ts) =
      some (c :: cs, ts) := by
  induction cs generalizing c with
  | nil => rfl
  | cons d cs ih =>
    have hstep : readNames (.name c :: ((d :: cs).flatMap fun c => [.comma, .name c]) ++
        .closing :: ts) =
      (readNames (.name d :: (cs.flatMap fun c => [.comma, .name c]) ++ .closing :: ts)).map
        fun (names, rest) => (c :: names, rest) := rfl
    rw [hstep, ih]
    rfl

/-- A row is read up to its closing parenthesis, and then the rows behind it. -/
theorem readRow_cells (row : List Nat) (cell : Nat × List String)
    (cells : List (Nat × List String)) (ts : List Token) :
    readRow row (cellToken cell :: (cells.flatMap fun c => [.comma, cellToken c]) ++
        .closing :: ts) =
      (readRows ts).map ((row ++ (cell :: cells).map (·.1)) :: ·) := by
  induction cells generalizing row cell with
  | nil => rfl
  | cons d cells ih =>
    have hstep : readRow row (cellToken cell ::
        ((d :: cells).flatMap fun c => [.comma, cellToken c]) ++ .closing :: ts) =
      readRow (row ++ [cell.1]) (cellToken d ::
        (cells.flatMap fun c => [.comma, cellToken c]) ++ .closing :: ts) := rfl
    rw [hstep, ih, List.append_assoc]
    rfl

theorem readRow_recordPlaceholders (first : Nat) (ts : List Token) :
    readRows (.comma :: (tokens (recordPlaceholders first) ++ ts)) =
      (readRows ts).map (List.range' first valuesPerRecord :: ·) := by
  rw [tokens_recordPlaceholders, List.append_assoc, List.cons_append, readRows,
    List.singleton_append, readRow_cells, List.map_cons, List.nil_append, map_laterCells]

theorem readRows_recordPlaceholders (firsts : List Nat) :
    readRows ((firsts.map recordPlaceholders).flatMap fun q => .comma :: tokens q) =
      some (firsts.map fun first => List.range' first valuesPerRecord) := by
  induction firsts with
  | nil => rfl
  | cons first firsts ih =>
    rw [List.map_cons, List.flatMap_cons, List.cons_append, readRow_recordPlaceholders, ih]
    rfl

/-- An insert says which columns it writes, and a row of placeholders for each record. -/
theorem insertion?_insert {records : List Record} (hne : records ≠ []) :
    insertion? (insert records).text = some ⟨table, insertColumns,
      (recordFirsts records).map fun first => List.range' first valuesPerRecord⟩ := by
  obtain ⟨first, firsts, hfirsts⟩ : ∃ first firsts, recordFirsts records = first :: firsts := by
    refine List.exists_cons_of_ne_nil ?_
    simp [recordFirsts, hne]
  have hnames : ∀ ts, readNames (.name "id" ::
      (insertColumns.tail.flatMap fun c => [.comma, .name c]) ++ .closing :: ts) =
        some (insertColumns, ts) := fun ts => readNames_columns _ _ ts
  rw [insertion?, tokens_insert hfirsts, tokens_insertHead]
  simp only [List.cons_append, List.append_assoc, List.nil_append]
  have hnames' := hnames (.name "VALUES" :: (tokens (recordPlaceholders first) ++
    (firsts.map recordPlaceholders).flatMap fun q => .comma :: tokens q))
  rw [List.cons_append] at hnames'
  rw [hnames']
  change (readRows _).map _ = _
  rw [readRow_recordPlaceholders, readRows_recordPlaceholders, hfirsts]
  rfl

/-! ### The rows of an insert -/

variable {bound : Nat → Option String} {first : Nat}

theorem mapM_range' {vs : List String} (h : Binds first vs bound) :
    (List.range' first vs.length).mapM bound = some vs := by
  induction vs generalizing first with
  | nil => rfl
  | cons v vs ih =>
    obtain ⟨hv, hvs⟩ := @Binds.append first [v] vs bound h
    have hlater : (List.range' (first + 1) vs.length).mapM bound = some vs := ih hvs
    have hnumbers : List.range' first (v :: vs).length =
        first :: List.range' (first + 1) vs.length := rfl
    have hbound : bound first = some v := hv 0 v rfl
    rw [hnumbers, List.mapM_cons, hbound, hlater]
    rfl

def insertedRow (r : Record) : Row :=
  ("deleted_at", .null) :: insertColumns.zip ((recordValues r).map Cell.text)

theorem insertedRow_eq (r : Record) : insertedRow r =
    ("deleted_at", .null) :: ("id", .text r.id) :: ("country_id", .text r.country) ::
      Field.all.map fun f => (f.column, .text (r.value f)) := by
  rw [insertedRow, insertColumns, recordValues, List.map_cons, List.map_cons, List.zip_cons_cons,
    List.zip_cons_cons, List.map_map, List.zip_map']
  rfl

/-- It does not matter where the withdrawal stands. -/
theorem cell_insertedRow (r : Record) (column : String) :
    (insertedRow r).cell column = (Row.ofRecord r.live).cell column := by
  have hof : Row.ofRecord r.live = ("id", .text r.id) :: ("country_id", .text r.country) ::
      ("deleted_at", .null) :: Field.all.map fun f => (f.column, .text (r.value f)) := rfl
  unfold Row.cell
  rw [insertedRow_eq, hof]
  by_cases hdeleted : column = "deleted_at"
  · subst hdeleted
    rfl
  · have hne : (column == "deleted_at") = false := beq_eq_false_iff_ne.2 hdeleted
    simp only [List.lookup_cons, hne]

theorem record_insertedRow (r : Record) : (insertedRow r).record = .ok r.live := by
  rw [Row.record_congr (cell_insertedRow r), Row.record_ofRecord]

theorem row?_range' {r : Record} (h : Binds first (recordValues r) bound) :
    row? insertColumns bound (List.range' first valuesPerRecord) = some (insertedRow r) := by
  have hlength : (List.range' first valuesPerRecord).length = insertColumns.length := rfl
  have hvalues := mapM_range' h
  rw [length_recordValues] at hvalues
  rw [row?, if_pos hlength, hvalues]
  rfl

theorem mapM_row? {records : List Record} (h : Binds first (records.flatMap recordValues) bound) :
    ((List.range records.length).map fun i =>
      List.range' (first + i * valuesPerRecord) valuesPerRecord).mapM (row? insertColumns bound) =
        some (records.map insertedRow) := by
  induction records generalizing first with
  | nil => rfl
  | cons r rs ih =>
    rw [List.flatMap_cons] at h
    obtain ⟨hr, hrs⟩ := h.append
    rw [length_recordValues] at hrs
    have hlater : ∀ i, first + (i + 1) * valuesPerRecord =
        first + valuesPerRecord + i * valuesPerRecord := fun i => by rw [Nat.succ_mul]; omega
    rw [List.length_cons, List.range_succ_eq_map, List.map_cons, List.map_map, Nat.zero_mul,
      Nat.add_zero, List.mapM_cons, row?_range' hr]
    simp only [Function.comp_def, hlater]
    rw [ih hrs]
    rfl

/-- **What is read back from an insert is what it was made from.** The rows of the text, with the
bound values in place of the placeholders, are the records, in order, each once and not withdrawn.
-/
theorem readBack_insert {records : List Record} (hne : records ≠ []) :
    (insert records).readBack = some (records.map Record.live) := by
  have hbinds : Binds 1 (records.flatMap recordValues) (insert records).bound :=
    binds_values _ _
  have hrows : ((recordFirsts records).map fun first => List.range' first valuesPerRecord).mapM
      (row? insertColumns (insert records).bound) = some (records.map insertedRow) := by
    rw [recordFirsts, List.map_map]
    exact mapM_row? hbinds
  have hrecords : Row.records (records.map insertedRow) = .ok (records.map Record.live) :=
    Row.records_eq_ok_iff.2 (List.forall₂_map_left_iff.2 (List.forall₂_map_right_iff.2
      (List.forall₂_same.2 fun r _ => record_insertedRow r)))
  rw [Statement.readBack, insertion?_insert hne]
  dsimp only [Option.bind_eq_bind, Option.bind_some]
  rw [hrows, Option.bind_some, hrecords]
  rfl

theorem readBack_map_insert {chunks : List (List Record)} (hne : ∀ chunk ∈ chunks, chunk ≠ []) :
    readBack (chunks.map insert) = some (chunks.flatten.map Record.live) := by
  have hread : List.Forall₂ (fun statement records => statement.readBack = some records)
      (chunks.map insert) (chunks.map (List.map Record.live)) :=
    List.forall₂_map_left_iff.2 (List.forall₂_map_right_iff.2
      (List.forall₂_same.2 fun chunk hchunk => readBack_insert (hne chunk hchunk)))
  rw [readBack, mapM_eq_some hread, Option.map_some, ← List.map_flatten]

end Sql

end Registrar
