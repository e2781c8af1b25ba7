import Registrar.Proofs.Import.Run
import Registrar.Proofs.Sql.Truth
import Registrar.Record.Id

/-!
A database of one table. It answers a query by reading the condition in its text and holding it
against each row, takes the values of an insert in groups, one for each record, and stores
identifiers in small letters. That such a database is faithful (`faithful`) ties what imports assume
of a database to the statements that they send.
-/

namespace Registrar.Import.Table

/-! ### Identifiers -/

/-- The characters of identifiers: digits to the base sixteen and the dash. -/
def uuidCharacters : List Char := "0123456789abcdefABCDEF-".toList

/-- The text spells an identifier: five groups of digits with dashes between them. -/
def isUuid (s : String) : Bool :=
  s.toList.length == 36 && s.toList.all uuidCharacters.contains &&
    [8, 13, 18, 23].all fun i => s.toList[i]? == some '-'

def uuid? (s : String) : Option String := if isUuid s then some (Text.asciiLower s) else none

variable {s country : String}

theorem mem_uuidCharacters (h : isUuid s = true) {c : Char} (hc : c ∈ s.toList) :
    c ∈ uuidCharacters := by
  simp only [isUuid, Bool.and_eq_true] at h
  have hall := List.all_eq_true.1 h.1.2 c hc
  simpa using hall

theorem trim_of_isUuid (h : isUuid s = true) : Text.trim s = s := by
  have hblank : uuidCharacters.all (fun c => !Text.isBlank c) = true := by decide +kernel
  have hnot : ∀ c ∈ s.toList, Text.isBlank c = false := by
    intro c hc
    simpa using List.all_eq_true.1 hblank c (mem_uuidCharacters h hc)
  have hself : Text.stripBoth Text.isBlank s.toList = s.toList :=
    Text.stripBoth_eq_self (fun c hc => hnot c (List.mem_of_mem_head? hc))
      (fun c hc => hnot c (List.mem_of_mem_getLast? hc))
  rw [Text.trim, hself, String.ofList_toList]

theorem toLower_uuidCharacters (h : isUuid s = true) {c : Char} (hc : c ∈ s.toList) :
    c.toLower ∈ uuidCharacters ∧ c.toLower.toLower = c.toLower := by
  have hlower : uuidCharacters.all (fun c =>
      uuidCharacters.contains c.toLower && c.toLower.toLower == c.toLower) = true := by
    decide +kernel
  simpa using List.all_eq_true.1 hlower c (mem_uuidCharacters h hc)

theorem isUuid_asciiLower (h : isUuid s = true) : isUuid (Text.asciiLower s) = true := by
  have hall : (Text.asciiLower s).toList.all uuidCharacters.contains = true := by
    rw [Text.asciiLower, String.toList_ofList, List.all_map, List.all_eq_true]
    intro c hc
    simpa using (toLower_uuidCharacters h hc).1
  simp only [isUuid, Bool.and_eq_true] at h ⊢
  refine ⟨⟨?_, hall⟩, List.all_eq_true.2 fun i hi => ?_⟩
  · rw [Text.asciiLower, String.toList_ofList, List.length_map]
    exact h.1.1
  · have hdash := List.all_eq_true.1 h.2 i hi
    rw [beq_iff_eq] at hdash
    rw [Text.asciiLower, String.toList_ofList, List.getElem?_map, hdash]
    rfl

theorem sameIgnoringCase_asciiLower (h : isUuid s = true) :
    Text.sameIgnoringCase s (Text.asciiLower s) = true := by
  have hmap : (s.toList.map Char.toLower).map Char.toLower = s.toList.map Char.toLower := by
    rw [List.map_map]
    exact List.map_congr_left fun c hc => (toLower_uuidCharacters h hc).2
  rw [Text.sameIgnoringCase, Text.asciiLower, Text.asciiLower, String.toList_ofList, hmap]
  exact beq_self_eq_true _

theorem isUuid_of_uuid? {u : String} (h : uuid? s = some u) : isUuid s = true := by
  unfold uuid? at h
  split at h
  · assumption
  · cases h

/-! ### Rows -/

def readRecords : Nat → List String → List Record
  | n + 1, id :: country :: values =>
    ⟨id, country, .ofFn fun f => values.getD f.index "", none⟩ ::
      readRecords n (values.drop Field.all.length)
  | _, _ => []

theorem readRecords_values (records : List Record) :
    readRecords records.length (records.flatMap Sql.recordValues) =
      records.map fun r => { r with deletedAt := none } := by
  induction records with
  | nil => rfl
  | cons r records ih =>
    have hlength : Field.all.length = (Field.all.map r.value).length := (List.length_map _).symm
    have hvalues : (.ofFn fun f : Field =>
        (Field.all.map r.value ++ records.flatMap Sql.recordValues).getD f.index "" :
          Field.Table String) = r.values := by
      refine Field.Table.ext_get fun f => ?_
      have hlt := f.index_lt
      have hget := Field.get_all_index f
      rw [List.get_eq_getElem] at hget
      simp [List.getD, List.getElem?_append_left, hlt, hget, Record.value]
    rw [List.flatMap_cons, List.length_cons, Sql.recordValues, List.cons_append, List.cons_append,
      readRecords, hvalues, hlength, List.drop_left, ih, List.map_cons]

def stored (r : Record) : Record :=
  ⟨Text.asciiLower r.id, Text.asciiLower r.country, r.values, none⟩

def Accepts (seen records : List Record) : Prop :=
  (∀ r ∈ records, isUuid r.id = true ∧ isUuid r.country = true) ∧
    (∀ r ∈ records, ∀ t ∈ seen, Text.sameIgnoringCase r.id t.id = false) ∧
    records.Pairwise fun a b => Text.sameIgnoringCase a.id b.id = false

instance (seen records : List Record) : Decidable (Accepts seen records) := by
  unfold Accepts
  infer_instance

def enter (records : List Record) (K : Contents) : Except String Nat × Contents :=
  if Accepts K.seen records then
    (.ok records.length, ⟨K.committed, K.seen ++ records.map stored⟩)
  else (.error "refused", K)

/-- What the table contains after the end of a transaction. -/
def turn : Transaction → Contents → Contents
  | .commit, K => ⟨K.seen, K.seen⟩
  | _, K => ⟨K.committed, K.committed⟩

/-! ### The database -/

/-- What the table contains, and how many new ids were given. -/
structure State where
  contents : Contents
  given : Nat

/-- The database of one table. -/
def database : Database (StateM State) := Database.capped {
  connect := fun _ => return .ok ()
  probe := fun _ => return .ok ()
  select := fun statement => do
    let rows := (← get).contents.seen.map Row.ofRecord
    return .ok (rows.filter fun row => statement.asksFor uuid? row)
  execute := fun statement => modifyGet fun st =>
    let records := readRecords (statement.values.length / Sql.valuesPerRecord) statement.values
    let entered := enter records st.contents
    (entered.1, { st with contents := entered.2 })
  transact := fun t => modifyGet fun st => (.ok (), { st with contents := turn t st.contents }) }

theorem records_select {c : Criterion} (hc : c.Each fun _ v => v ≠ "")
    {rows : List Record} (hrows : ∀ r ∈ rows, r.normalize = r)
    (hcountry : uuid? country = some country) :
    Row.records ((rows.map Row.ofRecord).filter fun row =>
        Sql.Statement.asksFor uuid? ⟨(Sql.select c).text, country :: (Sql.select c).values⟩ row) =
      .ok (rows.filter fun r => r.liveIn country && c.holds r) := by
  have hasks : ∀ r ∈ rows, Sql.Statement.asksFor uuid?
      ⟨(Sql.select c).text, country :: (Sql.select c).values⟩ (Row.ofRecord r) =
        (r.liveIn country && c.holds r) := by
    intro r hr
    have hcell : (Row.ofRecord r).cell "country_id" = .ok (.text r.country) := rfl
    rw [Bool.eq_iff_iff, Sql.asksFor_select_iff (Row.normal_ofRecord (hrows r hr))
      (Row.record_ofRecord r) hc, hcountry, hcell]
    simp [Record.liveIn, and_assoc]
  rw [List.filter_map, Row.records_eq_ok_iff, List.forall₂_map_left_iff]
  have hfilter := List.filter_congr hasks
  rw [Function.comp_def, hfilter, List.forall₂_same]
  exact fun r _ => Row.record_ofRecord r

theorem storedAs {rows : List Record} {r : Record} (hid : isUuid r.id = true)
    (hunknown : ∀ t ∈ rows, Text.sameIgnoringCase r.id t.id = false)
    (hcountry : uuid? country = some country) (h : r.country = country) :
    StoredAs (fun id => isUuid id = true) country rows r (stored { r with deletedAt := none }) := by
  constructor
  case given => exact hid
  case unknown => exact hunknown
  case wellFormed => exact isUuid_asciiLower hid
  case country =>
    have hlower : Text.asciiLower country = country := by
      rw [uuid?, if_pos (isUuid_of_uuid? hcountry)] at hcountry
      exact Option.some.inj hcountry
    show Text.asciiLower r.country = country
    rw [h, hlower]
  case value => exact fun f => rfl

/-- Rows for records that are accepted have fresh ids. -/
theorem fresh_stored {seen records : List Record} (h : Accepts seen records) :
    Fresh seen (records.map stored) := by
  obtain ⟨hids, hunstored, hdistinct⟩ := h
  constructor
  case unstored =>
    intro a ha b hb e
    obtain ⟨r, hr, rfl⟩ := List.mem_map.1 ha
    have hsame := sameIgnoringCase_asciiLower (hids r hr).1
    rw [show Text.asciiLower r.id = b.id from e, hunstored r hr b hb] at hsame
    cases hsame
  case distinct =>
    refine List.pairwise_map.2 (hdistinct.imp fun hab e => ?_)
    exact ne_of_beq_false hab e

theorem ensures_select {c : Criterion} (hc : c.Each fun _ v => v ≠ "") {K : Contents}
    (hK : ∀ r ∈ K.seen, r.normalize = r) (hcountry : uuid? country = some country) :
    Ensures (fun st => st.contents = K)
      (database.select ⟨(Sql.select c).text, country :: (Sql.select c).values⟩) fun answer st =>
        st.contents = K ∧ ∀ rows found, answer = .ok rows → Row.records rows = .ok found →
          ∀ r, r ∈ found ↔ (r ∈ K.seen ∧ r.liveIn country = true) ∧ c.holds r = true := by
  show Ensures _ (Database.within _ _) _
  unfold Database.within
  split
  · rintro st rfl
    refine ⟨rfl, fun rows found hrows hfound r => ?_⟩
    obtain rfl := Except.ok.inj hrows
    rw [records_select hc hK hcountry] at hfound
    obtain rfl := Except.ok.inj hfound
    simp only [List.mem_filter, Bool.and_eq_true, and_assoc]
  · rintro st rfl
    refine ⟨rfl, fun rows found hrows => ?_⟩
    cases hrows

theorem ensures_execute {records : List Record} (hrecords : ∀ r ∈ records, r.country = country)
    (K : Contents) (hcountry : uuid? country = some country) :
    Ensures (fun st => st.contents = K) (database.execute (Sql.insert records)) fun answer st =>
      st.contents.committed = K.committed ∧ ∀ n, answer = .ok n →
        Grown (fun id => isUuid id = true) country K.seen records st.contents.seen := by
  have hread : readRecords ((Sql.insert records).values.length / Sql.valuesPerRecord)
      (Sql.insert records).values = records.map fun r => { r with deletedAt := none } := by
    rw [Sql.length_values_insert, Nat.mul_div_cancel _ (by decide)]
    exact readRecords_values records
  show Ensures _ (Database.within _ _) _
  unfold Database.within
  split
  · rintro st rfl
    show (enter _ st.contents).2.committed = _ ∧ ∀ n, (enter _ st.contents).1 = .ok n →
      Grown _ _ _ _ (enter _ st.contents).2.seen
    rw [hread, enter]
    split
    · next haccepts =>
      refine ⟨rfl, fun n _ => ⟨_, rfl, ?_, fresh_stored haccepts⟩⟩
      obtain ⟨hids, hunstored, -⟩ := haccepts
      rw [List.forall_mem_map] at hids hunstored
      rw [List.map_map, List.forall₂_map_right_iff, List.forall₂_same]
      exact fun r hr => storedAs (hids r hr).1 (hunstored r hr) hcountry (hrecords r hr)
    · refine ⟨rfl, fun n hn => ?_⟩
      cases hn
  · rintro st rfl
    refine ⟨rfl, fun n hn => ?_⟩
    cases hn

/-- The database of one table is faithful, whatever country is concerned. -/
theorem faithful (hcountry : uuid? country = some country) :
    Faithful database State.contents country fun id => isUuid id = true := by
  constructor
  case trim => exact fun id hid => trim_of_isUuid hid
  case connect => exact fun _ C st hst => hst
  case probe => exact fun _ C st hst => hst
  case begin =>
    rintro C st rfl
    exact ⟨rfl, fun _ => rfl⟩
  case commit =>
    rintro K st rfl
    exact .inr rfl
  case rollback =>
    rintro K st rfl
    rfl
  case select => exact fun c hc K hK => ensures_select hc hK hcountry
  case insert => exact fun records hrecords K => ensures_execute hrecords K hcountry

/-- The new id whose bytes tell a number. -/
def newId (n : Nat) : String :=
  Record.idOfBytes ((List.range 16).map fun i => UInt8.ofNat (n / 256 ^ (15 - i)))

/-- A host with the database of one table and one file. -/
def host (text : String) : Host (StateM State) where
  fileText _ := return some text
  print _ := return ()
  newId := modifyGet fun st => (newId st.given, { st with given := st.given + 1 })
  database := database

theorem beside (text : String) : Beside (host text) State.contents := by
  constructor
  case fileText => exact fun _ K st hst => hst
  case print => exact fun _ K st hst => hst
  case newId => exact fun K st hst => hst

end Registrar.Import.Table
