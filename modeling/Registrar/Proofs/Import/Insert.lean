import Registrar.Proofs.Chunks.Runs
import Registrar.Proofs.Import.Watched
import Registrar.Proofs.Registry.Texts
import Registrar.Proofs.Sql.Insertion

/-!
What an insert writes. The records are cut into runs of as many as the limit has room for, since
each of them takes the same number of values; a statement is sent for each run, until one is refused
or the counts add up to no word (`Inserted`), which they never do where no statement counts more
rows than it has (`Inserted.ne_overflow`). The statements, read back, tell every record in normal
form, once and in order (`insert_writes_each_once`).
-/

namespace Registrar

variable {σ : Type} {db : Database (StateM σ)} {limit : Nat} {records : List Record} {st : σ}

namespace Database

/-! ### The runs of an insert -/

theorem insertChunks_eq_noRoom (hne : records ≠ []) (h : limit < Sql.valuesPerRecord) :
    insertChunks limit records = .error .noRoom := by
  rw [insertChunks, if_neg (by simpa using hne), Nat.div_eq_of_lt h]
  rfl

/-- A record more is still a word, so that no sum of records overflows. -/
theorem div_valuesPerRecord_lt (hlimit : limit < UInt64.size) :
    limit / Sql.valuesPerRecord + 1 < UInt64.size := by
  have hle : limit / Sql.valuesPerRecord ≤ limit / 2 := Nat.div_le_div_left (by decide) (by decide)
  have hsize : 2 < UInt64.size := by decide
  omega

theorem insertChunks_eq_runs (hlimit : limit < UInt64.size) (h : Sql.valuesPerRecord ≤ limit) :
    insertChunks limit records =
      .ok (Chunks.runs (limit / Sql.valuesPerRecord) (records.map Record.normalize)) := by
  have h0 : limit / Sql.valuesPerRecord ≠ 0 := (Nat.div_pos h (by decide)).ne'
  by_cases hne : records = []
  · rw [hne, List.map_nil, Chunks.runs_nil h0]
    rfl
  · rw [insertChunks, if_neg (by simpa using hne), Chunks.cut_units (div_valuesPerRecord_lt hlimit) h0]

/-! ### What an insert answers -/

def inserted (db : Database (StateM σ)) (limit : Nat) (records : List Record) (st : σ) :
    Except StoreError Nat :=
  ((db.insert limit records).run st).1.value

theorem inserted_eq_watched :
    db.inserted limit records st = ((db.watched.insert limit records).run (st, [])).1.value := by
  obtain ⟨more, h⟩ := @watches_insert σ db limit records st []
  rw [h]
  rfl

/-! ### Counts -/

/-- The counts add up to a word, where no statement is said to write more rows than it has. -/
theorem Inserted.ne_overflow {chunks : List (List Record)} {answer : Except StoreError Nat}
    (h : Inserted chunks answer acts) (hlength : chunks.flatten.length < UInt64.size)
    (hcounts : ∀ chunk n, .execute (Sql.insert chunk) (.ok n) ∈ acts → n ≤ chunk.length) :
    answer ≠ .error (.chunking .overflow) := by
  rintro rfl
  cases h with
  | overflowed sent chunk hbefore n hover =>
    have hsent : (sent.map (·.2)).sum ≤ (sent.map fun d => d.1.length).sum :=
      List.sum_le_sum fun d hd => hcounts d.1 d.2
        (List.mem_append_left _ (List.mem_map.2 ⟨d, hd, rfl⟩))
    have hlast : n ≤ chunk.length := hcounts chunk n (by simp)
    obtain ⟨rest, rfl⟩ := hbefore
    have hflat : ((sent.map (·.1) ++ [chunk] ++ rest).flatten).length =
        (sent.map fun d => d.1.length).sum + chunk.length + rest.flatten.length := by
      simp [List.length_flatten, Function.comp_def, Nat.add_assoc]
    omega

/-! ### What the statements write -/

theorem readBack_insertChunks {chunks : List (List Record)}
    (h : insertChunks limit records = .ok chunks) :
    Sql.readBack (chunks.map Sql.insert) = some (records.map fun r => r.normalize.live) := by
  rw [Sql.readBack_map_insert (ne_nil_of_insertChunks h), flatten_insertChunks h, List.map_map]
  rfl

/-- **An insert writes every record once.** A record takes 21 values. Without records nothing is
sent and nothing written; where the limit has no room for a record nothing is sent either, and the
insert fails. Otherwise the normal forms are cut into runs of as many records as the limit has room
for, a statement is sent for each run until one is refused, and what is told is the sum of the
counts or the reason of the refusal. The counts always add up to a word, if none of them is above
the number of records in its statement. No statement binds more values than the limit, and the
statements, read back, are the records in normal form, live, in order, each once. -/
theorem insert_writes_each_once (db : Database (StateM σ)) (limit : Nat) (records : List Record)
    (st : σ) (hlimit : limit < UInt64.size) :
    Sql.valuesPerRecord = 21 ∧
      (records = [] →
        db.inserted limit records st = .ok 0 ∧ db.insertActs limit records st = []) ∧
      (records ≠ [] → limit < 21 → db.inserted limit records st = .error (.chunking .noRoom) ∧
        db.insertActs limit records st = []) ∧
      (21 ≤ limit → ∃ chunks,
        Inserted chunks (db.inserted limit records st) (db.insertActs limit records st) ∧
        (records.length < UInt64.size →
          (∀ chunk n, .execute (Sql.insert chunk) (.ok n) ∈ db.insertActs limit records st →
            n ≤ chunk.length) →
          db.inserted limit records st ≠ .error (.chunking .overflow)) ∧
        chunks.length = (records.length + limit / 21 - 1) / (limit / 21) ∧
        (∀ k < chunks.length, chunks[k]? =
          some (((records.map Record.normalize).drop (k * (limit / 21))).take (limit / 21))) ∧
        (∀ chunk ∈ chunks, (Sql.insert chunk).values.length = chunk.length * 21 ∧
          (Sql.insert chunk).values.length ≤ limit) ∧
        Sql.readBack (chunks.map Sql.insert) = some (records.map fun r => r.normalize.live)) := by
  rw [inserted_eq_watched]
  refine ⟨rfl, ?_, fun hne h => insert_of_no_chunks (insertChunks_eq_noRoom hne h) st, fun h => ?_⟩
  · rintro rfl
    have hdone : Inserted [] _ (db.insertActs limit [] st) := inserted_watched rfl st
    generalize ((db.watched.insert limit []).run (st, [])).1.value = answer,
      db.insertActs limit [] st = acts at hdone ⊢
    cases hdone with
    | written sent hsent =>
      rw [List.map_eq_nil_iff.1 hsent]
      exact ⟨rfl, rfl⟩
    | refused sent chunk hbefore reason => simp at hbefore
    | overflowed sent chunk hbefore n hover => simp at hbefore
  · have hruns := @insertChunks_eq_runs limit records hlimit h
    refine ⟨_, inserted_watched hruns st, fun hsize => ?_, ?_, fun k hk => Chunks.getElem?_runs hk,
      fun chunk hchunk => ⟨Sql.length_values_insert chunk, length_values_le hruns hchunk⟩,
      readBack_insertChunks hruns⟩
    · refine (inserted_watched hruns st).ne_overflow ?_
      rwa [flatten_insertChunks hruns, List.length_map]
    · rw [Chunks.length_runs, List.length_map]
      rfl

/-- Of three records two are written with the first statement and one with the second. -/
theorem insert_writes_each_once_threeNamed :
    42 < UInt64.size ∧ willing.inserted 42 Held.threeNamed () = .ok 2 ∧ ∃ chunks,
      Inserted chunks (willing.inserted 42 Held.threeNamed ())
        (willing.insertActs 42 Held.threeNamed ()) ∧
      willing.inserted 42 Held.threeNamed () ≠ .error (.chunking .overflow) ∧
      chunks.map List.length = [2, 1] ∧
      Sql.readBack (chunks.map Sql.insert) = some (Held.threeNamed.map fun r => r.normalize.live) := by
  obtain ⟨-, -, -, hsent⟩ := insert_writes_each_once willing 42 Held.threeNamed () (by decide)
  obtain ⟨chunks, hinserted, hword, hlength, hslices, -, hread⟩ := hsent (by decide)
  obtain ⟨first, second, rfl⟩ := List.length_eq_two.1 hlength
  obtain rfl := Option.some.inj (hslices 0 (by simp))
  obtain rfl := Option.some.inj (hslices 1 (by simp))
  refine ⟨by decide, rfl, _, hinserted, hword (by decide) fun chunk n hact => ?_, rfl, hread⟩
  -- each of the two statements counts one row, and has one
  have hcount : ∀ act ∈ willing.insertActs 42 Held.threeNamed (), act.count = 1 := by decide
  have hvalues : ∀ q ∈ (willing.insertActs 42 Held.threeNamed ()).filterMap Act.executed?,
      0 < q.values.length := by decide
  obtain rfl : n = 1 := hcount _ hact
  have hrow := hvalues (Sql.insert chunk) (List.mem_filterMap.2 ⟨_, hact, rfl⟩)
  rw [Sql.length_values_insert] at hrow
  exact Nat.pos_of_mul_pos_right hrow

end Database

end Registrar
