import Registrar.Registry.Basic

/-!
A registry held in memory. It stores the normal forms of its records by id, answers queries by
looking at each record, and counts the queries that it answered.
-/

namespace Registrar

/-- Records held in memory. -/
structure Held where
  records : List Record
  limit : Nat

namespace Held

def ofRecords (limit : Nat) (records : List Record) : Held where
  records := (records.map Record.normalize).mergeSort fun a b => decide (a.id ≤ b.id)
  limit := limit

theorem mem_ofRecords {limit : Nat} {records : List Record} {r : Record} :
    r ∈ (ofRecords limit records).records ↔ ∃ s ∈ records, s.normalize = r := by
  rw [ofRecords, (List.mergeSort_perm _ _).mem_iff, List.mem_map]

def rows (held : Held) (country : String) (c : Criterion) : List Record :=
  held.records.filter fun r => r.country == country && !r.isDeleted && c.holds r

def answer (held : Held) (country : String) (c : Criterion) :
    Noted (Except StoreError (List Record)) :=
  let required := c.size + 1
  if held.limit < required then .quiet (.error (.overLimit required held.limit))
  else
    let rows := held.rows country c
    ⟨[.recordsAsked country required rows.length], .ok rows⟩

/-- The registry; its state counts the queries that were within the limit. -/
def registry (held : Held) : Registry (StateM Nat) where
  limit := held.limit
  find country c := do
    if c.size + 1 ≤ held.limit then modify (· + 1)
    return held.answer country c

end Held

end Registrar
