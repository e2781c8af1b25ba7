import Mathlib.Data.List.Nodup
import Registrar.Proofs.Criterion.Join
import Registrar.Proofs.Sql.Tokens

/-!
Reading the texts of criteria. The text of a criterion is read as the condition that repeats the
tree of the criterion, wherever it stands (`readable`), and names one placeholder after another
(`placeholders_clause`). In the statement of a query it stays inside the condition on the country
and on withdrawal, whatever connectives it is made of (`where?_select`).
-/

namespace Registrar.Sql

/-! ### Reading the text of a criterion -/

/-- Conditions joined by a connective, from left to right. -/
def chain (k : Connective) : List Condition → Condition
  | [] => .falsehood
  | e :: es => es.foldl (.joined k) e

mutual

/-- The condition that repeats the tree of a criterion. -/
def conditionOf (first : Nat) : Criterion → Condition
  | .never => .falsehood
  | .equals f _ => .equals f.column first []
  | .any parts => chain .any (conditionsOf first parts)
  | .all parts => chain .all (conditionsOf first parts)

def conditionsOf (first : Nat) : List Criterion → List Condition
  | [] => []
  | c :: cs => conditionOf first c :: conditionsOf (first + c.size) cs

end

/-- The text of the criterion is read as its condition, wherever it stands. -/
def Readable (c : Criterion) : Prop :=
  ∀ first around frame ts, readOperand around frame (tokens (clause first c) ++ ts) =
    readAfter around frame (conditionOf first c) ts

theorem tokens_false : tokens "FALSE" = [.falseWord] := by decide

theorem tokens_equation (f : Field) (n : Nat) :
    tokens (f.column ++ " = " ++ placeholder n) =
      [.name f.column, .equals, .placeholder n []] := by
  have blank : endsWord ' ' = true := by decide
  have hequals : tokens (" = " ++ placeholder n) = .equals :: tokens (placeholder n) := by
    unfold tokens
    rw [String.toList_append]
    rfl
  rw [String.append_assoc, tokens_append blank _ ('=' :: ' ' :: (placeholder n).toList)
    (by simp), hequals, tokens_column, tokens_placeholder]
  rfl

namespace Frame

/-- Only the given connective was met in the frame. -/
def Only : Connective → Frame → Prop
  | .all, frame => frame.disjunction = none
  | .any, frame => frame.conjunction = none

theorem only_empty (k : Connective) : empty.Only k := by cases k <;> rfl

theorem only_next {k : Connective} {frame : Frame} (h : frame.Only k) (e : Condition) :
    (frame.next e k).Only k := by
  cases k with
  | all => exact h
  | any => rfl

theorem whole_next {k : Connective} {frame : Frame} (h : frame.Only k) (e e' : Condition) :
    (frame.next e k).whole e' = .joined k (frame.whole e) e' := by
  obtain ⟨disjunction, conjunction⟩ := frame
  cases k with
  | all =>
    obtain rfl : disjunction = none := h
    rfl
  | any =>
    obtain rfl : conjunction = none := h
    rfl

end Frame

/-- The parts after the first one, up to the closing bracket. -/
theorem readAfter_clauses {k : Connective} {cs : List Criterion} (hcs : ∀ c ∈ cs, Readable c)
    (first : Nat) (around : List Frame) (outer frame : Frame) (hframe : frame.Only k)
    (e : Condition) (ts : List Token) :
    readAfter (outer :: around) frame e
        ((clauses first cs).flatMap (fun q => .joiner k :: tokens q) ++ .closing :: ts) =
      readAfter around outer ((conditionsOf first cs).foldl (.joined k) (frame.whole e)) ts := by
  induction cs generalizing first frame e with
  | nil => rw [clauses, conditionsOf, List.flatMap_nil, List.nil_append, readAfter]; rfl
  | cons c cs ih =>
    have hc : Readable c := hcs c (.head _)
    rw [clauses, conditionsOf, List.flatMap_cons, List.cons_append, List.cons_append,
      List.append_assoc, readAfter, hc,
      ih (fun d hd => hcs d (.tail _ hd)) _ _ (Frame.only_next hframe e),
      Frame.whole_next hframe, List.foldl_cons]

theorem readable_bracketed {k : Connective} {ps : List Criterion} (hps : ∀ p ∈ ps, Readable p)
    (first : Nat) (around : List Frame) (frame : Frame) (ts : List Token) :
    readOperand around frame (tokens (bracketed k (clauses first ps)) ++ ts) =
      readAfter around frame (chain k (conditionsOf first ps)) ts := by
  cases ps with
  | nil =>
    rw [clauses, conditionsOf, chain, bracketed, tokens_false]
    rfl
  | cons p ps =>
    have hp : Readable p := hps p (.head _)
    rw [clauses, conditionsOf, chain, tokens_bracketed, List.cons_append, List.cons_append,
      readOperand, List.append_assoc, List.append_assoc, hp,
      List.singleton_append, readAfter_clauses (fun q hq => hps q (.tail _ hq)) _ _ _ _
        (Frame.only_empty k)]
    rfl

theorem readable (c : Criterion) : Readable c := by
  induction c using Criterion.ind with
  | never =>
    intro first around frame ts
    rw [clause, conditionOf, tokens_false]
    rfl
  | equals f v =>
    intro first around frame ts
    rw [clause, tokens_equation, conditionOf]
    rfl
  | any ps ih =>
    intro first around frame ts
    rw [clause, conditionOf]
    exact readable_bracketed ih first around frame ts
  | all ps ih =>
    intro first around frame ts
    rw [clause, conditionOf]
    exact readable_bracketed ih first around frame ts

/-! ### Placeholders -/

theorem filterMap_clauses (k : Connective) (ps : List String) :
    (ps.flatMap fun q => .joiner k :: tokens q).filterMap Token.number? =
      ps.flatMap placeholders := by
  induction ps with
  | nil => rfl
  | cons p ps ih =>
    rw [List.flatMap_cons, List.flatMap_cons, List.filterMap_append, ih,
      List.filterMap_cons_none rfl]
    rfl

theorem placeholders_bracketed (k : Connective) (ps : List String) :
    placeholders (bracketed k ps) = ps.flatMap placeholders := by
  cases ps with
  | nil =>
    rw [bracketed, placeholders, tokens_false]
    rfl
  | cons p ps =>
    rw [placeholders, tokens_bracketed, List.cons_append, List.filterMap_cons_none rfl,
      List.filterMap_append, List.filterMap_append, filterMap_clauses, List.flatMap_cons]
    exact List.append_nil _

theorem flatMap_placeholders_clauses {cs : List Criterion}
    (h : ∀ c ∈ cs, ∀ first, placeholders (clause first c) = List.range' first c.size) (first : Nat) :
    (clauses first cs).flatMap placeholders =
      List.range' first (cs.map Criterion.size).sum := by
  induction cs generalizing first with
  | nil => rfl
  | cons c cs ih =>
    have hc := h c (.head _) first
    rw [clauses, List.flatMap_cons, hc, ih (fun d hd => h d (.tail _ hd)), List.map_cons,
      List.sum_cons, List.range'_append_1]

theorem placeholders_clause (c : Criterion) (first : Nat) :
    placeholders (clause first c) = List.range' first c.size := by
  induction c using Criterion.ind generalizing first with
  | never =>
    rw [clause, placeholders, tokens_false, Criterion.size_never]
    rfl
  | equals f v =>
    rw [clause, placeholders, tokens_equation, Criterion.size_equals]
    rfl
  | any ps ih =>
    rw [clause, placeholders_bracketed, flatMap_placeholders_clauses ih, Criterion.size_any]
  | all ps ih =>
    rw [clause, placeholders_bracketed, flatMap_placeholders_clauses ih, Criterion.size_all]

/-! ### Statements -/

theorem condition?_clause (first : Nat) (c : Criterion) :
    condition? (clause first c) = some (conditionOf first c) := by
  have h := readable c first [] .empty []
  rw [List.append_nil] at h
  rw [condition?, h]
  rfl

/-- The condition of a query: the country, nothing in the column of withdrawals, the criterion. -/
def selectCondition (c : Criterion) : Condition :=
  .joined .all
    (.joined .all (.equals "country_id" 1 ["text", "uuid"]) (.isNull "deleted_at"))
    (conditionOf 2 c)

/-- Evaluation needs the characters piece by piece. -/
theorem toList_fieldColumns : fieldColumns.toList =
    ", ".toList.intercalate (Field.all.map fun f => f.column.toList) := by
  rw [fieldColumns, String.toList_intercalate, List.map_map]
  rfl

/-- A query up to the text of its criterion. -/
def selectHead : String :=
  "SELECT id::text AS id, country_id::text AS country_id, " ++ fieldColumns ++
    ", deleted_at FROM " ++ table ++
    " WHERE country_id = $1::text::uuid AND deleted_at IS NULL AND"

theorem dropWhile_selectHead : (tokens selectHead).dropWhile (· ≠ .whereWord) =
    [.whereWord, .name "country_id", .equals, .placeholder 1 ["text", "uuid"], .joiner .all,
      .name "deleted_at", .isWord, .nullWord, .joiner .all] := by
  have hlist : selectHead.toList =
      "SELECT id::text AS id, country_id::text AS country_id, ".toList ++
        ", ".toList.intercalate (Field.all.map fun f => f.column.toList) ++
        ", deleted_at FROM ".toList ++ table.toList ++
        " WHERE country_id = $1::text::uuid AND deleted_at IS NULL AND".toList := by
    unfold selectHead
    rw [String.toList_append, String.toList_append, String.toList_append, String.toList_append,
      toList_fieldColumns]
  rw [tokens, hlist]
  decide +kernel

theorem tokens_select (c : Criterion) : tokens (select c).text =
    tokens selectHead ++ tokens (clause 2 c) ++ [.orderWord, .name "BY", .name "id"] := by
  have blank : endsWord ' ' = true := by decide
  have htext : (select c).text = selectHead ++ (" " ++ clause 2 c) ++ " ORDER BY id" :=
    congrArg (· ++ " ORDER BY id")
      (append_blank _ " WHERE country_id = $1::text::uuid AND deleted_at IS NULL AND" _)
  have horder : tokens " ORDER BY id" = [.orderWord, .name "BY", .name "id"] := by decide +kernel
  rw [htext, tokens_append blank _ "ORDER BY id".toList rfl,
    tokens_append blank selectHead (clause 2 c).toList (by simp), tokens_blank, horder]

theorem where?_select (c : Criterion) : where? (select c).text = some (selectCondition c) := by
  have hclause := readable c 2 [] ⟨none, some (.joined .all
    (.equals "country_id" 1 ["text", "uuid"]) (.isNull "deleted_at"))⟩
    [.orderWord, .name "BY", .name "id"]
  rw [where?, tokens_select, List.append_assoc, List.dropWhile_append, dropWhile_selectHead]
  exact hclause

end Registrar.Sql
