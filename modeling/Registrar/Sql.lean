import Registrar.Criterion.Basic

/-!
Statements for the database: a text with numbered placeholders and the values bound to them. The
text of a criterion is made of column names, placeholders and connectives; every value is bound,
so that no value ever stands in a text.
-/

namespace Registrar

/-- How many values the database takes with one statement. -/
def databaseLimit : Nat := 65535

namespace Sql

/-- A text with placeholders and the values for them. -/
structure Statement where
  text : String
  values : List String
  deriving DecidableEq, Repr

def Statement.fits (statement : Statement) : Bool := statement.values.length ≤ databaseLimit

def placeholder (n : Nat) : String := "$" ++ toString n

/-- Parts in parentheses with a connective between them; no parts make a falsehood. -/
def bracketed (connective : Connective) : List String → String
  | [] => "FALSE"
  | parts => "(" ++ String.intercalate (" " ++ connective.word ++ " ") parts ++ ")"

mutual

/-- The text of a criterion, its placeholders numbered from `first`. -/
def clause (first : Nat) : Criterion → String
  | .never => "FALSE"
  | .equals f _ => f.column ++ " = " ++ placeholder first
  | .any parts => bracketed .any (clauses first parts)
  | .all parts => bracketed .all (clauses first parts)

/-- The texts of criteria, their placeholders numbered on from one to the next. -/
def clauses (first : Nat) : List Criterion → List String
  | [] => []
  | c :: cs => clause first c :: clauses (first + c.size) cs

end

/-- The criterion as a statement, its placeholders numbered from `first`. -/
def ofCriterion (first : Nat) (c : Criterion) : Statement := ⟨clause first c, c.values⟩

/-- The criterion as a statement, where numbers are words of 64 bits. Behind each placeholder the
number of the next one is formed, and the program stops at one that is no word. -/
def ofCriterion? (first : Nat) (c : Criterion) : Option Statement :=
  if c.values.isEmpty || first + c.size < UInt64.size then some (ofCriterion first c) else none

/-! ### The table of registrations -/

def table : String := "individual_registrations"

def fieldColumns : String := String.intercalate ", " (Field.all.map Field.column)

/-- Asks for the live records of a country that a criterion matches, by id. The country is the
first value. -/
def select (c : Criterion) : Statement :=
  let condition := ofCriterion 2 c
  ⟨"SELECT id::text AS id, country_id::text AS country_id, " ++ fieldColumns ++
      ", deleted_at FROM " ++ table ++
      " WHERE country_id = $1::text::uuid AND deleted_at IS NULL AND " ++ condition.text ++
      " ORDER BY id",
    condition.values⟩

/-- How many values a stored record takes: its id, its country and the fields. -/
def valuesPerRecord : Nat := Field.all.length + 2

/-- The values of a record, in the order of the columns. -/
def recordValues (r : Record) : List String := r.id :: r.country :: Field.all.map r.value

/-- The placeholders of a record, numbered from `first`. -/
def recordPlaceholders (first : Nat) : String :=
  "(" ++ String.intercalate ", "
    ((placeholder first ++ "::text::uuid") :: (placeholder (first + 1) ++ "::text::uuid") ::
      (List.range Field.all.length).map fun i => placeholder (first + 2 + i)) ++ ")"

/-- Writes records as they are. -/
def insert (records : List Record) : Statement where
  text := "INSERT INTO " ++ table ++ " (id, country_id, " ++ fieldColumns ++ ") VALUES " ++
    String.intercalate ", "
      ((List.range records.length).map fun i => recordPlaceholders (1 + i * valuesPerRecord))
  values := records.flatMap recordValues

theorem values_select (c : Criterion) : (select c).values = c.values := rfl

theorem length_recordValues (r : Record) : (recordValues r).length = valuesPerRecord := by
  simp [recordValues, valuesPerRecord]

theorem length_values_insert (records : List Record) :
    (insert records).values.length = records.length * valuesPerRecord := by
  simp only [insert, List.length_flatMap, length_recordValues, List.map_const',
    List.sum_replicate_nat]

end Sql

end Registrar
