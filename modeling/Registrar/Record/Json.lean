import Registrar.Instant.Text
import Registrar.Json.Reader
import Registrar.Json.Writer
import Registrar.Record

/-!
Records and batches as JSON. A record is written as an object with all its names. It is read from
an object in which names may be missing, stand in any order, or be foreign, or from an array of
its parts in the written order, later ones missing. A name of its own may stand in an object once
only, and every name has to be a text.
-/

namespace Registrar.Record

/-- The names of a record's parts, in the written order. -/
def names : List String := "id" :: "country_id" :: (Field.all.map Field.column ++ ["deleted_at"])

/-! ### Writing -/

def members (r : Record) : List (String × Json) :=
  ("id", .text r.id) :: ("country_id", .text r.country) ::
    (Field.all.map (fun f => (f.column, Json.text (r.value f))) ++
      [("deleted_at", match r.deletedAt with
        | some t => .text t.render
        | none => .null)])

def toJson (r : Record) : Json := .members r.members

/-! ### Reading -/

/-- What an object says of a name: nothing, or one value; none, where it says more. -/
def said? (ms : List (Option String × Json)) (name : String) : Option (Option Json) :=
  match ms.filter fun m => m.1 == some name with
  | [] => some none
  | [(_, v)] => some (some v)
  | _ => none

/-- The text that an object gives for a name; the empty one, if it says nothing of it. -/
def text? (ms : List (Option String × Json)) (name : String) : Option String :=
  match said? ms name with
  | some none => some ""
  | some (some (.string s)) => s
  | _ => none

/-- The instant that an object gives for a name, if it gives one. -/
def instant? (ms : List (Option String × Json)) (name : String) : Option (Option Instant) :=
  match said? ms name with
  | some none | some (some .null) => some none
  | some (some (.string (some s))) => (Instant.read? s).map some
  | _ => none

/-- The record that an object with the given members tells. -/
def ofMembers? (ms : List (Option String × Json)) : Option Record := do
  guard (ms.all fun m => m.1.isSome)
  let id ← text? ms "id"
  let country ← text? ms "country_id"
  let texts ← Field.all.mapM fun f => text? ms f.column
  let deletedAt ← instant? ms "deleted_at"
  return ⟨id, country, .ofFn fun f => texts.getD f.index "", deletedAt⟩

def ofJson? : Json → Option Record
  | .object ms => ofMembers? ms
  | .array items =>
    if items.length ≤ names.length then ofMembers? (names.zip items |>.map fun m => (some m.1, m.2))
    else none
  | _ => none

end Registrar.Record

namespace Registrar.Batch

def toJson (batch : List Record) : Json := .array (batch.map Record.toJson)

def ofJson? : Json → Option (List Record)
  | .array items => items.mapM Record.ofJson?
  | _ => none

def read? (text : String) : Option (List Record) := (Json.read? text).bind ofJson?

end Registrar.Batch
