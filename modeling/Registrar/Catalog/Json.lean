import Registrar.Catalog
import Registrar.Json.Value

/-!
Fields, connectives and groups as JSON. A field is known by its tag and a connective by its words,
capitals only. Either may also be written as an object with that one name and nothing for it.
-/

namespace Registrar

/-- The name that a value gives for a choice: a text, or an object with that one name and null. -/
def Json.choice? : Json → Option String
  | .string s => s
  | .object [(name, .null)] => name
  | _ => none

namespace Field

def ofJson? (v : Json) : Option Field := v.choice?.bind ofTag?

end Field

namespace Connective

def ofJson? (v : Json) : Option Connective := v.choice?.bind ofWord?

end Connective

namespace FieldGroup

def toJson (g : FieldGroup) : Json :=
  .members [
    ("id", .text g.id),
    ("label", .text g.label),
    ("columns", .texts (g.fields.map Field.tag)),
    ("combinator", .text g.connective.word),
    ("order", .nat g.order),
    ("default_selected", .bool g.preselected)]

end FieldGroup

namespace Catalog

def choices (catalog : Catalog) : Json :=
  .array (catalog.groups.map fun g =>
    .members [
      ("id", .text g.id), ("label", .text g.label), ("default_selected", .bool g.preselected)])

end Catalog

end Registrar
