import Registrar.Chunks
import Registrar.Criterion.Basic

/-!
A registry of registrations as the search for duplicates needs it: it answers which live records
of a country satisfy a criterion, as long as the query binds no more values than the registry
takes.
-/

namespace Registrar

/-- Why a registry gave no answer. -/
inductive StoreError
  /-- The statement binds more values than the registry takes. -/
  | overLimit (required limit : Nat)
  | chunking (cause : CutError)
  /-- The database refused, or its answer made no sense. -/
  | database (reason : String)
  deriving DecidableEq, Repr

def StoreError.message : StoreError → String
  | overLimit required limit =>
    s!"Query needs {required} bound parameters but the store allows {limit}"
  | chunking cause => "Chunking error: " ++ cause.message
  | database reason => "Database error: " ++ reason

structure Registry (m : Type → Type) where
  /-- How many values one query may bind, the country among them. -/
  limit : Nat
  /-- The records of a country that satisfy a criterion. -/
  find : (country : String) → Criterion → m (Noted (Except StoreError (List Record)))

end Registrar
