import Registrar.Text.Quoted

/-!
What a run notes down. Each event has a level and a line; lines that tell how long the run has
taken get the seconds from outside. A value can carry the events that were noted while it was
made.
-/

namespace Registrar

/-- How much an event matters. -/
inductive Level
  | debug
  | info
  | warn
  deriving DecidableEq, Repr

/-- Something worth noting. -/
inductive Event
  /-- A limit from the environment is no usable number. -/
  | limitIgnored (raw : String) (fallback : Nat)
  /-- A connective from the environment is none. -/
  | connectiveIgnored (reason : String)
  | settingsRead (limit : Nat) (connective : String) (groups : List String)
  | selectionMade (groups : List String) (connective : String)
  | checkStarted (candidates : Nat) (country : String) (groups : List String) (connective : String)
  | phaseEntered (phase : String) (detail : Option String)
  | batchScanned (candidates pairs : Nat)
  | pairsFound (pairs : Nat)
  | candidateSplit (candidate parts : Nat)
  | lookupPlanned (probes budget : Nat)
  /-- A registry held in memory was asked. -/
  | recordsAsked (country : String) (values rows : Nat)
  /-- A table of a database is asked. -/
  | tableAsked (table : String) (values : Nat)
  | queryAnswered (query values rows : Nat)
  | checkDone (pairs persisted : Nat)
  | insertSent (batch rows values : Nat)
  | insertDone (rows : Nat) (table : String)
  deriving DecidableEq, Repr

namespace Event

def level : Event → Level
  | limitIgnored .. | connectiveIgnored .. | candidateSplit .. => .warn
  | checkStarted .. | phaseEntered .. | lookupPlanned .. | checkDone .. | insertDone .. => .info
  | pairsFound pairs => if 0 < pairs then .info else .debug
  | settingsRead .. | selectionMade .. | batchScanned .. | recordsAsked .. | tableAsked .. |
    queryAnswered .. | insertSent .. => .debug

/-- The line of an event, `elapsed` being the seconds since the run began. -/
def line (elapsed : String) : Event → String
  | limitIgnored raw fallback =>
    "Ignoring DEDUP_MAX_QUERY_PARAMS=" ++ Text.quoted raw ++ s!", using {fallback}"
  | connectiveIgnored reason => s!"Ignoring DEDUP_DEFAULT_OPERATOR: {reason}"
  | settingsRead limit connective groups =>
    s!"Dedup settings: DedupSettings \x7b max_query_params: {limit}, " ++
    s!"default_operator: {connective}, default_groups: " ++ Text.quotedList groups ++ " \x7d"
  | selectionMade groups connective =>
    "Built dedup config: groups=" ++ Text.quotedList groups ++ s!", operator={connective}"
  | checkStarted candidates country groups connective =>
    s!"[DEDUP] 🚀 Checking {candidates} candidates for country {country} (groups: " ++
    String.intercalate ", " groups ++ s!", operator: {connective})"
  | phaseEntered phase none => s!"[DEDUP] 🔄 Phase: {phase} [+{elapsed}s]"
  | phaseEntered phase (some detail) => s!"[DEDUP] 🔄 Phase: {phase} - {detail} [+{elapsed}s]"
  | batchScanned candidates pairs =>
    s!"Batch scan: {candidates} candidates, {pairs} duplicate pairs"
  | pairsFound pairs =>
    if 0 < pairs then s!"[DEDUP] 📋 Found {pairs} duplicate pairs within the batch"
    else "[DEDUP] ✨ No duplicates within the batch"
  | candidateSplit candidate parts =>
    s!"[DEDUP] ✂️  Candidate {candidate} exceeds the per-query parameter budget, " ++
    s!"looked up in {parts} part(s)"
  | lookupPlanned probes budget =>
    s!"[DEDUP] ⚙️  Looking up {probes} candidate predicates ({budget} parameters per query max)"
  | recordsAsked country values rows =>
    s!"In-memory query for country {country} with {values} params returned {rows} rows"
  | tableAsked table values => s!"Querying {table} with {values} parameters"
  | queryAnswered query values rows =>
    s!"[DEDUP] 🔍 Query {query}: {values} parameters, {rows} rows [+{elapsed}s]"
  | checkDone pairs persisted =>
    s!"[DEDUP] ✅ Done in {elapsed}s: {pairs} in-file pairs, " ++
    s!"{persisted} candidates with persisted duplicates"
  | insertSent batch rows values =>
    s!"Insert batch {batch}: {rows} rows, {values} parameters"
  | insertDone rows table => s!"Inserted {rows} individuals into {table}"

end Event

/-- A value with the events noted while it was made, the first one first. -/
structure Noted (α : Type) where
  events : List Event
  value : α

namespace Noted

variable {α β : Type}

def quiet (a : α) : Noted α := ⟨[], a⟩

def map (f : α → β) (x : Noted α) : Noted β := ⟨x.events, f x.value⟩

def andThen (x : Noted α) (f : α → Noted β) : Noted β :=
  ⟨x.events ++ (f x.value).events, (f x.value).value⟩

end Noted

end Registrar
