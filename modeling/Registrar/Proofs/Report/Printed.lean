import Registrar.Proofs.Record.Json
import Registrar.Report.Findings

/-!
What a reader finds in printed findings. They are one value of JSON over several lines. Read back,
it shows every message under its name, with its text and all of its lines, in order
(`shown?_printed`).
-/

namespace Registrar

namespace Json

def member? (name : String) : Json → Option Json
  | object ms => ms.lookup (some name)
  | _ => none

def text? : Json → Option String
  | string s => s
  | _ => none

theorem text?_text (s : String) : (text s).text? = some s := rfl

def list? : Json → Option (List Json)
  | array vs => some vs
  | _ => none

theorem readable_texts (ss : List String) : Readable (.texts ss) :=
  readable_array (List.forall_mem_map.2 fun s _ => readable_text s)

end Json

namespace Message

/-- The message that a value shows. -/
def shown? (v : Json) : Option Message := do
  let text ← (← v.member? "message").text?
  let details ← (← (← v.member? "details").list?).mapM Json.text?
  return ⟨text, details⟩

theorem shown?_toJson (m : Message) : shown? m.toJson = some m := by
  have hdetails : (m.details.map Json.text).mapM Json.text? = some m.details :=
    mapM_eq_some (List.forall₂_map_left_iff.2 (List.forall₂_same.2 fun d _ => Json.text?_text d))
  show ((m.details.map Json.text).mapM Json.text?).bind _ = _
  rw [hdetails]
  rfl

theorem readable_toJson (m : Message) : m.toJson.Readable := by
  refine Json.readable_members (List.forall_mem_cons.2 ⟨Json.readable_text _, ?_⟩)
  exact List.forall_mem_singleton.2 (Json.readable_texts _)

end Message

theorem Report.readable_toJson (report : Report) : report.toJson.Readable := by
  refine Json.readable_members (List.forall_mem_cons.2 ⟨?_, List.forall_mem_singleton.2 ?_⟩)
  · refine Json.readable_array (List.forall_mem_map.2 fun places _ => ?_)
    exact Json.readable_array (List.forall_mem_map.2 fun i _ => Json.readable_nat i)
  · refine Json.readable_array (List.forall_mem_map.2 fun records _ => ?_)
    exact Json.readable_array (List.forall_mem_map.2 fun r _ => r.readable_toJson)

namespace Findings

/-- The messages that a printed text shows. -/
def shown? (printed : String) : Option (List Message) := do
  let findings ← Json.read? printed
  (← (← findings.member? "messages").list?).mapM Message.shown?

theorem readable_toJson (findings : Findings) : findings.toJson.Readable := by
  refine Json.readable_members ?_
  simp only [List.forall_mem_cons]
  refine ⟨Json.readable_texts _, Json.readable_text _, findings.report.readable_toJson,
    Json.readable_array (List.forall_mem_map.2 fun m _ => m.readable_toJson), ?_⟩
  simp

/-- Printed findings show their messages. -/
theorem shown?_printed (findings : Findings) :
    shown? (findings.toJson.pretty ++ "\n") = some findings.messages := by
  rw [shown?, Json.read?_pretty_newline findings.readable_toJson]
  refine mapM_eq_some (List.forall₂_map_left_iff.2 (List.forall₂_same.2 fun m _ => ?_))
  exact m.shown?_toJson

end Findings

end Registrar
