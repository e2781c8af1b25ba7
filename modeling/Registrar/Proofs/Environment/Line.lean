import Mathlib.Data.List.Basic
import Registrar.Environment.Line
import Registrar.Proofs.Text.Strip

/-!
What a line of a file of variables says, whatever the names in its value stand for. Names change the
value that is read, but neither the place where the reading stands nor whether marks are open; so
whether a line makes sense, and which name it gives a value to, is settled by the line alone
(`outline_readLine`). And if nothing that is read holds a NUL, then no value does
(`NulFree.readLine`), since an escape never stands for one.
-/

namespace Registrar.Environment

/-! ### Readings that differ in the value -/

/-- The readings stand at one place and inside the same marks. -/
def SamePlace (s t : Reading) : Prop := s.place = t.place ∧ s.double = t.double

section Place

variable {mean mean' : List Char → List Char} {s t : Reading} {c : Char}

theorem SamePlace.isSome_finish (h : SamePlace s t) :
    (finish mean s).isSome = (finish mean' t).isSome := by
  unfold finish
  rw [h.1, h.2]
  split
  · rfl
  · cases t.place <;> rfl

theorem SamePlace.stepOpen (h : SamePlace s t) : SamePlace (stepOpen s c) (stepOpen t c) := by
  obtain ⟨hplace, hdouble⟩ := h
  unfold Environment.stepOpen
  rw [hdouble]
  split_ifs <;> exact ⟨by simp [hplace], by simp⟩

theorem SamePlace.stepName (h : SamePlace s t) (read : List Char) :
    SamePlace (stepName mean s read c) (stepName mean' t read c) := by
  obtain ⟨hplace, hdouble⟩ := h
  unfold Environment.stepName
  dsimp only
  split_ifs <;> exact ⟨by simp, by simp [hdouble]⟩

/-- Whether a value is read does not depend on what names stand for. -/
theorem SamePlace.isSome_readValue (h : SamePlace s t) (cs : List Char) :
    (readValue mean s cs).isSome = (readValue mean' t cs).isSome := by
  induction cs generalizing s t with
  | nil => exact h.isSome_finish
  | cons c rest ih =>
    -- both readings go to the same place, whatever they put into their values
    unfold readValue
    rw [h.1]
    cases hplace : t.place with
    | «open» => exact ih h.stepOpen
    | escape =>
      cases escape? c with
      | none => rfl
      | some e => exact ih ⟨rfl, h.2⟩
    | single =>
      dsimp only
      split
      · exact ih ⟨rfl, h.2⟩
      · exact ih ⟨rfl, h.2⟩
    | name read => exact ih (h.stepName read)
    | braced read =>
      dsimp only
      split
      · exact ih ⟨rfl, h.2⟩
      · exact ih ⟨rfl, h.2⟩
    | done =>
      dsimp only
      split_ifs
      · exact ih h
      · exact h.isSome_finish
      · rfl

end Place

/-! ### Lines without their values -/

/-- What is said, apart from the value. -/
def Line.outline : Line → Line
  | .variable name _ => .variable name none
  | .nothing => .nothing
  | .malformed => .malformed

/-- What a line says, apart from the value. -/
def outline (cs : List Char) : Line := (readLine [] [] cs).outline

/-- Whether a line makes sense and which name it gives a value to does not depend on the values
before it. -/
theorem outline_readLine (env : Environment) (given : Given) (cs : List Char) :
    (readLine env given cs).outline = outline cs := by
  have hsome := @SamePlace.isSome_readValue (meaning env given) (meaning [] []) ⟨.open, false, []⟩
    ⟨.open, false, []⟩ ⟨rfl, rfl⟩
  unfold outline readLine
  split
  · rfl
  · rfl
  · cases assignment? (Text.stripBoth Text.isBlank cs) with
    | none => rfl
    | some assigned =>
      obtain ⟨name, rest⟩ := assigned
      dsimp only
      split
      · rfl
      · rfl
      · -- a value that is not read makes the line malformed, in both or in neither
        have h := hsome rest
        cases hl : readValue (meaning env given) ⟨.open, false, []⟩ rest with
        | none =>
          rw [hl, Option.isSome_none, eq_comm, Option.isSome_eq_false_iff,
            Option.isNone_iff_eq_none] at h
          rw [h]
        | some v =>
          rw [hl, Option.isSome_some, eq_comm, Option.isSome_iff_exists] at h
          obtain ⟨w, hw⟩ := h
          rw [hw]
          rfl

/-! ### Lines without a NUL -/

section NulFree

variable {mean : List Char → List Char} {s : Reading} {c : Char} {cs value : List Char}

theorem ne_nul_of_escape? {e : Char} (h : escape? c = some e) : e ≠ '\x00' := by
  unfold escape? at h
  split_ifs at h with hmark hn
  · cases h
    rintro rfl
    revert hmark
    decide
  · cases h
    decide

/-- What names stand for and what was read hold no NUL. -/
structure Reading.NulFree (mean : List Char → List Char) (s : Reading) : Prop where
  mean : ∀ name, '\x00' ∉ mean name
  value : '\x00' ∉ s.value

theorem Reading.NulFree.finish (h : s.NulFree mean) (hv : finish mean s = some value) :
    '\x00' ∉ value := by
  unfold Environment.finish at hv
  split at hv
  · cases hv
  · split at hv
    · cases hv
    · cases hv
    · next read _ =>
      cases hv
      simp [h.value, h.mean read.reverse]
    all_goals
      cases hv
      simp [h.value]

theorem Reading.NulFree.stepOpen (h : s.NulFree mean) (hc : '\x00' ≠ c) :
    (stepOpen s c).NulFree mean := by
  refine ⟨h.mean, ?_⟩
  unfold Environment.stepOpen
  split_ifs <;> simp [h.value, hc]

theorem Reading.NulFree.stepName (h : s.NulFree mean) (hc : '\x00' ≠ c) (read : List Char) :
    (stepName mean s read c).NulFree mean := by
  refine ⟨h.mean, ?_⟩
  unfold Environment.stepName
  dsimp only
  split_ifs <;> simp [h.value, h.mean read.reverse, hc]

/-- A value is read without a NUL if the line holds none, nor what names in it stand for. -/
theorem Reading.NulFree.readValue (h : s.NulFree mean) (hcs : '\x00' ∉ cs)
    (hv : readValue mean s cs = some value) : '\x00' ∉ value := by
  induction cs generalizing s with
  | nil => exact h.finish hv
  | cons c rest ih =>
    rw [List.mem_cons, not_or] at hcs
    obtain ⟨hc, hrest⟩ := hcs
    unfold Environment.readValue at hv
    cases hplace : s.place with
    | «open» =>
      rw [hplace] at hv
      exact ih (h.stepOpen hc) hrest hv
    | escape =>
      rw [hplace] at hv
      dsimp only at hv
      cases he : escape? c with
      | none => simp [he] at hv
      | some e =>
        rw [he] at hv
        exact ih ⟨h.mean, by simp [h.value, (ne_nul_of_escape? he).symm]⟩ hrest hv
    | single =>
      rw [hplace] at hv
      dsimp only at hv
      split_ifs at hv
      · have hopen : Reading.NulFree mean { s with place := .open } := ⟨h.mean, h.value⟩
        exact ih hopen hrest hv
      · exact ih ⟨h.mean, by simp [h.value, hc]⟩ hrest hv
    | name read =>
      rw [hplace] at hv
      exact ih (h.stepName hc read) hrest hv
    | braced read =>
      rw [hplace] at hv
      dsimp only at hv
      split_ifs at hv
      · exact ih ⟨h.mean, by simp [h.value, h.mean read.reverse]⟩ hrest hv
      · have hbraced : Reading.NulFree mean { s with place := .braced (c :: read) } :=
          ⟨h.mean, h.value⟩
        exact ih hbraced hrest hv
    | done =>
      rw [hplace] at hv
      dsimp only at hv
      split_ifs at hv
      · exact ih h hrest hv
      · exact h.finish hv

theorem skip_subset (cs : List Char) : skip cs ⊆ cs := List.dropWhile_subset _

theorem of_name?_eq_some {name rest : List Char} (h : name? cs = some (name, rest)) :
    name ⊆ cs ∧ rest ⊆ cs := by
  unfold name? at h
  split at h
  · split_ifs at h
    cases h
    exact ⟨(List.takeWhile_sublist _).subset,
      List.Subset.trans (skip_subset _) (List.dropWhile_subset _)⟩
  · cases h

theorem of_afterEquals?_eq_some {rest : List Char} (h : afterEquals? cs = some rest) :
    rest ⊆ cs := by
  unfold afterEquals? at h
  split at h
  · cases h
    exact List.Subset.trans (skip_subset _) (List.subset_cons_self _ _)
  · cases h

/-- The name and the value of a line are parts of it. -/
theorem of_assignment?_eq_some {name rest : List Char} (h : assignment? cs = some (name, rest)) :
    name ⊆ cs ∧ rest ⊆ cs := by
  unfold assignment? at h
  obtain ⟨⟨first, behind⟩, hfirst, h⟩ := Option.bind_eq_some_iff.1 h
  obtain ⟨hname, hbehind⟩ := of_name?_eq_some hfirst
  dsimp only at h
  split at h
  · next value hvalue =>
    cases h
    exact ⟨hname, List.Subset.trans (of_afterEquals?_eq_some hvalue) hbehind⟩
  · split_ifs at h
    obtain ⟨⟨second, behind'⟩, hsecond, h⟩ := Option.bind_eq_some_iff.1 h
    obtain ⟨value, hvalue, h⟩ := Option.bind_eq_some_iff.1 h
    cases h
    obtain ⟨hname', hbehind'⟩ := of_name?_eq_some hsecond
    have hvalue' := List.Subset.trans (of_afterEquals?_eq_some hvalue) hbehind'
    exact ⟨List.Subset.trans hname' hbehind, List.Subset.trans hvalue' hbehind⟩

end NulFree

/-- No variable of the environment holds a NUL, and no value that a file gave so far. -/
structure NulFree (env : Environment) (given : Given) : Prop where
  env : ∀ v ∈ env, '\x00' ∉ v.1.toList ∧ '\x00' ∉ v.2.toList
  given : ∀ name value, (name, some value) ∈ given → '\x00' ∉ value.toList

theorem NulFree.meaning {env : Environment} {given : Given} (h : NulFree env given)
    (name : List Char) : '\x00' ∉ meaning env given name := by
  unfold Environment.meaning
  split_ifs
  · simp
  · split
    · next value hvalue =>
      -- the end of a variable's text, the name included
      obtain ⟨⟨own, text⟩, hmem, hafter⟩ := List.exists_of_findSome?_eq_some hvalue
      have heq := List.append_eq_of_isPrefixOf?_eq_some hafter
      obtain ⟨hown, htext⟩ := h.env _ hmem
      have hall : '\x00' ∉ own.toList ++ '=' :: text.toList := by simp [hown, htext]
      rw [← heq] at hall
      exact fun hnul => hall (List.mem_append_right _ hnul)
    · cases hlookup : (given.lookup (String.ofList name)).join with
      | none => simp
      | some value =>
        obtain ⟨before, behind, rfl, -⟩ :=
          List.lookup_eq_some_iff.1 (Option.join_eq_some_iff.1 hlookup)
        exact h.given _ value (List.mem_append_right before List.mem_cons_self)

theorem NulFree.readLine {env : Environment} {given : Given} (h : NulFree env given)
    {cs : List Char} (hcs : '\x00' ∉ cs) {name : String} {value : Option String}
    (hline : readLine env given cs = .variable name value) :
    '\x00' ∉ name.toList ∧ ∀ text, value = some text → '\x00' ∉ text.toList := by
  unfold Environment.readLine at hline
  split at hline
  · cases hline
  · cases hline
  · cases hassigned : assignment? (Text.stripBoth Text.isBlank cs) with
    | none => simp [hassigned] at hline
    | some assigned =>
      obtain ⟨first, rest⟩ := assigned
      obtain ⟨hfirst, hrest⟩ := of_assignment?_eq_some hassigned
      have hname : '\x00' ∉ (String.ofList first).toList := by
        rw [String.toList_ofList]
        exact fun hnul => hcs (Text.stripBoth_subset _ _ (hfirst hnul))
      rw [hassigned] at hline
      dsimp only at hline
      split at hline
      · cases hline
        exact ⟨hname, by simp⟩
      · cases hline
        exact ⟨hname, by simp⟩
      · split at hline
        · next v hv =>
          cases hline
          have hfree : Reading.NulFree (Environment.meaning env given) ⟨.open, false, []⟩ :=
            ⟨h.meaning, by simp⟩
          refine ⟨hname, fun text htext => ?_⟩
          cases htext
          rw [String.toList_ofList]
          exact hfree.readValue (fun hnul => hcs (Text.stripBoth_subset _ _ (hrest hnul))) hv
        · cases hline

end Registrar.Environment
