import Registrar.Proofs.Registry.Rows
import Registrar.Registry.Basic

/-!
What a registry is asked and what it answers. Queries are asked one after another until one fails;
the dialogue holds those that were asked, with the answers to them. How far it goes is up to the
answers alone: to the first one that is a failure (`dialogue_of_failure`), and to the end where none
is (`dialogue_of_ok`).
-/

namespace Registrar

structure Query where
  country : String
  criterion : Criterion

structure Exchange where
  query : Query
  answer : Except StoreError (List Record)

namespace Exchange

variable {x : Exchange} {xs : List Exchange} {rows : List Record} {e : StoreError}

/-- The rows of all answers, or the first failure. -/
def outcome (xs : List Exchange) : Except StoreError (List (List Record)) := xs.mapM (·.answer)

theorem outcome_cons_error (h : x.answer = .error e) : outcome (x :: xs) = .error e := by
  rw [outcome, List.mapM_cons, h]
  rfl

theorem outcome_cons_ok (h : x.answer = .ok rows) :
    outcome (x :: xs) = (outcome xs).map (rows :: ·) := by
  rw [outcome, List.mapM_cons, h]
  unfold outcome
  cases xs.mapM (·.answer) <;> rfl

theorem exists_of_outcome_eq_ok {rowss : List (List Record)} (h : outcome xs = .ok rowss)
    (hrows : rows ∈ rowss) : ∃ x ∈ xs, x.answer = .ok rows :=
  exists_of_forall₂ (mapM_eq_ok_iff.1 h) hrows

theorem exists_of_outcome_eq_error (h : outcome xs = .error e) : ∃ x ∈ xs, x.answer = .error e := by
  induction xs with
  | nil => cases h
  | cons x xs ih =>
    cases hx : x.answer with
    | error e' =>
      rw [outcome_cons_error hx] at h
      cases h
      exact ⟨x, List.mem_cons_self, hx⟩
    | ok rows =>
      rw [outcome_cons_ok hx] at h
      cases hxs : outcome xs with
      | error e' =>
        rw [hxs] at h
        cases h
        obtain ⟨y, hy, hye⟩ := ih hxs
        exact ⟨y, List.mem_cons_of_mem _ hy, hye⟩
      | ok rowss =>
        rw [hxs] at h
        cases h

end Exchange

namespace Registry

variable {σ : Type} {registry : Registry (StateM σ)} {q : Query} {qs : List Query} {st : σ}

/-- The answer to a query and the state that it leaves behind. -/
def reply (registry : Registry (StateM σ)) (q : Query) (st : σ) :
    Except StoreError (List Record) × σ :=
  let (answer, st') := (registry.find q.country q.criterion).run st
  (answer.value, st')

/-- The answers to queries that are asked one after another, whether they fail or not. -/
def answers (registry : Registry (StateM σ)) :
    List Query → σ → List (Except StoreError (List Record))
  | [], _ => []
  | q :: qs, st => (registry.reply q st).1 :: registry.answers qs (registry.reply q st).2

/-- The exchanges about queries that are asked one after another until one fails. -/
def dialogue (registry : Registry (StateM σ)) : List Query → σ → List Exchange
  | [], _ => []
  | q :: qs, st =>
    match (registry.reply q st).1 with
    | .error e => [⟨q, .error e⟩]
    | .ok rows => ⟨q, .ok rows⟩ :: registry.dialogue qs (registry.reply q st).2

/-- The registry with a list of what it was asked and what it answered. -/
def watched (registry : Registry (StateM σ)) : Registry (StateM (σ × List Exchange)) where
  limit := registry.limit
  find country c := do
    let (st, past) ← get
    let (answer, st') := (registry.find country c).run st
    set (st', past ++ [⟨⟨country, c⟩, answer.value⟩])
    return answer

theorem query_mem_of_mem_dialogue {x : Exchange} (h : x ∈ registry.dialogue qs st) :
    x.query ∈ qs := by
  fun_induction registry.dialogue qs st with
  | case1 => simp at h
  | case2 q qs st e hr =>
    rw [List.mem_singleton.1 h]
    exact List.mem_cons_self
  | case3 q qs st rows hr ih =>
    rcases List.mem_cons.1 h with rfl | h
    · exact List.mem_cons_self
    · exact List.mem_cons_of_mem _ (ih h)

theorem queries_dialogue (h : ∀ x ∈ registry.dialogue qs st, ∃ rows, x.answer = .ok rows) :
    (registry.dialogue qs st).map (·.query) = qs := by
  fun_induction registry.dialogue qs st with
  | case1 => rfl
  | case2 q qs st e hr =>
    obtain ⟨rows, hrows⟩ := h _ List.mem_cons_self
    cases hrows
  | case3 q qs st rows hr ih =>
    rw [List.map_cons, ih fun x hx => h x (List.mem_cons_of_mem _ hx)]

/-- The first failure ends the dialogue. -/
theorem dialogue_of_failure {n : Nat} {e : StoreError}
    (hn : (registry.answers qs st)[n]? = some (.error e))
    (hbefore : ∀ k < n, ∃ rows, (registry.answers qs st)[k]? = some (.ok rows)) :
    (registry.dialogue qs st).map (·.query) = qs.take (n + 1) ∧
      Exchange.outcome (registry.dialogue qs st) = .error e := by
  fun_induction registry.dialogue qs st generalizing n with
  | case1 => simp [answers] at hn
  | case2 q qs st e' hr =>
    cases n with
    | zero =>
      rw [answers, hr] at hn
      cases hn
      exact ⟨rfl, rfl⟩
    | succ n =>
      obtain ⟨rows, h⟩ := hbefore 0 (Nat.succ_pos n)
      rw [answers, hr] at h
      cases h
  | case3 q qs st rows hr ih =>
    cases n with
    | zero =>
      rw [answers, hr] at hn
      cases hn
    | succ n =>
      rw [answers, hr] at hn hbefore
      obtain ⟨hqueries, houtcome⟩ := ih hn fun k hk => hbefore (k + 1) (Nat.succ_lt_succ hk)
      refine ⟨by rw [List.map_cons, hqueries, List.take_succ_cons], ?_⟩
      rw [Exchange.outcome_cons_ok rfl, houtcome]
      rfl

/-- Without a failure everything is asked. -/
theorem dialogue_of_ok (h : ∀ answer ∈ registry.answers qs st, ∃ rows, answer = .ok rows) :
    (registry.dialogue qs st).map (·.query) = qs ∧
      ∃ rowss, Exchange.outcome (registry.dialogue qs st) = .ok rowss := by
  fun_induction registry.dialogue qs st with
  | case1 => exact ⟨rfl, [], rfl⟩
  | case2 q qs st e hr =>
    obtain ⟨rows, hrows⟩ := h (.error e) (by rw [answers, hr]; exact List.mem_cons_self)
    cases hrows
  | case3 q qs st rows hr ih =>
    rw [answers] at h
    obtain ⟨hqueries, rowss, houtcome⟩ := ih fun answer ha => h answer (List.mem_cons_of_mem _ ha)
    refine ⟨by rw [List.map_cons, hqueries], rows :: rowss, ?_⟩
    rw [Exchange.outcome_cons_ok rfl, houtcome]
    rfl

/-- A registry that answers a number of queries, all with the same rows, and then no more. It counts
what it is asked. -/
def lasting (limit number : Nat) (rows : List Record) : Registry (StateM Nat) where
  limit := limit
  find _ _ := do
    let before ← get
    set (before + 1)
    return .quiet (if before < number then .ok rows else .error (.database "no answer"))

end Registry

end Registrar
