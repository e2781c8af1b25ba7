import Mathlib.Logic.Basic

/-!
Actions on a state, by what they ensure. The searched registry and the database behind it are
actions of a state monad; a statement about such an action says which states and values it can end
with when it starts in a state of a given kind. An action that may fail is told apart by how it
ends.
-/

namespace Registrar

variable {σ ε α β : Type} {P : σ → Prop} {Q : α → σ → Prop} {E : σ → Prop}

/-- Started in a state of `P`, the action ends with a value and a state of `Q`. -/
def Ensures (P : σ → Prop) (x : StateM σ α) (Q : α → σ → Prop) : Prop :=
  ∀ s, P s → Q (x.run s).1 (x.run s).2

namespace Ensures

theorem pure {a : α} (h : ∀ s, P s → Q a s) : Ensures P (Pure.pure a) Q := h

theorem bind {x : StateM σ α} {f : α → StateM σ β} {R : β → σ → Prop} (hx : Ensures P x Q)
    (hf : ∀ a, Ensures (Q a) (f a) R) : Ensures P (x >>= f) R :=
  fun s hs => hf (x.run s).1 (x.run s).2 (hx s hs)

theorem mono {x : StateM σ α} {P' : σ → Prop} {Q' : α → σ → Prop} (hx : Ensures P x Q)
    (hP : ∀ s, P' s → P s) (hQ : ∀ a s, Q a s → Q' a s) : Ensures P' x Q' :=
  fun s hs => hQ _ _ (hx s (hP s hs))

theorem imp {x : StateM σ α} {Q' : α → σ → Prop} (hx : Ensures P x Q)
    (hQ : ∀ a s, Q a s → Q' a s) : Ensures P x Q' :=
  hx.mono (fun _ hs => hs) hQ

/-- To start in a state of `P` is to start from some contents of which `P` holds. -/
theorem of_contents {τ : Type} (f : σ → τ) {p : τ → Prop} {x : StateM σ α}
    (hx : ∀ k, p k → Ensures (fun s => f s = k) x Q) : Ensures (fun s => p (f s)) x Q :=
  fun s hs => hx (f s) hs s rfl

end Ensures

/-- Started in a state of `P`, the action ends with a value and a state of `Q`, or it fails in a
state of `E`. -/
def Attempts (P : σ → Prop) (x : ExceptT ε (StateM σ) α) (Q : α → σ → Prop) (E : σ → Prop) : Prop :=
  Ensures P x.run fun outcome s =>
    match outcome with
    | .ok a => Q a s
    | .error _ => E s

namespace Attempts

theorem pure {a : α} (h : ∀ s, P s → Q a s) :
    Attempts P (Pure.pure a : ExceptT ε (StateM σ) α) Q E := h

theorem throw {e : ε} (h : ∀ s, P s → E s) :
    Attempts P (throw e : ExceptT ε (StateM σ) α) Q E := h

theorem bind {x : ExceptT ε (StateM σ) α} {f : α → ExceptT ε (StateM σ) β} {R : β → σ → Prop}
    (hx : Attempts P x Q E) (hf : ∀ a, Attempts (Q a) (f a) R E) : Attempts P (x >>= f) R E := by
  refine Ensures.bind (f := ExceptT.bindCont f) hx fun outcome => ?_
  cases outcome with
  | error e => exact Ensures.pure fun s hs => hs
  | ok a => exact hf a

theorem lift {x : StateM σ α} (hx : Ensures P x Q) :
    Attempts P (ExceptT.lift x : ExceptT ε (StateM σ) α) Q E :=
  Ensures.bind hx fun _ => Ensures.pure fun _ hs => hs

theorem state_run {x : ExceptT ε (StateM σ) α} (hx : Attempts P x (fun _ => E) E) {s : σ}
    (hs : P s) : E (x.run.run s).2 := by
  have hrun := hx s hs
  cases h : (x.run.run s).1 with
  | error e =>
    rw [h] at hrun
    exact hrun
  | ok a =>
    rw [h] at hrun
    exact hrun

theorem imp_error {x : ExceptT ε (StateM σ) α} {E' : σ → Prop} (hx : Attempts P x Q E)
    (hE : ∀ s, E s → E' s) : Attempts P x Q E' := by
  refine Ensures.imp hx fun outcome s hs => ?_
  cases outcome with
  | error e => exact hE s hs
  | ok a => exact hs

/-- To start in a state that something is known of is to start from what is known. -/
theorem of_exists {ι : Type} {P : ι → σ → Prop} {x : ExceptT ε (StateM σ) α}
    (hx : ∀ i, Attempts (P i) x Q E) : Attempts (fun s => ∃ i, P i s) x Q E := by
  rintro s ⟨i, hi⟩
  exact hx i s hi

/-- What is known beforehand and does not speak of the state stays known. -/
theorem of_imp {x : ExceptT ε (StateM σ) α} {p : Prop} (hx : p → Attempts P x Q E) :
    Attempts (fun s => P s ∧ p) x Q E :=
  fun s hs => hx hs.2 s hs.1

end Attempts

end Registrar
