import Registrar.Proofs.Text.Strip
import Registrar.Text.Lowercase

/-!
Small letters stay as they are: no small form is a capital again, so that making a text small twice
is making it small once. The table is checked run by run (`apart_capitalRuns`). A small form is
never padding either, and the ends of a text keep being free of it.
-/

namespace Registrar.Text

/-! ### The table of capitals -/

/-- No small form of the first run is a capital of the second one: they lie apart, or both go by
twos and pass each other. -/
def CapitalRun.apart (a b : CapitalRun) : Bool :=
  Nat.blt (a.small + (a.last - a.first)) b.first || (Nat.blt b.last a.small ||
    (Nat.beq b.step 2 && (Nat.beq a.step 2 || Nat.beq a.first a.last) &&
      Nat.beq ((a.small + b.first) % 2) 1))

/-- The capital that becomes two characters, as a run. -/
def dottedRun : CapitalRun := ⟨0x130, 0x130, 1, 0x69⟩

theorem apart_capitalRuns :
    capitalRuns.all (fun a => (dottedRun :: capitalRuns).all a.apart) = true := by
  decide +kernel

/-- The small forms of the run are characters, and none is padding. -/
def CapitalRun.proper (a : CapitalRun) : Bool :=
  Nat.blt 0x20 a.small && (Nat.blt (a.small + (a.last - a.first)) 0xD800 ||
    Nat.blt 0xDFFF a.small && Nat.blt (a.small + (a.last - a.first)) 0x110000)

theorem proper_capitalRuns : capitalRuns.all CapitalRun.proper = true := by decide +kernel

theorem holds_iff {a : CapitalRun} {n : Nat} :
    a.holds n = true ↔ a.first ≤ n ∧ n ≤ a.last ∧ (n - a.first) % a.step = 0 := by
  simp [CapitalRun.holds, and_assoc]

theorem not_holds_of_apart {a b : CapitalRun} (h : a.apart b = true) {n : Nat}
    (hn : a.holds n = true) : b.holds (a.small + (n - a.first)) = false := by
  rw [holds_iff] at hn
  obtain ⟨h1, h2, h3⟩ := hn
  rw [← Bool.not_eq_true, holds_iff]
  rintro ⟨h4, h5, h6⟩
  simp only [CapitalRun.apart, Bool.or_eq_true, Bool.and_eq_true, Nat.blt_eq, Nat.beq_eq] at h
  rcases h with h | h | ⟨⟨hb, ha | ha⟩, hodd⟩
  · omega
  · omega
  · rw [ha] at h3
    rw [hb] at h6
    omega
  · rw [hb] at h6
    omega

/-! ### Small characters -/

/-- The character is its own small form. -/
def IsSmall (c : Char) : Prop := lowerChar c = [c]

theorem isSmall_of_runs {c : Char} (h : ∀ a ∈ dottedRun :: capitalRuns, a.holds c.toNat = false) :
    IsSmall c := by
  have hdotted : c ≠ 'İ' := by
    rintro rfl
    have := h dottedRun (.head _)
    revert this
    decide
  have hnone : capitalRuns.find? (·.holds c.toNat) = none := by
    rw [List.find?_eq_none]
    intro a ha
    simp [h a (.tail _ ha)]
  rw [IsSmall, lowerChar, if_neg hdotted, hnone]

theorem toNat_ofNat {n : Nat} (h : n.isValidChar) : (Char.ofNat n).toNat = n := by
  rw [Char.ofNat, dif_pos h]
  rfl

theorem lt_of_isPadding {c : Char} (h : isPadding c = true) : c.toNat ≤ 0x20 := by
  simp only [isPadding, Bool.or_eq_true, beq_iff_eq] at h
  rcases h with ((rfl | rfl) | rfl) | rfl <;> decide

theorem mem_lowerChar {c d : Char} (h : d ∈ lowerChar c) :
    IsSmall d ∧ (isPadding d = true → isPadding c = true) := by
  by_cases hdotted : c = 'İ'
  · subst hdotted
    have hd : d = 'i' ∨ d = '\u0307' := by simpa [lowerChar] using h
    rcases hd with rfl | rfl
    · exact ⟨by unfold IsSmall; decide, by decide⟩
    · exact ⟨by unfold IsSmall; decide, by decide⟩
  · rw [lowerChar, if_neg hdotted] at h
    cases hfind : capitalRuns.find? (·.holds c.toNat) with
    | none =>
      rw [hfind] at h
      obtain rfl : d = c := by simpa using h
      refine ⟨?_, id⟩
      rw [IsSmall, lowerChar, if_neg hdotted, hfind]
    | some a =>
      rw [hfind] at h
      obtain rfl : d = Char.ofNat (a.small + (c.toNat - a.first)) := by simpa using h
      have ha : a ∈ capitalRuns := List.mem_of_find?_eq_some hfind
      have hc : a.holds c.toNat = true := by simpa using List.find?_some hfind
      have hle := (holds_iff.1 hc).2.1
      have hproper := List.all_eq_true.1 proper_capitalRuns a ha
      simp only [CapitalRun.proper, Bool.or_eq_true, Bool.and_eq_true, Nat.blt_eq] at hproper
      have hvalid : (a.small + (c.toNat - a.first)).isValidChar := by
        unfold Nat.isValidChar
        omega
      constructor
      · refine isSmall_of_runs fun b hb => ?_
        have hapart := List.all_eq_true.1 (List.all_eq_true.1 apart_capitalRuns a ha) b hb
        rw [toNat_ofNat hvalid]
        exact not_holds_of_apart hapart hc
      · intro hpad
        have hlt := lt_of_isPadding hpad
        rw [toNat_ofNat hvalid] at hlt
        omega

/-! ### Small texts -/

/-- What a character becomes, wherever it stands. -/
def lowerAt (before rest : List Char) (c : Char) : List Char :=
  if c = 'Σ' then [if endsWord before rest then 'ς' else 'σ'] else lowerChar c

theorem lowerAfter_cons (before rest : List Char) (c : Char) :
    lowerAfter before (c :: rest) = lowerAt before rest c ++ lowerAfter (c :: before) rest := rfl

theorem mem_lowerAt {before rest : List Char} {c d : Char} (h : d ∈ lowerAt before rest c) :
    IsSmall d ∧ (isPadding d = true → isPadding c = true) := by
  unfold lowerAt at h
  split at h
  · have hd : d = 'ς' ∨ d = 'σ' := by
      rw [List.mem_singleton] at h
      split at h
      · exact .inl h
      · exact .inr h
    rcases hd with rfl | rfl
    · exact ⟨by unfold IsSmall; decide, fun hpad => absurd hpad (by decide)⟩
    · exact ⟨by unfold IsSmall; decide, fun hpad => absurd hpad (by decide)⟩
  · exact mem_lowerChar h

theorem lowerAt_ne_nil (before rest : List Char) (c : Char) : lowerAt before rest c ≠ [] := by
  unfold lowerAt lowerChar
  split
  · simp
  · split
    · simp
    · split <;> simp

theorem isSmall_of_mem_lowerAfter {before cs : List Char} {d : Char}
    (h : d ∈ lowerAfter before cs) : IsSmall d := by
  induction cs generalizing before with
  | nil => simp [lowerAfter] at h
  | cons c cs ih =>
    rw [lowerAfter_cons, List.mem_append] at h
    rcases h with h | h
    · exact (mem_lowerAt h).1
    · exact ih h

theorem lowerAfter_eq_self {before cs : List Char} (h : ∀ c ∈ cs, IsSmall c) :
    lowerAfter before cs = cs := by
  induction cs generalizing before with
  | nil => rfl
  | cons c cs ih =>
    have hc : IsSmall c := h c (.head _)
    have hsigma : c ≠ 'Σ' := by
      rintro rfl
      revert hc
      unfold IsSmall
      decide
    rw [lowerAfter_cons, lowerAt, if_neg hsigma, hc, ih fun d hd => h d (.tail _ hd)]
    rfl

theorem lower_lower (s : String) : lower (lower s) = lower s := by
  rw [lower, lower, String.toList_ofList,
    lowerAfter_eq_self fun c hc => isSmall_of_mem_lowerAfter hc]

/-! ### The ends of small texts -/

theorem isPadding_of_head? {before cs : List Char} {d : Char}
    (h : d ∈ (lowerAfter before cs).head?) (hd : isPadding d = true) :
    ∃ c ∈ cs.head?, isPadding c = true := by
  cases cs with
  | nil => simp [lowerAfter] at h
  | cons c cs =>
    obtain ⟨e, es, he⟩ := List.exists_cons_of_ne_nil (lowerAt_ne_nil before cs c)
    rw [lowerAfter_cons, he] at h
    obtain rfl : e = d := by simpa using h
    exact ⟨c, rfl, (mem_lowerAt (he ▸ List.mem_cons_self)).2 hd⟩

theorem isPadding_of_getLast? {before cs : List Char} {d : Char}
    (h : d ∈ (lowerAfter before cs).getLast?) (hd : isPadding d = true) :
    ∃ c ∈ cs.getLast?, isPadding c = true := by
  induction cs generalizing before with
  | nil => simp [lowerAfter] at h
  | cons c cs ih =>
    rw [lowerAfter_cons, List.getLast?_append] at h
    cases cs with
    | nil => exact ⟨c, rfl, (mem_lowerAt (List.mem_of_mem_getLast? h)).2 hd⟩
    | cons c' cs =>
      have hne : lowerAfter (c :: before) (c' :: cs) ≠ [] := by
        rw [lowerAfter_cons]
        exact fun e => lowerAt_ne_nil _ _ _ (List.append_eq_nil_iff.1 e).1
      rw [List.getLast?_eq_some_getLast hne, Option.some_or, ← List.getLast?_eq_some_getLast hne]
        at h
      rw [List.getLast?_cons_cons]
      exact ih h

/-- Small letters have no padding at their ends where the text had none. -/
theorem unpad_lower_unpad (s : String) : unpad (lower (unpad s)) = lower (unpad s) := by
  have hself : stripBoth isPadding (lowerAfter [] (unpad s).toList) =
      lowerAfter [] (unpad s).toList := by
    have hlist : (unpad s).toList = stripBoth isPadding s.toList := String.toList_ofList
    refine stripBoth_eq_self (fun d hd => ?_) (fun d hd => ?_)
    · rw [← Bool.not_eq_true]
      intro hpad
      obtain ⟨c, hc, hcpad⟩ := isPadding_of_head? hd hpad
      rw [hlist] at hc
      exact Bool.noConfusion (hcpad.symm.trans (head?_stripBoth hc))
    · rw [← Bool.not_eq_true]
      intro hpad
      obtain ⟨c, hc, hcpad⟩ := isPadding_of_getLast? hd hpad
      rw [hlist] at hc
      exact Bool.noConfusion (hcpad.symm.trans (getLast?_stripBoth hc))
  rw [unpad, lower, String.toList_ofList, hself]

end Registrar.Text
