import Mathlib.Data.List.TakeWhile
import Registrar.Text.Ascii
import Registrar.Text.Blank

/-!
Cutting characters off both ends of a text. What is cut off are characters of the set, and the ends
of what is left are none; so cutting again changes nothing, and cutting the larger of two sets off
makes it the same whether the smaller one was cut off before. Ids and values depend on this: what is
stored without padding is compared without blanks.
-/

namespace Registrar.Text

variable {p q : Char → Bool} {as bs cs : List Char} {c : Char}

/-! ### What is cut off -/

theorem stripBoth_append_left (h : ∀ c ∈ as, p c = true) :
    stripBoth p (as ++ cs) = stripBoth p cs := by
  rw [stripBoth, stripBoth, List.dropWhile_append_of_pos h]

theorem stripBoth_append_right (h : ∀ c ∈ bs, p c = true) :
    stripBoth p (cs ++ bs) = stripBoth p cs := by
  rw [stripBoth, stripBoth, List.dropWhile_append]
  split
  · next hnil =>
    rw [List.isEmpty_iff] at hnil
    rw [hnil, List.dropWhile_eq_nil_iff.2 h]
  · have hrev : ∀ c ∈ bs.reverse, p c = true := fun c hc => h c (List.mem_reverse.1 hc)
    rw [List.reverse_append, List.dropWhile_append_of_pos hrev]

theorem exists_stripBoth (p : Char → Bool) (cs : List Char) : ∃ as bs,
    cs = as ++ stripBoth p cs ++ bs ∧ cs.dropWhile p = stripBoth p cs ++ bs ∧
      (∀ c ∈ as, p c = true) ∧ ∀ c ∈ bs, p c = true := by
  have hdrop : cs.dropWhile p =
      stripBoth p cs ++ ((cs.dropWhile p).reverse.takeWhile p).reverse := by
    rw [stripBoth, ← List.reverse_append, List.takeWhile_append_dropWhile, List.reverse_reverse]
  refine ⟨cs.takeWhile p, ((cs.dropWhile p).reverse.takeWhile p).reverse, ?_, hdrop, ?_, ?_⟩
  · rw [List.append_assoc, ← hdrop, List.takeWhile_append_dropWhile]
  · exact List.all_eq_true.1 List.all_takeWhile
  · intro c hc
    exact List.all_eq_true.1 List.all_takeWhile c (List.mem_reverse.1 hc)

theorem stripBoth_subset (p : Char → Bool) (cs : List Char) : stripBoth p cs ⊆ cs := by
  obtain ⟨as, bs, hcs, -, -, -⟩ := exists_stripBoth p cs
  intro c hc
  rw [hcs]
  simp [hc]

theorem stripBoth_stripBoth (h : ∀ c, p c = true → q c = true) (cs : List Char) :
    stripBoth q (stripBoth p cs) = stripBoth q cs := by
  obtain ⟨as, bs, hcs, -, has, hbs⟩ := exists_stripBoth p cs
  calc stripBoth q (stripBoth p cs)
      = stripBoth q (as ++ stripBoth p cs ++ bs) := by
        rw [stripBoth_append_right fun c hc => h c (hbs c hc),
          stripBoth_append_left fun c hc => h c (has c hc)]
    _ = stripBoth q cs := by rw [← hcs]

theorem stripBoth_eq_self_of_length (h : (stripBoth p cs).length = cs.length) :
    stripBoth p cs = cs := by
  obtain ⟨as, bs, hcs, -, -, -⟩ := exists_stripBoth p cs
  have hlength : cs.length = as.length + (stripBoth p cs).length + bs.length := by
    rw [← List.length_append, ← List.length_append, ← hcs]
  obtain rfl : as = [] := List.length_eq_zero_iff.1 (by omega)
  obtain rfl : bs = [] := List.length_eq_zero_iff.1 (by omega)
  rw [List.nil_append, List.append_nil] at hcs
  exact hcs.symm

/-! ### What is left -/

theorem head?_stripBoth (h : c ∈ (stripBoth p cs).head?) : p c = false := by
  obtain ⟨as, bs, -, hdrop, -, -⟩ := exists_stripBoth p cs
  have hc : (cs.dropWhile p).head? = some c := by
    rw [hdrop, List.head?_append, h]
    rfl
  have hnot := List.head?_dropWhile_not p cs
  rw [hc] at hnot
  simpa using hnot

theorem getLast?_stripBoth (h : c ∈ (stripBoth p cs).getLast?) : p c = false := by
  have hc : ((cs.dropWhile p).reverse.dropWhile p).head? = some c := by
    rw [← List.getLast?_reverse]
    exact h
  have hnot := List.head?_dropWhile_not p (cs.dropWhile p).reverse
  rw [hc] at hnot
  simpa using hnot

theorem stripBoth_eq_self (hhead : ∀ c ∈ cs.head?, p c = false)
    (hlast : ∀ c ∈ cs.getLast?, p c = false) : stripBoth p cs = cs := by
  have drop_eq : ∀ ds : List Char, (∀ c ∈ ds.head?, p c = false) → ds.dropWhile p = ds := by
    intro ds hds
    cases ds with
    | nil => rfl
    | cons d ds => rw [List.dropWhile_cons_of_neg (by simp [hds d rfl])]
  rw [stripBoth, drop_eq cs hhead, drop_eq cs.reverse, List.reverse_reverse]
  intro c hc
  rw [List.head?_reverse] at hc
  exact hlast c hc

/-! ### Blanks and padding -/

theorem unpad_unpad (s : String) : unpad (unpad s) = unpad s := by
  rw [unpad, unpad, String.toList_ofList, stripBoth_stripBoth fun _ h => h]

theorem trim_unpad (s : String) : trim (unpad s) = trim s := by
  rw [trim, unpad, trim, String.toList_ofList, stripBoth_stripBoth fun _ => isBlank_of_isPadding]

theorem unpad_eq_self {s : String} (h : trim s = s) : unpad s = s := by
  have hs : stripBoth isBlank s.toList = s.toList := by
    rw [← String.toList_ofList (l := stripBoth isBlank s.toList)]
    exact congrArg String.toList h
  have not_padding : ∀ {c}, isBlank c = false → isPadding c = false := by
    intro c hc
    rw [← Bool.not_eq_true] at hc ⊢
    exact fun hp => hc (isBlank_of_isPadding hp)
  have hself : stripBoth isPadding s.toList = s.toList := by
    refine stripBoth_eq_self (fun c hc => not_padding ?_) (fun c hc => not_padding ?_)
    · rw [← hs] at hc
      exact head?_stripBoth hc
    · rw [← hs] at hc
      exact getLast?_stripBoth hc
  rw [unpad, hself, String.ofList_toList]

/-- Case takes no blanks away. -/
theorem sameIgnoringCase_trim_iff {s : String} : sameIgnoringCase (trim s) s = true ↔ trim s = s := by
  constructor
  · intro h
    have hsmall : asciiLower (trim s) = asciiLower s := beq_iff_eq.1 h
    have hlength : (trim s).toList.length = s.toList.length := by
      have hsmall := congrArg (fun t => t.toList.length) hsmall
      simpa only [asciiLower, String.toList_ofList, List.length_map] using hsmall
    rw [trim, String.toList_ofList] at hlength
    rw [trim, stripBoth_eq_self_of_length hlength, String.ofList_toList]
  · intro h
    rw [h, sameIgnoringCase_refl]

end Registrar.Text
