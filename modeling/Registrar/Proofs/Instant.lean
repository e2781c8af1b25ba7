import Registrar.Instant.Text
import Registrar.Proofs.Text.Decimal

/-!
Written instants are read back. Each part of the text is read by its own step, which stops at the
mark behind the part (`number_padded`, `year_yearText`, `fraction_fractionText`); a written text has
no blanks to be dropped, and its clock shows universal time. So reading undoes writing for every
moment of the calendar (`read?_render`), whatever its year, and for a leap second too.
-/

namespace Registrar.Instant

open Text (isDigit isBlank)

variable {width n : Nat} {c : Char} {ds rest : List Char}

/-! ### Padded numbers -/

theorem isDigit_of_mem_padded (h : c ∈ padded width n) : isDigit c = true := by
  rcases List.mem_append.1 h with h | h
  · rw [List.eq_of_mem_replicate h]
    decide
  · exact Text.isDigit_of_mem_toDigits h

theorem padded_ne_nil (width n : Nat) : padded width n ≠ [] := by
  simp [padded]

theorem digitsValue_padded (width n : Nat) : Text.digitsValue 0 (padded width n) = n := by
  rw [Text.digitsValue_eq, padded, Nat.ofDigitChars_append, Nat.ofDigitChars_replicate_zero,
    Nat.mul_zero, Nat.ofDigitChars_ten_toDigits]

theorem length_padded (hwidth : 0 < width) (h : n < Nat.pow 10 width) :
    (padded width n).length = width := by
  have hlength : (Nat.toDigits 10 n).length ≤ width :=
    (Nat.length_toDigits_le_iff (by decide) hwidth).2 h
  rw [padded, List.length_append, List.length_replicate]
  omega

theorem skipBlanks_cons (h : isBlank c = false) : skipBlanks (c :: rest) = c :: rest := by
  rw [skipBlanks, List.dropWhile_cons, h]
  rfl

theorem skipBlanks_padded (width n : Nat) (rest : List Char) :
    skipBlanks (padded width n ++ rest) = padded width n ++ rest := by
  obtain ⟨d, ds, hds⟩ := List.exists_cons_of_ne_nil (padded_ne_nil width n)
  have hd : isDigit d = true := isDigit_of_mem_padded (by rw [hds]; exact List.mem_cons_self)
  rw [hds, List.cons_append, skipBlanks_cons (Text.isBlank_of_isDigit hd)]

/-! ### The steps of reading -/

theorem noDigit_cons (h : isDigit c = false) : ∀ d ∈ (c :: rest).head?, isDigit d = false := by
  rintro _ ⟨⟩
  exact h

theorem number_padded {most : Nat} (hmost : (padded width n).length ≤ most)
    (hrest : ∀ c ∈ rest.head?, isDigit c = false) :
    number most (padded width n ++ rest) = some (n, rest) := by
  have hhead : ∀ c ∈ (rest.take (most - (padded width n).length)).head?, isDigit c = false := by
    intro c hc
    cases rest with
    | nil => simp at hc
    | cons d rest =>
      cases hroom : most - (padded width n).length with
      | zero => simp [hroom] at hc
      | succ k =>
        rw [hroom] at hc
        exact hrest c hc
  have hdigits : ((padded width n ++ rest).take most).takeWhile isDigit = padded width n := by
    rw [List.take_append, List.take_of_length_le hmost]
    exact Text.takeWhile_isDigit (fun c hc => isDigit_of_mem_padded hc) hhead
  have hne : (padded width n).isEmpty = false := by simpa using padded_ne_nil width n
  rw [number, hdigits, hne, digitsValue_padded, List.drop_left]
  rfl

theorem shortNumber_padded (h : n < 100) (hrest : ∀ c ∈ rest.head?, isDigit c = false) :
    shortNumber (padded 2 n ++ rest) = some (n, rest) := by
  rw [shortNumber, skipBlanks_padded]
  exact number_padded (Nat.le_of_eq (length_padded (by decide) h)) hrest

theorem mark_cons (h : isBlank c = false) : mark c (c :: rest) = some rest := by
  rw [mark, skipBlanks_cons h]
  exact if_pos rfl

theorem year_minus (cs : List Char) :
    year ('-' :: cs) = (number cs.length cs).map fun (n, r) => (-(n : Int), r) := by
  rw [year, skipBlanks_cons (by decide)]
  rfl

theorem year_plus (cs : List Char) :
    year ('+' :: cs) = (number cs.length cs).map fun (n, r) => ((n : Int), r) := by
  rw [year, skipBlanks_cons (by decide)]
  rfl

theorem year_padded (n : Nat) (rest : List Char) :
    year (padded width n ++ rest) =
      (number 4 (padded width n ++ rest)).map fun (n, r) => ((n : Int), r) := by
  obtain ⟨d, ds, hds⟩ := List.exists_cons_of_ne_nil (padded_ne_nil width n)
  have hd : isDigit d = true := isDigit_of_mem_padded (by rw [hds]; exact List.mem_cons_self)
  rw [year, skipBlanks_padded, hds, List.cons_append]
  split
  · next heq =>
    cases heq
    cases hd
  · next heq =>
    cases heq
    cases hd
  · rfl

/-- A year of four digits has no sign, and behind a sign any number of digits is read. -/
theorem year_yearText (y : Int) (hrest : ∀ c ∈ rest.head?, isDigit c = false) :
    year (yearText y ++ rest) = some (y, rest) := by
  have hsigned : ∀ n : Nat, number (padded 4 n ++ rest).length (padded 4 n ++ rest) =
      some (n, rest) := fun n => number_padded (by simp) hrest
  unfold yearText
  split
  · next hpos =>
    split
    · next hfour =>
      have hlength : (padded 4 y.toNat).length = 4 :=
        length_padded (by decide) (by show y.toNat < 10000; omega)
      rw [year_padded, number_padded (Nat.le_of_eq hlength) hrest, Option.map_some]
      dsimp only
      rw [Int.toNat_of_nonneg hpos]
    · rw [List.cons_append, year_plus, hsigned, Option.map_some]
      dsimp only
      rw [Int.toNat_of_nonneg hpos]
  · next hneg =>
    have hpos : 0 ≤ -y := by omega
    rw [List.cons_append, year_minus, hsigned, Option.map_some]
    dsimp only
    rw [Int.toNat_of_nonneg hpos, Int.neg_neg]

theorem fraction_padded {k : Nat} (hpos : 0 < width) (hwidth : width ≤ 9)
    (h : k < Nat.pow 10 width) (hrest : ∀ c ∈ rest.head?, isDigit c = false) :
    fraction ('.' :: padded width k ++ rest) = some (k * Nat.pow 10 (9 - width), rest) := by
  have hdigits : (padded width k ++ rest).takeWhile isDigit = padded width k :=
    Text.takeWhile_isDigit (fun c hc => isDigit_of_mem_padded hc) hrest
  have hlength : (padded width k).length = width := length_padded hpos h
  have hne : (padded width k).isEmpty = false := by simpa using padded_ne_nil width k
  have hfirst : (padded width k).take 9 = padded width k :=
    List.take_of_length_le (by rw [hlength]; exact hwidth)
  have hvalue : nanoseconds (padded width k) = k * Nat.pow 10 (9 - width) := by
    rw [nanoseconds, hfirst, digitsValue_padded, hlength]
  simp only [List.cons_append, fraction, hdigits, hne, Bool.false_eq_true, if_false, hvalue,
    List.drop_left]

theorem fraction_fractionText (h : n < 1000000000) (rest : List Char) :
    fraction (fractionText n ++ 'Z' :: rest) = some (n, 'Z' :: rest) := by
  have hz : ∀ c ∈ ('Z' :: rest).head?, isDigit c = false := noDigit_cons (by decide)
  unfold fractionText
  split
  · next h0 =>
    rw [h0]
    rfl
  · split
    · next hmilli =>
      rw [fraction_padded (by decide) (by decide) (by show n / 1000000 < 1000; omega) hz]
      simp only [Option.some.injEq, Prod.mk.injEq, and_true]
      show n / 1000000 * 1000000 = n
      omega
    · split
      · next hmicro =>
        rw [fraction_padded (by decide) (by decide) (by show n / 1000 < 1000000; omega) hz]
        simp only [Option.some.injEq, Prod.mk.injEq, and_true]
        show n / 1000 * 1000 = n
        omega
      · rw [fraction_padded (by decide) (by decide) h hz]
        simp only [Option.some.injEq, Prod.mk.injEq, and_true]
        exact Nat.mul_one n

/-! ### Instants -/

/-- The written form, cut where reading stops. -/
theorem chars_eq (t : Instant) : t.chars =
    yearText t.date.year ++ ('-' :: (padded 2 t.date.month ++ ('-' :: (padded 2 t.date.day ++
      ('T' :: (padded 2 t.hour ++ (':' :: (padded 2 t.minute ++ (':' :: (padded 2 t.second ++
        (fractionText t.nanosecond ++ ['Z']))))))))))) := by
  simp only [chars, List.append_assoc, List.cons_append]

theorem local?_chars {t : Instant} (h : t.Valid) : local? t.chars = some (t, 0, []) := by
  obtain ⟨⟨-, -, -, hmonth, -, hday⟩, hhour, hminute, hsecond, hnano⟩ := h
  have hdays : Date.daysInMonth t.date.year t.date.month ≤ 31 := by
    unfold Date.daysInMonth
    split_ifs <;> omega
  have hminus : isDigit '-' = false := by decide
  have hcolon : isDigit ':' = false := by decide
  have hdivide : isDigit 'T' = false := by decide
  -- behind the seconds stands a point or the zone
  have hend : ∀ c ∈ (fractionText t.nanosecond ++ ['Z']).head?, isDigit c = false := by
    unfold fractionText
    split_ifs <;> rintro _ ⟨⟩ <;> decide
  rw [chars_eq, local?, year_yearText _ (noDigit_cons hminus)]
  simp only [Option.bind_eq_bind, Option.bind_some, divide, mark_cons (c := '-') (by decide),
    mark_cons (c := ':') (by decide),
    shortNumber_padded (by omega : t.date.month < 100) (noDigit_cons hminus),
    shortNumber_padded (by omega : t.date.day < 100) (noDigit_cons hdivide),
    shortNumber_padded (by omega : t.hour < 100) (noDigit_cons hcolon),
    shortNumber_padded (by omega : t.minute < 100) (noDigit_cons hcolon),
    shortNumber_padded (by omega : t.second < 100) hend, fraction_fractionText hnano []]
  rfl

/-- **Reading undoes writing.** -/
theorem read?_render {t : Instant} (h : t.Valid) : read? t.render = some t := by
  have hshift : t.shiftBack 0 = t := shiftBack_zero h.2.1 h.2.2.1
  rw [read?, render, String.toList_ofList, ofChars?, local?_chars h]
  simp only [Option.bind_eq_bind, Option.bind_some, hshift]
  exact if_pos ⟨h, by decide, by decide, h.1, rfl⟩

theorem render_ne_empty (t : Instant) : t.render ≠ "" := by
  simp [render, chars, String.ext_iff]

end Registrar.Instant
