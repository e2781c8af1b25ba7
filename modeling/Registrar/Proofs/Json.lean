import Mathlib.Data.List.DropRight
import Registrar.Json.Reader
import Registrar.Json.Writer
import Registrar.Proofs.Text.Decimal

/-!
Written JSON is read back, in one line as well as over several. A value is readable if reading takes
it off the front of what begins with its text, whatever follows that no number goes on into
(`Readable`). Texts are readable with all their escapes (`readable_text`), whole numbers are
(`readable_nat`), and so are arrays and objects of what is readable (`readable_array`,
`readable_members`): the two ways of writing differ in the blanks between the parts alone, and
reading drops these.
-/

namespace Registrar.Json

open Text (isDigit)

variable {α : Type} {v : Json} {vs : List Json} {ms : List (String × Json)} {fuel : Nat} {c : Char}
  {cs ds rest after gap last space : List Char}

/-! ### Blanks -/

theorem skip_append (h : ∀ b ∈ gap, isBlank b = true) (cs : List Char) :
    skip (gap ++ cs) = skip cs := List.dropWhile_append_of_pos h

theorem skip_cons (h : isBlank c = false) (cs : List Char) : skip (c :: cs) = c :: cs := by
  rw [skip, List.dropWhile_cons, h]
  rfl

theorem skip_skip (cs : List Char) : skip (skip cs) = skip cs :=
  List.dropWhile_idempotent _ _

theorem value?_skip (fuel : Nat) (cs : List Char) : value? fuel (skip cs) = value? fuel cs := by
  cases fuel with
  | zero => rfl
  | succ fuel => rw [value?, value?, skip_skip]

theorem value?_append (h : ∀ b ∈ gap, isBlank b = true) (fuel : Nat) (cs : List Char) :
    value? fuel (gap ++ cs) = value? fuel cs := by
  rw [← value?_skip, skip_append h, value?_skip]

theorem items?_skip (fuel : Nat) (cs : List Char) : items? fuel (skip cs) = items? fuel cs := by
  cases fuel with
  | zero => rfl
  | succ fuel => rw [items?, items?, value?_skip]

theorem items?_append (h : ∀ b ∈ gap, isBlank b = true) (fuel : Nat) (cs : List Char) :
    items? fuel (gap ++ cs) = items? fuel cs := by
  rw [← items?_skip, skip_append h, items?_skip]

theorem members?_skip (fuel : Nat) (cs : List Char) :
    members? fuel (skip cs) = members? fuel cs := by
  cases fuel with
  | zero => rfl
  | succ fuel => rw [members?, members?, skip_skip]

theorem members?_append (h : ∀ b ∈ gap, isBlank b = true) (fuel : Nat) (cs : List Char) :
    members? fuel (gap ++ cs) = members? fuel cs := by
  rw [← members?_skip, skip_append h, members?_skip]

theorem isBlank_of_mem_newline {level : Nat} : ∀ b ∈ newline level, isBlank b = true := by
  intro b hb
  rcases List.mem_cons.1 hb with rfl | hb
  · decide
  · rw [List.eq_of_mem_replicate hb]
    decide

/-! ### Strings -/

theorem text_injective : Function.Injective text :=
  fun _ _ h => Option.some.inj (Json.string.inj h)

theorem unit?_hexDigit {n : Nat} (h : n < 32) :
    unit? '0' '0' (hexDigit (n / 16)) (hexDigit (n % 16)) = some n := by
  have hall : ∀ n < 32, unit? '0' '0' (hexDigit (n / 16)) (hexDigit (n % 16)) = some n := by decide
  exact hall n h

theorem pieces_short {e : Char} (he : e ≠ 'u') (h : shortEscape? e = some c) (rest : List Char) :
    pieces ('\\' :: e :: rest) = (pieces rest).map fun (ps, after) => (.char c :: ps, after) := by
  rw [pieces]
  · rw [h]
    cases pieces rest <;> rfl
  · rintro _ _ _ _ _ rfl
    exact absurd rfl he

theorem pieces_unit {a b d e : Char} {n : Nat} (h : unit? a b d e = some n) (rest : List Char) :
    pieces ('\\' :: 'u' :: a :: b :: d :: e :: rest) =
      (pieces rest).map fun (ps, after) => (.unit n :: ps, after) := by
  rw [pieces, h]
  cases pieces rest <;> rfl

theorem pieces_plain (hmark : c ≠ '"') (hescape : c ≠ '\\') (hcontrol : ¬ c < ' ')
    (rest : List Char) :
    pieces (c :: rest) = (pieces rest).map fun (ps, after) => (.char c :: ps, after) := by
  rw [pieces]
  · rw [if_neg (by simp [hcontrol, hescape])]
    cases pieces rest <;> rfl
  · exact hmark
  · rintro _ _ _ _ _ rfl
    exact absurd rfl hescape
  · rintro _ _ rfl
    exact absurd rfl hescape

theorem joined_unit {n : Nat} (h : n < 0xD800) (ps : List Piece) :
    joined (.unit n :: ps) = (joined ps).map (Char.ofNat n :: ·) := by
  rw [joined.eq_def]
  exact if_pos (.inl h)

/-- A written character is read as one piece, which makes the character again. -/
theorem exists_piece (c : Char) : ∃ p,
    (∀ rest, pieces (escaped c ++ rest) =
      (pieces rest).map fun (ps, after) => (p :: ps, after)) ∧
    ∀ ps, joined (p :: ps) = (joined ps).map (c :: ·) := by
  unfold escaped
  split_ifs with hmark hescape hb hf hn hr ht hcontrol
  · exact ⟨.char c, pieces_short (by decide) (by rw [hmark]; rfl), fun _ => rfl⟩
  · exact ⟨.char c, pieces_short (by decide) (by rw [hescape]; rfl), fun _ => rfl⟩
  · exact ⟨.char c, pieces_short (by decide) (by rw [hb]; rfl), fun _ => rfl⟩
  · exact ⟨.char c, pieces_short (by decide) (by rw [hf]; rfl), fun _ => rfl⟩
  · exact ⟨.char c, pieces_short (by decide) (by rw [hn]; rfl), fun _ => rfl⟩
  · exact ⟨.char c, pieces_short (by decide) (by rw [hr]; rfl), fun _ => rfl⟩
  · exact ⟨.char c, pieces_short (by decide) (by rw [ht]; rfl), fun _ => rfl⟩
  · have hlt : c.toNat < 32 := hcontrol
    refine ⟨.unit c.toNat, pieces_unit (unit?_hexDigit hlt), fun ps => ?_⟩
    rw [joined_unit (by omega), Char.ofNat_toNat]
  · exact ⟨.char c, pieces_plain hmark hescape hcontrol, fun _ => rfl⟩

theorem string?_flatMap_escaped (s : String) (rest : List Char) :
    string? (s.toList.flatMap escaped ++ '"' :: rest) = some (some s, rest) := by
  have hpieces : ∀ cs : List Char, ∃ ps,
      pieces (cs.flatMap escaped ++ '"' :: rest) = some (ps, rest) ∧ joined ps = some cs := by
    intro cs
    induction cs with
    | nil => exact ⟨[], by rw [List.flatMap_nil, List.nil_append, pieces], rfl⟩
    | cons c cs ih =>
      obtain ⟨ps, hps, hjoined⟩ := ih
      obtain ⟨p, hp, hc⟩ := exists_piece c
      refine ⟨p :: ps, ?_, ?_⟩
      · rw [List.flatMap_cons, List.append_assoc, hp, hps]
        rfl
      · rw [hc, hjoined]
        rfl
  obtain ⟨ps, hps, hjoined⟩ := hpieces s.toList
  rw [string?, hps, Option.map_some]
  dsimp only
  rw [hjoined, Option.map_some, String.ofList_toList]

/-! ### Numbers -/

/-- No number goes on into the characters. -/
def EndsNumber (rest : List Char) : Prop :=
  ∀ c ∈ rest.head?, isDigit c = false ∧ c ∉ ['.', 'e', 'E']

theorem endsNumber_of_blank (h : ∀ b ∈ rest, isBlank b = true) : EndsNumber rest := by
  intro c hc
  have hblank := h c (List.mem_of_mem_head? hc)
  simp only [isBlank, Bool.or_eq_true, beq_iff_eq] at hblank
  rcases hblank with ((rfl | rfl) | rfl) | rfl <;> decide

/-- No number goes on behind blanks, or at a sign that belongs to no number. -/
theorem endsNumber_of_skip (h : skip rest = c :: after)
    (hc : isDigit c = false ∧ c ∉ ['.', 'e', 'E']) : EndsNumber rest := by
  rintro b hb
  cases rest with
  | nil => cases hb
  | cons d rest =>
    cases hb
    cases hd : isBlank b with
    | true => exact endsNumber_of_blank (List.forall_mem_singleton.2 hd) b rfl
    | false =>
      rw [skip_cons hd] at h
      cases h
      exact hc

theorem digits?_append (hne : ds ≠ []) (hds : ∀ d ∈ ds, isDigit d = true)
    (hrest : EndsNumber rest) : digits? (ds ++ rest) = some (ds, rest) := by
  have htaken := Text.takeWhile_isDigit hds fun c hc => (hrest c hc).1
  rw [digits?, htaken]
  simp [hne]

theorem ne_nil_toString (n : Nat) : (toString n).toList ≠ [] := by
  rw [Nat.toString_eq_repr, Nat.toList_repr]
  exact Nat.toDigits_ne_nil

theorem whole?_toString (n : Nat) (hrest : EndsNumber rest) :
    whole? ((toString n).toList ++ rest) = some ((toString n).toList, rest) := by
  have hne := ne_nil_toString n
  rcases Nat.eq_zero_or_pos n with rfl | hn
  · have hnone : rest.takeWhile isDigit = [] :=
      @Text.takeWhile_isDigit [] rest (by simp) fun c hc => (hrest c hc).1
    show whole? ('0' :: rest) = some (['0'], rest)
    rw [whole?, hnone]
    rfl
  · unfold whole?
    split
    · next hzero =>
      have hhead := congrArg List.head? hzero
      rw [List.head?_append_of_ne_nil _ hne] at hhead
      exact absurd hhead (Text.head?_toString_ne hn)
    · exact digits?_append hne (fun d hd => Text.isDigit_of_mem_toString hd) hrest

theorem fraction?_of_ends (h : EndsNumber rest) : fraction? rest = some ([], rest) := by
  unfold fraction?
  split
  · exact absurd (h '.' rfl) (by decide)
  · rfl

theorem exponent?_of_ends (h : EndsNumber rest) : exponent? rest = some ([], rest) := by
  cases rest with
  | nil => rfl
  | cons c rest =>
    have hc : ¬ (c = 'e' ∨ c = 'E') := by
      have hsigns := (h c rfl).2
      simp only [List.mem_cons, not_or] at hsigns ⊢
      exact ⟨hsigns.2.1, hsigns.2.2.1⟩
    unfold exponent?
    exact if_neg hc

theorem number?_toString (n : Nat) (hrest : EndsNumber rest) :
    number? ((toString n).toList ++ rest) = some (.nat n, rest) := by
  have hunsigned : unsigned? ((toString n).toList ++ rest) = some ((toString n).toList, rest) := by
    rw [unsigned?, whole?_toString n hrest]
    show (fraction? rest).bind _ = _
    rw [fraction?_of_ends hrest]
    show (exponent? rest).bind _ = _
    rw [exponent?_of_ends hrest]
    simp
  unfold number?
  split
  · next hminus =>
    have hhead := congrArg List.head? hminus
    rw [List.head?_append_of_ne_nil _ (ne_nil_toString n)] at hhead
    exact absurd (Text.isDigit_of_mem_toString (List.mem_of_mem_head? hhead)) (by decide)
  · rw [hunsigned, Option.map_some]
    dsimp only
    rw [String.ofList_toList, nat]

/-- Where a digit stands a number is read. -/
theorem value?_of_isDigit (hc : isDigit c = true) (fuel : Nat) (cs : List Char) :
    value? (fuel + 1) (c :: cs) = number? (c :: cs) := by
  have hne : ∀ d, isDigit d = false → c ≠ d := by
    rintro d hd rfl
    rw [hc] at hd
    cases hd
  have hblank : isBlank c = false := by
    simp [isBlank, hne ' ' rfl, hne '\n' rfl, hne '\t' rfl, hne '\r' rfl]
  rw [value?, skip_cons hblank]
  split
  case h_7 => rfl
  all_goals
    next h => exact absurd (List.cons.inj h).1 (hne _ rfl)

/-! ### What is read off the front -/

/-- Reading takes the value off the front of what begins with these characters, whatever follows
that no number goes on into. It may go two steps for each of them. -/
def Reads (v : Json) (cs : List Char) : Prop :=
  ∀ fuel rest, EndsNumber rest → 2 * cs.length ≤ fuel → value? fuel (cs ++ rest) = some (v, rest)

/-- The value is readable, written in one line as well as over several, at any level. -/
structure Readable (v : Json) : Prop where
  chars : Reads v v.chars
  lines : ∀ level, Reads v (v.lines level)

theorem reads_text (s : String) : Reads (.text s) (stringChars (some s)) := by
  intro fuel rest hrest hfuel
  cases fuel with
  | zero => simp [stringChars] at hfuel
  | succ fuel =>
    rw [stringChars, List.cons_append, value?, skip_cons (by decide)]
    simp only [Option.getD_some, List.append_assoc, List.singleton_append]
    rw [string?_flatMap_escaped]
    rfl

theorem readable_text (s : String) : Readable (.text s) :=
  ⟨reads_text s, fun _ => reads_text s⟩

theorem reads_null : Reads .null "null".toList := by
  intro fuel rest hrest hfuel
  cases fuel with
  | zero => simp at hfuel
  | succ fuel => rfl

theorem readable_null : Readable .null :=
  ⟨reads_null, fun _ => reads_null⟩

theorem reads_nat (n : Nat) : Reads (.nat n) (toString n).toList := by
  intro fuel rest hrest hfuel
  have hnumber := number?_toString n hrest
  cases hdigits : (toString n).toList with
  | nil => exact absurd hdigits (ne_nil_toString n)
  | cons d ds =>
    have hd : isDigit d = true :=
      Text.isDigit_of_mem_toString (n := n) (hdigits ▸ List.mem_cons_self)
    rw [hdigits] at hnumber hfuel
    rw [List.length_cons] at hfuel
    obtain ⟨fuel, rfl⟩ := Nat.exists_eq_add_one.2 (by omega : 0 < fuel)
    rwa [List.cons_append, value?_of_isDigit hd]

theorem readable_nat (n : Nat) : Readable (.nat n) :=
  ⟨reads_nat n, fun _ => reads_nat n⟩

/-! ### Arrays and objects -/

/-- What stands behind the first part of an array or an object: a comma, blanks and a part, again
and again, then blanks and the closing sign. -/
def behindFirst (gap last : List Char) (sign : Char) (write : α → List Char) (parts : List α) :
    List Char :=
  (parts.flatMap fun part => ',' :: (gap ++ write part)) ++ (last ++ [sign])

theorem itemsChars_eq (vs : List Json) : itemsChars vs = behindFirst [] [] ']' chars vs := by
  induction vs with
  | nil => rfl
  | cons v vs ih => rw [itemsChars, ih]; simp [behindFirst]

theorem itemsLines_eq (level : Nat) (vs : List Json) : itemsLines level vs =
    behindFirst (newline (level + 1)) (newline level) ']' (lines (level + 1)) vs := by
  induction vs with
  | nil => rfl
  | cons v vs ih => rw [itemsLines, ih]; simp [behindFirst]

/-- A written member; the blanks are those between its sign and its value. -/
def memberText (space : List Char) (write : Json → List Char) (m : String × Json) : List Char :=
  stringChars (some m.1) ++ ':' :: (space ++ write m.2)

theorem membersChars_eq (ms : List (String × Json)) :
    membersChars (ms.map fun m => (some m.1, m.2)) =
      behindFirst [] [] '\x7d' (memberText [] chars) ms := by
  induction ms with
  | nil => rfl
  | cons m ms ih => rw [List.map_cons, membersChars, ih]; simp [behindFirst, memberText]

theorem membersLines_eq (level : Nat) (ms : List (String × Json)) :
    membersLines level (ms.map fun m => (some m.1, m.2)) =
      behindFirst (newline (level + 1)) (newline level) '\x7d'
        (memberText [' '] (lines (level + 1))) ms := by
  induction ms with
  | nil => rfl
  | cons m ms ih => rw [List.map_cons, membersLines, ih]; simp [behindFirst, memberText]

theorem length_behindFirst_cons {sign : Char} (part : α → List Char) (p : α) (parts : List α) :
    (behindFirst gap last sign part (p :: parts)).length =
      1 + gap.length + (part p ++ behindFirst gap last sign part parts).length := by
  simp only [behindFirst, List.flatMap_cons, List.length_append, List.length_cons]
  omega

theorem skip_behindFirst_nil {sign : Char} (hlast : ∀ b ∈ last, isBlank b = true)
    (hsign : isBlank sign = false) (part : α → List Char) (rest : List Char) :
    skip (behindFirst gap last sign part [] ++ rest) = sign :: rest := by
  rw [behindFirst, List.flatMap_nil, List.nil_append, List.append_assoc, skip_append hlast]
  exact skip_cons hsign rest

theorem skip_behindFirst_cons {sign : Char} (part : α → List Char) (p : α) (parts : List α)
    (rest : List Char) :
    skip (behindFirst gap last sign part (p :: parts) ++ rest) =
      ',' :: (gap ++ (part p ++ (behindFirst gap last sign part parts ++ rest))) := by
  simp only [behindFirst, List.flatMap_cons, List.cons_append, List.append_assoc]
  exact skip_cons (by decide) _

/-- No number goes on into what stands behind a part. -/
theorem endsNumber_behindFirst {sign : Char} (hlast : ∀ b ∈ last, isBlank b = true)
    (hblank : isBlank sign = false) (hsign : isDigit sign = false ∧ sign ∉ ['.', 'e', 'E'])
    (part : α → List Char) (parts : List α) (rest : List Char) :
    EndsNumber (behindFirst gap last sign part parts ++ rest) := by
  cases parts with
  | nil => exact endsNumber_of_skip (skip_behindFirst_nil hlast hblank part rest) hsign
  | cons p parts => exact endsNumber_of_skip (skip_behindFirst_cons part p parts rest) (by decide)

section Member

variable {write : Json → List Char} {m : String × Json}
  (hspace : ∀ b ∈ space, isBlank b = true) (h : Reads m.2 (write m.2))
  (hfuel : 2 * (write m.2).length ≤ fuel)
include hspace h hfuel

theorem members?_more (hafter : skip rest = ',' :: after) :
    members? (fuel + 1) (memberText space write m ++ rest) =
      (members? fuel after).map fun p => ((some m.1, m.2) :: p.1, p.2) := by
  rw [memberText, stringChars, List.cons_append, List.cons_append, members?, skip_cons (by decide)]
  simp only [List.append_assoc, List.cons_append, List.nil_append, Option.getD_some,
    string?_flatMap_escaped, skip_cons (by decide : isBlank ':' = false), value?_append hspace,
    h fuel rest (endsNumber_of_skip hafter (by decide)) hfuel, hafter]

theorem members?_last (hafter : skip rest = '\x7d' :: after) :
    members? (fuel + 1) (memberText space write m ++ rest) = some ([(some m.1, m.2)], after) := by
  rw [memberText, stringChars, List.cons_append, List.cons_append, members?, skip_cons (by decide)]
  simp only [List.append_assoc, List.cons_append, List.nil_append, Option.getD_some,
    string?_flatMap_escaped, skip_cons (by decide : isBlank ':' = false), value?_append hspace,
    h fuel rest (endsNumber_of_skip hafter (by decide)) hfuel, hafter]

end Member

/-- The text of a value does not look like the end of an array. -/
theorem Reads.skip_ne (h : Reads v cs) (hrest : EndsNumber rest) (after : List Char) :
    skip (cs ++ rest) ≠ ']' :: after := by
  intro hskip
  have hvalue := h (2 * cs.length + 1) rest hrest (by omega)
  rw [value?, hskip] at hvalue
  cases hvalue

theorem value?_array (h : ∀ after, skip cs ≠ ']' :: after) (fuel : Nat) :
    value? (fuel + 1) ('[' :: cs) =
      (items? fuel cs).map fun (vs, rest) => (.array vs, rest) := by
  -- `h` closes the branch of the empty array
  simp only [value?, skip_cons (by decide : isBlank '[' = false)]
  rw [items?_skip]

theorem value?_object (h : ∀ after, skip cs ≠ '\x7d' :: after) (fuel : Nat) :
    value? (fuel + 1) ('\x7b' :: cs) =
      (members? fuel cs).map fun (ms, rest) => (.object ms, rest) := by
  simp only [value?, skip_cons (by decide : isBlank '\x7b' = false)]
  rw [members?_skip]

section Parts

variable {write : Json → List Char} (hgap : ∀ b ∈ gap, isBlank b = true)
  (hlast : ∀ b ∈ last, isBlank b = true)
include hgap hlast

theorem items?_of_reads (h : ∀ w ∈ v :: vs, Reads w (write w)) (rest : List Char)
    (hfuel : 2 * (write v ++ behindFirst gap last ']' write vs).length + 1 ≤ fuel) :
    items? fuel (write v ++ (behindFirst gap last ']' write vs ++ rest)) = some (v :: vs, rest) := by
  have hends : ∀ ws rest, EndsNumber (behindFirst gap last ']' write ws ++ rest) :=
    endsNumber_behindFirst hlast (by decide) (by decide) write
  induction vs generalizing v fuel with
  | nil =>
    obtain ⟨fuel, rfl⟩ := Nat.exists_eq_add_one.2 (by omega : 0 < fuel)
    rw [List.length_append] at hfuel
    rw [items?, h v List.mem_cons_self fuel _ (hends [] rest) (by omega)]
    simp only [skip_behindFirst_nil hlast (by decide : isBlank ']' = false)]
  | cons w ws ih =>
    obtain ⟨hv, hws⟩ := List.forall_mem_cons.1 h
    obtain ⟨fuel, rfl⟩ := Nat.exists_eq_add_one.2 (by omega : 0 < fuel)
    rw [List.length_append, length_behindFirst_cons] at hfuel
    have hlater := @ih w fuel hws (by omega)
    rw [items?, hv fuel _ (hends (w :: ws) rest) (by omega)]
    simp only [skip_behindFirst_cons, items?_append hgap, hlater]
    rfl

theorem members?_of_reads (hspace : ∀ b ∈ space, isBlank b = true) {m : String × Json}
    (h : ∀ p ∈ m :: ms, Reads p.2 (write p.2)) (rest : List Char)
    (hfuel : 2 * (memberText space write m ++
      behindFirst gap last '\x7d' (memberText space write) ms).length + 1 ≤ fuel) :
    members? fuel (memberText space write m ++
      (behindFirst gap last '\x7d' (memberText space write) ms ++ rest)) =
        some ((m :: ms).map fun p => (some p.1, p.2), rest) := by
  have hlonger : ∀ p : String × Json,
      (write p.2).length ≤ (memberText space write p).length := fun p => by
    simp only [memberText, List.length_append, List.length_cons]
    omega
  induction ms generalizing m fuel with
  | nil =>
    obtain ⟨fuel, rfl⟩ := Nat.exists_eq_add_one.2 (by omega : 0 < fuel)
    rw [List.length_append] at hfuel
    have := hlonger m
    exact members?_last hspace (h m List.mem_cons_self) (by omega)
      (skip_behindFirst_nil hlast (by decide) _ rest)
  | cons n ns ih =>
    obtain ⟨hm, hns⟩ := List.forall_mem_cons.1 h
    obtain ⟨fuel, rfl⟩ := Nat.exists_eq_add_one.2 (by omega : 0 < fuel)
    rw [List.length_append, length_behindFirst_cons] at hfuel
    have := hlonger m
    have hlater := @ih fuel n hns (by omega)
    rw [members?_more hspace hm (by omega) (skip_behindFirst_cons _ n ns rest),
      members?_append hgap, hlater]
    rfl

theorem reads_array_cons (h : ∀ w ∈ v :: vs, Reads w (write w)) :
    Reads (.array (v :: vs)) ('[' :: (gap ++ (write v ++ behindFirst gap last ']' write vs))) := by
  intro fuel rest hrest hfuel
  rw [List.length_cons, List.length_append] at hfuel
  obtain ⟨fuel, rfl⟩ := Nat.exists_eq_add_one.2 (by omega : 0 < fuel)
  have hitems := items?_of_reads hgap hlast h rest (by omega : _ ≤ fuel)
  have hends : ∀ ws rest, EndsNumber (behindFirst gap last ']' write ws ++ rest) :=
    endsNumber_behindFirst hlast (by decide) (by decide) write
  have hstart : ∀ after, skip (gap ++ (write v ++ (behindFirst gap last ']' write vs ++ rest))) ≠
      ']' :: after := fun after => by
    rw [skip_append hgap]
    exact (h v List.mem_cons_self).skip_ne (hends vs rest) after
  rw [List.cons_append, List.append_assoc, List.append_assoc, value?_array hstart,
    items?_append hgap, hitems]
  rfl

theorem reads_members_cons (hspace : ∀ b ∈ space, isBlank b = true) {m : String × Json}
    (h : ∀ p ∈ m :: ms, Reads p.2 (write p.2)) :
    Reads (.members (m :: ms)) ('\x7b' :: (gap ++ (memberText space write m ++
      behindFirst gap last '\x7d' (memberText space write) ms))) := by
  intro fuel rest hrest hfuel
  rw [List.length_cons, List.length_append] at hfuel
  obtain ⟨fuel, rfl⟩ := Nat.exists_eq_add_one.2 (by omega : 0 < fuel)
  have hmembers := members?_of_reads hgap hlast hspace h rest (by omega : _ ≤ fuel)
  have hstart : ∀ after, skip (gap ++ (memberText space write m ++
      (behindFirst gap last '\x7d' (memberText space write) ms ++ rest))) ≠ '\x7d' :: after := by
    intro after
    rw [skip_append hgap, memberText, stringChars, List.cons_append, List.cons_append,
      skip_cons (by decide)]
    intro heq
    cases heq
  rw [List.cons_append, List.append_assoc, List.append_assoc, value?_object hstart,
    members?_append hgap, hmembers]
  rfl

end Parts

theorem reads_array_nil : Reads (.array []) ['[', ']'] := by
  intro fuel rest hrest hfuel
  cases fuel with
  | zero => simp at hfuel
  | succ fuel => rfl

theorem reads_members_nil : Reads (.members []) ['\x7b', '\x7d'] := by
  intro fuel rest hrest hfuel
  cases fuel with
  | zero => simp at hfuel
  | succ fuel => rfl

/-- An array of readable values is readable. -/
theorem readable_array (h : ∀ v ∈ vs, Readable v) : Readable (.array vs) := by
  cases vs with
  | nil => exact ⟨reads_array_nil, fun _ => reads_array_nil⟩
  | cons v vs =>
    refine ⟨?_, fun level => ?_⟩
    · have hblank : ∀ b ∈ ([] : List Char), isBlank b = true := by simp
      rw [chars, itemsChars_eq]
      exact reads_array_cons hblank hblank fun w hw => (h w hw).chars
    · rw [lines, itemsLines_eq]
      exact reads_array_cons isBlank_of_mem_newline isBlank_of_mem_newline
        fun w hw => (h w hw).lines (level + 1)

/-- An object of readable values is readable. -/
theorem readable_members (h : ∀ m ∈ ms, Readable m.2) : Readable (.members ms) := by
  cases ms with
  | nil => exact ⟨reads_members_nil, fun _ => reads_members_nil⟩
  | cons m ms =>
    refine ⟨?_, fun level => ?_⟩
    · have hblank : ∀ b ∈ ([] : List Char), isBlank b = true := by simp
      have htext : chars (.members (m :: ms)) = '\x7b' :: ([] ++ (memberText [] chars m ++
          behindFirst [] [] '\x7d' (memberText [] chars) ms)) := by
        rw [members, List.map_cons, chars, membersChars_eq, memberText]
        simp only [List.nil_append, List.append_assoc, List.cons_append]
      rw [htext]
      exact reads_members_cons hblank hblank hblank fun p hp => (h p hp).chars
    · have hblank : ∀ b ∈ [' '], isBlank b = true := by
        intro b hb
        rw [List.mem_singleton.1 hb]
        decide
      have htext : lines level (.members (m :: ms)) = '\x7b' :: (newline (level + 1) ++
          (memberText [' '] (lines (level + 1)) m ++ behindFirst (newline (level + 1))
            (newline level) '\x7d' (memberText [' '] (lines (level + 1))) ms)) := by
        rw [members, List.map_cons, lines, membersLines_eq, memberText]
        simp only [List.nil_append, List.append_assoc, List.cons_append]
      rw [htext]
      exact reads_members_cons isBlank_of_mem_newline isBlank_of_mem_newline hblank
        fun p hp => (h p hp).lines (level + 1)

/-! ### Whole texts -/

/-- Blanks may follow. -/
theorem ofChars?_of_reads (h : Reads v cs) (hgap : ∀ b ∈ gap, isBlank b = true) :
    ofChars? (cs ++ gap) = some v := by
  have hvalue := h (2 * (cs ++ gap).length + 2) gap (endsNumber_of_blank hgap)
    (by rw [List.length_append]; omega)
  have hskip : skip gap = [] := by
    rw [← List.append_nil gap, skip_append hgap]
    rfl
  rw [ofChars?, hvalue]
  dsimp only
  rw [hskip]
  rfl

theorem read?_compact (h : Readable v) : read? v.compact = some v := by
  rw [read?, compact, String.toList_ofList, ← List.append_nil v.chars]
  exact ofChars?_of_reads h.chars (by simp)

theorem read?_pretty (h : Readable v) : read? v.pretty = some v := by
  rw [read?, pretty, String.toList_ofList, ← List.append_nil (v.lines 0)]
  exact ofChars?_of_reads (h.lines 0) (by simp)

/-- What is printed ends with a line break, which is read as nothing. -/
theorem read?_pretty_newline (h : Readable v) : read? (v.pretty ++ "\n") = some v := by
  rw [read?, String.toList_append, pretty, String.toList_ofList]
  exact ofChars?_of_reads (h.lines 0) (@isBlank_of_mem_newline 0)

end Registrar.Json
