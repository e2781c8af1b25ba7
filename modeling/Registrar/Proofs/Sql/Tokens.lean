import Registrar.Proofs.Sql.Reading
import Registrar.Proofs.Text.Decimal

/-!
How the texts of statements are cut up. A blank or a sign ends a word, so that a text can be cut at
any of them (`tokensFrom_append`); parts in brackets are cut up one by one (`tokens_bracketed`). The
names of columns and the placeholders are single words.
-/

namespace Registrar.Sql

/-! ### Cutting a text -/

theorem putWord_append (word : List Char) (ts us : List Token) :
    putWord word (ts ++ us) = putWord word ts ++ us := by
  unfold putWord
  split
  · rfl
  · rw [List.cons_append]

theorem tokensFrom_append {c : Char} (hc : endsWord c = true) (word cs ds : List Char) :
    tokensFrom word (cs ++ c :: ds) = tokensFrom word cs ++ tokensFrom [] (c :: ds) := by
  induction cs generalizing word with
  | nil =>
    have hnil : putWord [] ((Token.ofSign? c).toList ++ tokensFrom [] ds) =
        (Token.ofSign? c).toList ++ tokensFrom [] ds := rfl
    rw [List.nil_append, tokensFrom, tokensFrom, tokensFrom, if_pos hc, if_pos hc, hnil,
      ← putWord_append, List.nil_append]
  | cons d cs ih =>
    rw [List.cons_append, tokensFrom, tokensFrom]
    by_cases hd : endsWord d = true
    · rw [if_pos hd, if_pos hd, ih, ← List.append_assoc, putWord_append]
    · rw [if_neg hd, if_neg hd, ih]

theorem tokensFrom_word {word cs : List Char} (h : ∀ c ∈ cs, endsWord c = false) :
    tokensFrom word cs = putWord (word ++ cs) [] := by
  induction cs generalizing word with
  | nil => rw [tokensFrom, List.append_nil]
  | cons c cs ih =>
    have hc : ¬ endsWord c = true := by simp [h c (.head _)]
    rw [tokensFrom, if_neg hc, ih fun d hd => h d (.tail _ hd), List.append_assoc]
    rfl

/-- A blank adds nothing, a sign adds itself. -/
theorem tokensFrom_ends {c : Char} (hc : endsWord c = true) (cs : List Char) :
    tokensFrom [] (c :: cs) = (Token.ofSign? c).toList ++ tokensFrom [] cs := by
  rw [tokensFrom, if_pos hc]
  rfl

theorem tokens_append {c : Char} (hc : endsWord c = true) (s : String) {t : String}
    (cs : List Char) (ht : t.toList = c :: cs) : tokens (s ++ t) = tokens s ++ tokens t := by
  unfold tokens
  rw [String.toList_append, ht, tokensFrom_append hc]

/-- A blank at the end of a piece may as well begin the next one. -/
theorem append_blank (s t u : String) : s ++ (t ++ " ") ++ u = s ++ t ++ (" " ++ u) := by
  rw [← String.append_assoc, String.append_assoc]

theorem tokens_blank (s : String) : tokens (" " ++ s) = tokens s := by
  unfold tokens
  rw [String.toList_append]
  exact tokensFrom_ends (by decide) _

/-! ### Placeholders and columns -/

theorem tokens_word {s : String} (hs : s.toList ≠ []) (h : ∀ c ∈ s.toList, endsWord c = false) :
    tokens s = [Token.ofWord s.toList] := by
  unfold tokens
  rw [tokensFrom_word h, List.nil_append, putWord, if_neg (by simpa using hs)]

theorem endsWord_of_isDigit {c : Char} (h : Text.isDigit c = true) :
    endsWord c = false ∧ c ≠ ':' := by
  have not_digit : [' ', '(', ')', ',', '=', ':'].all (fun d => !Text.isDigit d) = true := by decide
  have hne : ∀ d ∈ [' ', '(', ')', ',', '=', ':'], c ≠ d := by
    rintro d hd rfl
    have hd := List.all_eq_true.1 not_digit _ hd
    simp [h] at hd
  refine ⟨?_, hne ':' (by decide)⟩
  unfold endsWord Token.ofSign?
  split
  · exact absurd rfl (hne '(' (by decide))
  · exact absurd rfl (hne ')' (by decide))
  · exact absurd rfl (hne ',' (by decide))
  · exact absurd rfl (hne '=' (by decide))
  · simpa using hne ' ' (by decide)

/-- A placeholder with casts behind it; `more` are the pieces of the casts between colons. -/
theorem tokens_placeholder_casts {casts : String} {more : List (List Char)} {types : List String}
    (hword : ∀ c ∈ casts.toList, endsWord c = false)
    (hsplit : ∀ digits : List Char, ':' ∉ digits →
      (digits ++ casts.toList).splitOn ':' = digits :: more)
    (htypes : Token.casts? more = some types) (n : Nat) :
    tokens (placeholder n ++ casts) = [.placeholder n types] := by
  have hlist : (placeholder n ++ casts).toList =
      '$' :: ((toString n).toList ++ casts.toList) := by
    unfold placeholder
    rw [String.toList_append, String.toList_append]
    rfl
  have hdigits : ':' ∉ (toString n).toList := fun h =>
    (endsWord_of_isDigit (Text.isDigit_of_mem_toString h)).2 rfl
  have hends : ∀ c ∈ (placeholder n ++ casts).toList, endsWord c = false := by
    rw [hlist]
    refine List.forall_mem_cons.2 ⟨by decide, List.forall_mem_append.2 ⟨fun c hc => ?_, hword⟩⟩
    exact (endsWord_of_isDigit (Text.isDigit_of_mem_toString hc)).1
  rw [tokens_word (by simp [hlist]) hends, hlist]
  unfold Token.ofWord Token.placeholder?
  simp only [hsplit _ hdigits, Text.digits?_toString, htypes]

theorem tokens_placeholder (n : Nat) : tokens (placeholder n) = [.placeholder n []] := by
  have h := @tokens_placeholder_casts "" [] [] (by simp)
    (fun digits hdigits => by simpa using List.splitOn_eq_singleton hdigits) rfl n
  rwa [String.append_empty] at h

theorem tokens_column (f : Field) : tokens f.column = [.name f.column] := by
  have h : ∀ g ∈ Field.all, tokens g.column = [.name g.column] := by decide +kernel
  exact h f (Field.mem_all f)

/-! ### Lists and parts in brackets -/

/-- Texts with a separator between them, of which one token is left. -/
theorem tokens_intercalate {separator : String} {sign : Token}
    (hsign : ∀ s t, tokens (s ++ separator ++ t) = tokens s ++ sign :: tokens t)
    (p : String) (ps : List String) :
    tokens (String.intercalate separator (p :: ps)) =
      tokens p ++ ps.flatMap fun q => sign :: tokens q := by
  induction ps generalizing p with
  | nil => rw [String.intercalate_singleton, List.flatMap_nil, List.append_nil]
  | cons q qs ih =>
    rw [String.intercalate_cons_cons, hsign, ih, List.flatMap_cons, List.cons_append]

theorem tokens_parentheses (s : String) :
    tokens ("(" ++ s ++ ")") = .opening :: tokens s ++ [.closing] := by
  have hopen : tokens ("(" ++ s) = .opening :: tokens s := by
    unfold tokens
    rw [String.toList_append]
    exact tokensFrom_ends (by decide) _
  rw [tokens_append (by decide) _ [] (show ")".toList = [')'] from rfl), hopen]
  rfl

theorem tokens_comma (s t : String) : tokens (s ++ ", " ++ t) = tokens s ++ .comma :: tokens t := by
  have hcomma : tokens (", " ++ t) = .comma :: tokens t := by
    unfold tokens
    rw [String.toList_append]
    rfl
  rw [String.append_assoc, tokens_append (show endsWord ',' = true by decide) s (' ' :: t.toList)
    (by simp), hcomma]

theorem tokens_joiner (k : Connective) (s t : String) :
    tokens (s ++ (" " ++ k.word ++ " ") ++ t) = tokens s ++ .joiner k :: tokens t := by
  have blank : endsWord ' ' = true := by decide
  have hword : tokens (" " ++ k.word) = [.joiner k] := by cases k <;> decide
  calc tokens (s ++ (" " ++ k.word ++ " ") ++ t)
      = tokens (s ++ ((" " ++ k.word) ++ (" " ++ t))) := by simp only [String.append_assoc]
    _ = tokens s ++ tokens ((" " ++ k.word) ++ (" " ++ t)) := by
        refine tokens_append blank s (k.word.toList ++ ' ' :: t.toList) ?_
        simp
    _ = tokens s ++ (tokens (" " ++ k.word) ++ tokens (" " ++ t)) := by
        rw [tokens_append blank (" " ++ k.word) t.toList (by simp)]
    _ = tokens s ++ .joiner k :: tokens t := by
        rw [hword, tokens_blank]
        rfl

/-- Parts in brackets are cut up one by one. -/
theorem tokens_bracketed (k : Connective) (p : String) (ps : List String) :
    tokens (bracketed k (p :: ps)) =
      .opening :: (tokens p ++ ps.flatMap fun q => .joiner k :: tokens q) ++ [.closing] := by
  show tokens ("(" ++ String.intercalate (" " ++ k.word ++ " ") (p :: ps) ++ ")") = _
  rw [tokens_parentheses, tokens_intercalate (tokens_joiner k)]

end Registrar.Sql
