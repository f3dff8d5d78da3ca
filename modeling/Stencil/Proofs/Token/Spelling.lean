import Stencil.Proofs.Token.Rules
import Stencil.Proofs.Tree.Written

/-!
# How tokens are spelt

For each kind of token, characters that are taken as it, whatever follows them within the bounds
that the lemma names. A text must be followed by an opener or by nothing, blanks by something that
is not blank, a name by something that no name goes on with.
-/

namespace Stencil.Token

/-! ## Marks -/

/-- A mark that begins before the blank ends before it. -/
theorem prefix_of_prefix_append_cons {mark cs rest : List Char} (hmark : ' ' ∉ mark)
    (h : mark <+: cs ++ ' ' :: rest) : mark <+: cs := by
  induction mark generalizing cs with
  | nil => exact List.nil_prefix
  | cons m mark ih =>
    rw [List.mem_cons, not_or] at hmark
    cases cs with
    | nil =>
      rw [List.nil_append, List.cons_prefix_cons] at h
      exact absurd h.1.symm hmark.1
    | cons c cs =>
      rw [List.cons_append, List.cons_prefix_cons] at h
      rw [List.cons_prefix_cons]
      exact ⟨h.1, ih hmark.2 h.2⟩

/-- The first occurrence of a mark is the one behind the blank. -/
theorem cut?_append {mark cs : List Char} (rest : List Char) (hne : mark ≠ [])
    (hmark : ' ' ∉ mark) (hcs : ¬ mark <:+: cs) :
    cut? mark (cs ++ ' ' :: (mark ++ rest)) = some (cs ++ [' '], rest) := by
  have hhere : ∀ cs', ¬ mark <+: cs' → mark.isPrefixOf (cs' ++ ' ' :: (mark ++ rest)) = false := by
    intro cs' hcs'
    rw [Bool.eq_false_iff, ne_eq, List.isPrefixOf_iff_prefix]
    intro hprefix
    exact hcs' (prefix_of_prefix_append_cons hmark hprefix)
  induction cs with
  | nil =>
    obtain ⟨m, ms, rfl⟩ := List.exists_cons_of_ne_nil hne
    have hskip := hhere [] (fun h => hcs h.isInfix)
    rw [List.nil_append] at hskip ⊢
    have hcut : cut? (m :: ms) (m :: ms ++ rest) = some ([], rest) := by
      rw [List.cons_append, cut?, if_pos]
      · rw [← List.cons_append, List.drop_left]
      · rw [List.isPrefixOf_iff_prefix, ← List.cons_append]
        exact List.prefix_append _ _
    rw [cut?, if_neg (by rw [hskip]; exact Bool.false_ne_true), hcut]
    rfl
  | cons c cs ih =>
    rw [List.infix_cons_iff, not_or] at hcs
    have hskip := hhere (c :: cs) hcs.1
    rw [List.cons_append] at hskip ⊢
    rw [cut?, if_neg (by rw [hskip]; exact Bool.false_ne_true), ih hcs.2]
    rfl

/-! ## Outside of markers -/

theorem splitAtOpener_cons {c : Char} {cs : List Char} (h : ¬ ['{', '{'] <+: c :: cs) :
    splitAtOpener (c :: cs) = (c :: (splitAtOpener cs).1, (splitAtOpener cs).2) := by
  rw [splitAtOpener]
  rintro cs' rfl rfl
  exact h ⟨cs', rfl⟩

theorem splitAtOpener_of_prefix {cs : List Char} (h : cs = [] ∨ ['{', '{'] <+: cs) :
    splitAtOpener cs = ([], cs) := by
  rcases h with rfl | ⟨cs, rfl⟩ <;> rfl

/-- Characters without an opener in them, also not in part. -/
theorem splitAtOpener_eq {cs rest : List Char} (hcs : ¬ ['{', '{'] <:+: cs)
    (hlast : cs.getLast? = some '{' → rest = []) (hrest : rest = [] ∨ ['{', '{'] <+: rest) :
    splitAtOpener (cs ++ rest) = (cs, rest) := by
  induction cs with
  | nil => exact splitAtOpener_of_prefix hrest
  | cons c cs ih =>
    rw [List.infix_cons_iff, not_or] at hcs
    have hhead : ¬ ['{', '{'] <+: c :: (cs ++ rest) := by
      cases cs with
      | nil =>
        rintro ⟨more, hmore⟩
        obtain ⟨rfl, hmore⟩ := List.cons.inj hmore
        rw [hlast rfl] at hmore
        cases hmore
      | cons d cs =>
        rw [List.cons_append, List.cons_prefix_cons, List.cons_prefix_cons]
        rintro ⟨rfl, rfl, -⟩
        exact hcs.1 ⟨cs, rfl⟩
    have htail : cs.getLast? = some '{' → rest = [] := by
      intro h
      apply hlast
      cases cs with
      | nil => cases h
      | cons d cs => rw [List.getLast?_cons_cons, h]
    rw [List.cons_append, splitAtOpener_cons hhead, ih hcs.2 htail]

theorem commentRule_refused {cs : List Char} (h : ¬ ['{', '{', '!'] <+: cs) :
    commentRule cs = .refused := by
  unfold commentRule
  split
  · exact absurd ⟨_, rfl⟩ h
  · exact absurd ⟨_, rfl⟩ h
  · rfl

theorem openerRule_refused {cs : List Char} (h : ¬ ['{', '{'] <+: cs) :
    openerRule cs = .refused := by
  unfold openerRule
  split
  case h_5 => rfl
  all_goals exact absurd ⟨_, rfl⟩ h

theorem outsideRule_text {cs rest : List Char} (hne : cs ≠ []) (hcs : ¬ ['{', '{'] <:+: cs)
    (hlast : cs.getLast? = some '{' → rest = []) (hrest : rest = [] ∨ ['{', '{'] <+: rest) :
    outsideRule (cs ++ rest) = .taken (.text (String.ofList cs)) rest := by
  have hsplit := splitAtOpener_eq hcs hlast hrest
  have hopener : ¬ ['{', '{'] <+: cs ++ rest := by
    rintro ⟨more, hmore⟩
    rw [← hmore] at hsplit
    exact hne (Prod.mk.inj hsplit).1.symm
  have hcomment : ¬ ['{', '{', '!'] <+: cs ++ rest :=
    fun h => hopener (List.IsPrefix.trans ⟨['!'], rfl⟩ h)
  have htext : textRule (cs ++ rest) = .taken (.text (String.ofList cs)) rest := by
    unfold textRule
    rw [hsplit]
    obtain ⟨c, cs, rfl⟩ := List.exists_cons_of_ne_nil hne
    rfl
  unfold outsideRule
  rw [firstOf_of_refused (commentRule_refused hcomment),
    firstOf_of_refused (openerRule_refused hopener), firstOf_of_taken htext]

theorem outsideRule_comment {cs : List Char} (rest : List Char) (htrim : Text.trim cs = cs)
    (hcs : ¬ ['-', '-', '}', '}'] <:+: cs) :
    outsideRule ('{' :: '{' :: '!' :: '-' :: '-' :: ' ' :: (cs ++ ' ' :: '-' :: '-' :: '}' :: '}' ::
      rest)) = .taken (.comment (String.ofList cs)) rest := by
  have hblank : ¬ ['-', '-', '}', '}'] <:+: ' ' :: cs := by
    rw [List.infix_cons_iff, List.cons_prefix_cons, not_or]
    exact ⟨fun h => absurd h.1 (by decide), hcs⟩
  have hcut : cut? ['-', '-', '}', '}'] (' ' :: (cs ++ ' ' :: '-' :: '-' :: '}' :: '}' :: rest)) =
      some (' ' :: (cs ++ [' ']), rest) :=
    cut?_append rest (by simp) (by decide) hblank
  have hcomment : commentRule ('{' :: '{' :: '!' :: '-' :: '-' :: ' ' :: (cs ++ ' ' :: '-' :: '-' ::
      '}' :: '}' :: rest)) = .taken (.comment (String.ofList cs)) rest := by
    simp only [commentRule, hcut]
    unfold commentToken
    rw [Text.trim_cons (by decide), Text.trim_concat (by decide), htrim]
  unfold outsideRule
  rw [firstOf_of_taken hcomment]

/-- The interpolation opener ends where no longer opener goes on. -/
theorem outsideRule_opener (marker : Marker) {rest : List Char}
    (h : marker = .interpolation → ∀ c ∈ rest.head?, c ∉ ['#', '^', '/', '!']) :
    outsideRule (marker.chars ++ rest) = .taken (.opener marker) rest := by
  have hcomment : commentRule (marker.chars ++ rest) = .refused := by
    apply commentRule_refused
    rintro ⟨more, hmore⟩
    cases marker
    case interpolation =>
      obtain rfl : '!' :: more = rest := (List.cons.inj (List.cons.inj hmore).2).2
      exact h rfl '!' rfl (by decide)
    all_goals exact absurd (List.cons.inj (List.cons.inj (List.cons.inj hmore).2).2).1 (by decide)
  have hopener : openerRule (marker.chars ++ rest) = .taken (.opener marker) rest := by
    cases marker
    case interpolation =>
      show openerRule ('{' :: '{' :: rest) = _
      rw [openerRule]
      · rintro cs rfl
        exact h rfl '#' rfl (by decide)
      · rintro cs rfl
        exact h rfl '^' rfl (by decide)
      · rintro cs rfl
        exact h rfl '/' rfl (by decide)
    all_goals rfl
  unfold outsideRule
  rw [firstOf_of_refused hcomment, firstOf_of_taken hopener]

/-! ## Inside of markers -/

theorem takeWhile_eq {p : Char → Bool} {read rest : List Char} (hread : ∀ c ∈ read, p c = true)
    (hrest : ∀ c ∈ rest.head?, p c = false) :
    (read ++ rest).takeWhile p = read ∧ (read ++ rest).dropWhile p = rest := by
  rw [List.takeWhile_append_of_pos hread, List.dropWhile_append_of_pos hread]
  cases rest with
  | nil => simp
  | cons c rest =>
    have hc := hrest c rfl
    rw [List.takeWhile_cons, List.dropWhile_cons, hc]
    simp

theorem whitespaceRule_refused {c : Char} {cs : List Char} (h : Text.isBlank c = false) :
    whitespaceRule (c :: cs) = .refused := by
  unfold whitespaceRule
  rw [List.takeWhile_cons, h]
  rfl

theorem closerRule_refused {c : Char} {cs : List Char} (h : c ≠ '}') :
    closerRule (c :: cs) = .refused := by
  unfold closerRule
  split
  · rename_i heq
    exact absurd (List.cons.inj heq).1 h
  · rfl

theorem literalRule_refused {c : Char} {cs : List Char} (h : c ≠ '"') :
    literalRule (c :: cs) = .refused := by
  unfold literalRule
  split
  · rename_i heq
    exact absurd (List.cons.inj heq).1 h
  · rfl

theorem symbolRule_refused {c : Char} {cs : List Char} (h : c ∉ ['.', '(', ')']) :
    symbolRule (c :: cs) = .refused := by
  unfold symbolRule
  split
  case h_4 => rfl
  all_goals
    rename_i heq
    obtain ⟨rfl, -⟩ := List.cons.inj heq
    exact absurd (by decide) h

theorem insideRule_whitespace {read rest : List Char} (hne : read ≠ [])
    (hread : ∀ c ∈ read, Text.isBlank c = true) (hrest : ∀ c ∈ rest.head?, Text.isBlank c = false) :
    insideRule (read ++ rest) = .taken (.whitespace (String.ofList read)) rest := by
  obtain ⟨htake, hdrop⟩ := takeWhile_eq hread hrest
  refine firstOf_of_taken ?_ _
  unfold whitespaceRule
  rw [htake, hdrop]
  obtain ⟨c, read, rfl⟩ := List.exists_cons_of_ne_nil hne
  rfl

theorem insideRule_closer (rest : List Char) :
    insideRule ('}' :: '}' :: rest) = .taken .closer rest := by
  have hcloser : closerRule ('}' :: '}' :: rest) = .taken .closer rest := rfl
  unfold insideRule
  rw [firstOf_of_refused (whitespaceRule_refused (by decide)), firstOf_of_taken hcloser]

theorem literalBody_escaped (c : Char) (cs : List Char) :
    literalBody (escaped c ++ cs) =
      (literalBody cs).map fun (value, rest) => (c :: value, rest) := by
  unfold escaped
  by_cases hc : c = '\\' ∨ c = '"'
  · rw [if_pos hc]
    have hescape : escape? c = some c := by
      unfold escape?
      rw [if_pos hc]
    rw [List.cons_append, List.singleton_append, literalBody, hescape]
  · rw [if_neg hc, List.singleton_append]
    rw [not_or] at hc
    rw [literalBody]
    · exact hc.2
    · intro h
      exact absurd h hc.1
    · intro _ _ h
      exact absurd h hc.1

theorem literalBody_flatMap (value rest : List Char) :
    literalBody (value.flatMap escaped ++ '"' :: rest) = .ok (value, rest) := by
  induction value with
  | nil => rfl
  | cons c value ih =>
    rw [List.flatMap_cons, List.append_assoc, literalBody_escaped, ih]
    rfl

theorem insideRule_literal (value rest : List Char) :
    insideRule ('"' :: (value.flatMap escaped ++ '"' :: rest)) =
      .taken (.literal (String.ofList value)) rest := by
  have hliteral : literalRule ('"' :: (value.flatMap escaped ++ '"' :: rest)) =
      .taken (.literal (String.ofList value)) rest := by
    rw [literalRule, literalBody_flatMap]
  unfold insideRule
  rw [firstOf_of_refused (whitespaceRule_refused (by decide)),
    firstOf_of_refused (closerRule_refused (by decide)), firstOf_of_taken hliteral]

theorem insideRule_symbol {c : Char} {cs rest : List Char} {t : Token} (hc : c ∈ ['.', '(', ')'])
    (h : symbolRule (c :: cs) = .taken t rest) : insideRule (c :: cs) = .taken t rest := by
  obtain ⟨hwhitespace, hcloser, hliteral⟩ : Text.isBlank c = false ∧ c ≠ '}' ∧ c ≠ '"' := by
    simp only [List.mem_cons, List.not_mem_nil, or_false] at hc
    rcases hc with rfl | rfl | rfl <;> decide
  unfold insideRule
  rw [firstOf_of_refused (whitespaceRule_refused hwhitespace),
    firstOf_of_refused (closerRule_refused hcloser),
    firstOf_of_refused (literalRule_refused hliteral), firstOf_of_taken h]

/-! ## Names -/

theorem isBlank_eq_false {c : Char} (h : isIdentifierChar c = true) : Text.isBlank c = false := by
  by_cases hblank : Text.isBlank c = true
  · have hletter := Text.not_isAlphanumeric_of_isBlank hblank
    unfold isIdentifierChar at h
    rw [hletter] at h
    have hc : c = '_' ∨ c = '$' ∨ c = '-' := by
      simpa [or_assoc] using h
    rcases hc with rfl | rfl | rfl <;> decide
  · simpa using hblank

theorem insideRule_identifier {name rest : List Char} (hne : name ≠ [])
    (hname : ∀ c ∈ name, isIdentifierChar c = true)
    (hrest : ∀ c ∈ rest.head?, isIdentifierChar c = false) :
    insideRule (name ++ rest) = .taken (.identifier (String.ofList name)) rest := by
  obtain ⟨htake, hdrop⟩ := takeWhile_eq hname hrest
  obtain ⟨c, cs, rfl⟩ := List.exists_cons_of_ne_nil hne
  have hc : isIdentifierChar c = true := hname c List.mem_cons_self
  have hother : ∀ d, isIdentifierChar d = false → c ≠ d := by
    rintro d hd rfl
    rw [hc] at hd
    cases hd
  have hsymbol : c ∉ ['.', '(', ')'] := by
    intro h
    simp only [List.mem_cons, List.not_mem_nil, or_false] at h
    rcases h with rfl | rfl | rfl
    · exact hother '.' (by decide) rfl
    · exact hother '(' (by decide) rfl
    · exact hother ')' (by decide) rfl
  have hidentifier : identifierRule (c :: cs ++ rest) =
      .taken (.identifier (String.ofList (c :: cs))) rest := by
    unfold identifierRule
    rw [htake, hdrop]
  unfold insideRule
  rw [List.cons_append] at hidentifier ⊢
  rw [firstOf_of_refused (whitespaceRule_refused (isBlank_eq_false hc)),
    firstOf_of_refused (closerRule_refused (hother '}' (by decide))),
    firstOf_of_refused (literalRule_refused (hother '"' (by decide))),
    firstOf_of_refused (symbolRule_refused hsymbol), firstOf_of_taken hidentifier]

end Stencil.Token
