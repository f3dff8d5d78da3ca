import Stencil.Proofs.Lexeme.Splits
import Stencil.Proofs.Token.Reader

/-!
# Literals

Behind the opening quote, the longest run of items decides: a literal ends in a quote there, and
`Complaint` says what is wrong otherwise (`literal_decodes`).

`Reader.literal` reads a literal in parts, by an optional run of turns between two quotes. Wherever
the turns end, it comes to the same as `literalRule` (`literal_agrees`).
-/

namespace Stencil.Token

/-! ## The longest run of items -/

def isPlain (c : Char) : Bool :=
  c ≠ '\\' && c ≠ '"'

theorem isPlain_eq_true {c : Char} (hbackslash : c ≠ '\\') (hquote : c ≠ '"') :
    isPlain c = true := by
  simp [isPlain, hbackslash, hquote]

/-- What is wrong with a literal that goes on like this behind its items. -/
inductive Complaint : List Char → String → Prop
  | ends : Complaint [] "unterminated string literal"
  | backslash : Complaint ['\\'] "unterminated string literal"
  | escape {c : Char} (rest : List Char) : (∀ e, ¬ Escapes c e) →
    Complaint ('\\' :: c :: rest) "invalid escape sequence"

/-- No item of a literal begins here. -/
def NoItem (cs : List Char) : Prop :=
  ['"'] <+: cs ∨ ∃ message, Complaint cs message

/-- The longest beginning of `cs` that consists of items, with the value that it spells. -/
structure LongestSpelling (cs body value rest : List Char) : Prop where
  eq_append : cs = body ++ rest
  spells : Spells body value
  longest : ∀ other value' more, cs = other ++ more → Spells other value' →
    other.length ≤ body.length

theorem exists_noItem (cs : List Char) :
    ∃ body value rest, cs = body ++ rest ∧ Spells body value ∧ NoItem rest := by
  rcases literalBody_cases cs with ⟨body, value, rest, h, rfl⟩ | ⟨body, value, h, rfl | rfl⟩ |
    ⟨body, value, c, rest, h, hc, rfl⟩
  · exact ⟨body, value, _, rfl, h, .inl ⟨rest, rfl⟩⟩
  · exact ⟨_, value, [], (List.append_nil _).symm, h, .inr ⟨_, .ends⟩⟩
  · exact ⟨body, value, _, rfl, h, .inr ⟨_, .backslash⟩⟩
  · exact ⟨body, value, _, rfl, h, .inr ⟨_, .escape rest hc⟩⟩

theorem NoItem.not_isPlain {cs : List Char} (h : NoItem cs) :
    ∀ c ∈ cs.head?, isPlain c = false := by
  rcases h with ⟨more, rfl⟩ | ⟨message, h⟩
  · rintro c ⟨⟩
    rfl
  · cases h with
    | ends => exact fun _ hc => nomatch hc
    | backslash =>
      rintro c ⟨⟩
      rfl
    | escape _ _ =>
      rintro c ⟨⟩
      rfl

theorem NoItem.eq_nil {cs body value rest : List Char} (h : NoItem cs) (heq : cs = body ++ rest)
    (hspells : Spells body value) : body = [] := by
  cases hspells with
  | nil => rfl
  | plain hbackslash hquote _ =>
    subst heq
    exact absurd (isPlain_eq_true hbackslash hquote) (Bool.eq_false_iff.1 (h.not_isPlain _ rfl))
  | escape hescape _ =>
    rcases h with ⟨more, rfl⟩ | ⟨message, h⟩
    · exact absurd (List.cons.inj heq).1 (by decide)
    · cases h with
      | ends => cases heq
      | backslash => cases (List.cons.inj heq).2
      | escape _ hc =>
        obtain ⟨rfl, -⟩ := List.cons.inj (List.cons.inj heq).2
        exact absurd hescape (hc _)

/-- Items that lead to where no item begins are all that there are. -/
theorem Spells.length_le {body value rest other value' more : List Char} (h : Spells body value)
    (hrest : NoItem rest) (heq : body ++ rest = other ++ more) (h' : Spells other value') :
    other.length ≤ body.length := by
  -- The first character tells what the first item is, on both sides.
  induction h generalizing other value' with
  | nil => exact Nat.le_of_eq (congrArg List.length (hrest.eq_nil heq h'))
  | plain hbackslash _ _ ih =>
    cases h' with
    | nil => exact Nat.zero_le _
    | plain _ _ h' =>
      exact Nat.succ_le_succ (ih (List.cons.inj heq).2 h')
    | escape _ _ => exact absurd (List.cons.inj heq).1 hbackslash
  | escape _ _ ih =>
    cases h' with
    | nil => exact Nat.zero_le _
    | plain hbackslash _ _ => exact absurd (List.cons.inj heq).1.symm hbackslash
    | escape _ h' =>
      exact Nat.succ_le_succ (Nat.succ_le_succ
        (ih (List.cons.inj (List.cons.inj heq).2).2 h'))

theorem longestSpelling_iff {cs body value rest : List Char} :
    LongestSpelling cs body value rest ↔ cs = body ++ rest ∧ Spells body value ∧ NoItem rest := by
  constructor
  · rintro ⟨rfl, hspells, hlongest⟩
    obtain ⟨body', value', rest', heq, hspells', hrest'⟩ := exists_noItem (body ++ rest)
    have hlength : body.length = body'.length :=
      Nat.le_antisymm (hspells'.length_le hrest' heq.symm hspells)
        (hlongest body' value' rest' heq hspells')
    obtain ⟨-, rfl⟩ := List.append_inj heq hlength
    exact ⟨rfl, hspells, hrest'⟩
  · rintro ⟨rfl, hspells, hrest⟩
    exact ⟨rfl, hspells, fun _ _ _ heq h' => hspells.length_le hrest heq h'⟩

/-! ## Literals read in parts -/

namespace Reader

/-- What stands behind a backslash. -/
def escapeSequence : Reader (List Char) :=
  committed (labelled "invalid escape sequence" (firstOf
    [(char '\\').map fun _ => ['\\'], (char '"').map fun _ => ['"'],
      (char 'n').map fun _ => ['\n'], (char 't').map fun _ => ['\t']]))

def literalItems : Reader (List Char) :=
  transformed (run isPlain) '\\' escapeSequence

/-- Without items, the value is empty. -/
def literalValue : Reader (List Char) :=
  (optional literalItems).map fun value => value.getD []

def literalEnd : Reader (List Char) :=
  committed (labelled "unterminated string literal" (terminated literalValue (char '"')))

def literal : Reader (List Char) :=
  labelled "string literal" (preceded (char '"') literalEnd)

end Reader

/-- The attempt comes to the same as the match. The innermost label is the message of the fault. -/
inductive Attempt.Agrees : Attempt (List Char) → Match → Prop
  | done (value rest : List Char) :
    Agrees (.done value rest) (.taken (.literal (String.ofList value)) rest)
  | passed (labels : List String) : Agrees (.passed labels) .refused
  | failed {labels : List String} {fault : Fault} : labels.head? = some fault.message →
    Agrees (.failed labels) (.broken fault)

namespace Reader

theorem escapeSequence_eq_done {c e : Char} (h : Escapes c e) (rest : List Char) :
    escapeSequence (c :: rest) = .done [e] rest := by
  cases h <;> rfl

theorem escapeSequence_eq_failed {c : Char} (h : ∀ e, ¬ Escapes c e) (rest : List Char) :
    escapeSequence (c :: rest) = .failed ["invalid escape sequence"] := by
  have hchar : ∀ d e, Escapes d e → char d (c :: rest) = .passed [] := by
    intro d e hd
    rw [char, if_neg]
    rintro rfl
    exact h e hd
  simp only [escapeSequence, committed, labelled, firstOf, map, hchar _ _ .backslash,
    hchar _ _ .quote, hchar _ _ .newline, hchar _ _ .tab]
  rfl

end Reader

/-- Items are nothing, or begin with a run of plain characters or with an escape. -/
theorem Spells.turn {body value rest : List Char} (h : Spells body value) (hrest : NoItem rest) :
    (body = [] ∧ value = []) ∨
    (∃ run more value', MaximalRun isPlain run (more ++ rest) ∧ Spells more value' ∧
      body = run ++ more ∧ value = run ++ value') ∨
    (∃ c e more value', Escapes c e ∧ Spells more value' ∧ body = '\\' :: c :: more ∧
      value = e :: value') := by
  induction h with
  | nil => exact .inl ⟨rfl, rfl⟩
  | escape hescape h => exact .inr (.inr ⟨_, _, _, _, hescape, h, rfl, rfl⟩)
  | @plain c body value hbackslash hquote h ih =>
    have hc := isPlain_eq_true hbackslash hquote
    rcases ih with ⟨rfl, rfl⟩ | ⟨run, more, value', hrun, hmore, rfl, rfl⟩ |
      ⟨d, e, more, value', hescape, hmore, rfl, rfl⟩
    · refine .inr (.inl ⟨[c], [], [], ⟨List.cons_ne_nil _ _, ?_, hrest.not_isPlain⟩, .nil, rfl,
        rfl⟩)
      exact fun d hd => List.mem_singleton.1 hd ▸ hc
    · refine .inr (.inl ⟨c :: run, more, value', ⟨List.cons_ne_nil _ _, ?_, hrun.ends⟩, hmore, rfl,
        rfl⟩)
      exact List.forall_mem_cons.2 ⟨hc, hrun.all⟩
    · refine .inr (.inl ⟨[c], _, _, ⟨List.cons_ne_nil _ _, ?_, ?_⟩, h, rfl, rfl⟩)
      · exact fun d hd => List.mem_singleton.1 hd ▸ hc
      · rintro d ⟨⟩
        rfl

namespace Reader

/-- The turns go through the items, and on from there. -/
theorem turns_append {limit total : Nat} {body value rest : List Char} (h : Spells body value)
    (hrest : NoItem rest) (hlimit : (body ++ rest).length ≤ limit)
    (htotal : (body ++ rest).length ≤ total) :
    ∃ limit', rest.length ≤ limit' ∧
      turns (run isPlain) '\\' escapeSequence total limit (body ++ rest) =
        (turns (run isPlain) '\\' escapeSequence total limit' rest).map (value ++ ·) := by
  -- A turn may take many items, so the induction is on the turns left and not on the items.
  induction limit generalizing body value with
  | zero =>
    obtain ⟨rfl, rfl⟩ := List.append_eq_nil_iff.1 (List.eq_nil_of_length_eq_zero
      (Nat.le_zero.1 hlimit))
    cases h
    exact ⟨0, Nat.le_refl _, rfl⟩
  | succ limit ih =>
    rcases h.turn hrest with ⟨rfl, rfl⟩ | ⟨read, more, value', hrun, hmore, rfl, rfl⟩ |
      ⟨c, e, more, value', hescape, hmore, rfl, rfl⟩
    · refine ⟨limit + 1, hlimit, ?_⟩
      show turns _ _ _ _ _ rest = (turns _ _ _ _ _ rest).map fun value => value
      cases turns (run isPlain) '\\' escapeSequence total (limit + 1) rest <;> rfl
    · have hread := run_eq_done hrun
      have hlength := List.length_pos_iff.2 hrun.ne_nil
      rw [List.append_assoc] at hlimit htotal ⊢
      rw [List.length_append] at hlimit htotal
      obtain ⟨limit', hlimit', hturns⟩ := ih hmore (by omega) (by omega)
      refine ⟨limit', hlimit', ?_⟩
      obtain ⟨c, cs, rfl⟩ := List.exists_cons_of_ne_nil hrun.ne_nil
      rw [List.cons_append] at hread ⊢
      have hne : (more ++ rest).length ≠ total := by
        rw [List.length_cons] at htotal
        omega
      rw [turns_of_done hread hne, hturns, Attempt.map_map]
      congr 1
      funext v
      exact (List.append_assoc _ _ _).symm
    · simp only [List.cons_append, List.length_cons] at hlimit htotal ⊢
      obtain ⟨limit', hlimit', hturns⟩ := ih hmore (by omega) (by omega)
      refine ⟨limit', hlimit', ?_⟩
      rw [turns_of_mark (run_eq_passed (by rfl) _), escapeSequence_eq_done hescape]
      simp only [hturns, Attempt.map_map]
      rfl

section Literal

variable {body value : List Char} (h : Spells body value)

include h

theorem literalItems_append {rest : List Char} (hrest : NoItem rest) :
    ∃ limit, rest.length ≤ limit ∧ literalItems (body ++ rest) =
      (turns (run isPlain) '\\' escapeSequence (body ++ rest).length limit rest).map
        (value ++ ·) :=
  turns_append h hrest (Nat.le_refl _) (Nat.le_refl _)

/-- There is a turn left wherever a character is. -/
theorem literalItems_append_cons {c : Char} {cs : List Char} (hrest : NoItem (c :: cs)) :
    ∃ limit, literalItems (body ++ c :: cs) =
      (turns (run isPlain) '\\' escapeSequence (body ++ c :: cs).length (limit + 1) (c :: cs)).map
        (value ++ ·) := by
  obtain ⟨limit, hlimit, hitems⟩ := literalItems_append h hrest
  obtain ⟨limit, rfl⟩ := Nat.exists_eq_add_of_le' (Nat.le_trans (Nat.le_add_left 1 _) hlimit)
  exact ⟨limit, hitems⟩

/-! The turns end with the characters, in a mark that nothing follows, in a wrong escape or before a
quote. If they pass there, the value is read from nothing. -/

theorem literalValue_of_ends : literalValue body = .done value [] := by
  obtain ⟨limit, -, hitems⟩ := literalItems_append h (.inr ⟨_, .ends⟩)
  rw [List.append_nil, turns_nil] at hitems
  simp only [literalValue, map, optional, hitems, Attempt.map, Option.getD_some, List.append_nil]

theorem literalValue_of_backslash : literalValue (body ++ ['\\']) = .done [] (body ++ ['\\']) := by
  obtain ⟨limit, hitems⟩ := literalItems_append_cons h (.inr ⟨_, .backslash⟩)
  rw [turns_of_last_mark (run_eq_passed (by rfl) _)] at hitems
  simp only [literalValue, map, optional, hitems, Attempt.map, Option.getD_none]

theorem literalValue_of_escape {c : Char} (rest : List Char) (hc : ∀ e, ¬ Escapes c e) :
    literalValue (body ++ '\\' :: c :: rest) = .failed ["invalid escape sequence"] := by
  obtain ⟨limit, hitems⟩ := literalItems_append_cons h (.inr ⟨_, .escape rest hc⟩)
  rw [turns_of_mark (run_eq_passed (by rfl) _), escapeSequence_eq_failed hc] at hitems
  simp only [literalValue, map, optional, hitems, Attempt.map]

theorem literalValue_of_quote (rest : List Char) :
    literalValue (body ++ '"' :: rest) = .done value ('"' :: rest) := by
  have hrest : NoItem ('"' :: rest) := .inl ⟨rest, rfl⟩
  obtain ⟨limit, hitems⟩ := literalItems_append_cons h hrest
  rw [turns_of_ne (run_eq_passed (by rfl) _) (by decide)] at hitems
  by_cases hbody : body = []
  · subst hbody
    cases h
    rw [List.nil_append, if_pos rfl] at hitems
    simp only [literalValue, map, optional, List.nil_append, hitems, Attempt.map, Option.getD_none]
  · have hlength := List.length_pos_iff.2 hbody
    rw [if_neg (by rw [List.length_append]; omega)] at hitems
    simp only [literalValue, map, optional, hitems, Attempt.map, Option.getD_some, List.append_nil]

theorem literalEnd_of_quote (rest : List Char) :
    literalEnd (body ++ '"' :: rest) = .done value rest := by
  simp only [literalEnd, committed, labelled, terminated, map, pair, literalValue_of_quote h]
  rfl

theorem head?_ne_quote : (body ++ ['\\']).head? ≠ some '"' := by
  cases h with
  | nil => decide
  | plain _ hquote _ => exact fun hc => hquote (Option.some.inj hc)
  | escape _ _ => exact fun hc => absurd (Option.some.inj hc) (by decide)

theorem literalEnd_of_complaint {rest : List Char} {message : String}
    (hrest : Complaint rest message) :
    ∃ labels, literalEnd (body ++ rest) = .failed (message :: labels) := by
  cases hrest with
  | ends =>
    refine ⟨[], ?_⟩
    rw [List.append_nil]
    simp only [literalEnd, committed, labelled, terminated, map, pair, literalValue_of_ends h]
    rfl
  | backslash =>
    refine ⟨[], ?_⟩
    simp only [literalEnd, committed, labelled, terminated, map, pair, literalValue_of_backslash h,
      char_eq_passed (head?_ne_quote h)]
    rfl
  | escape rest hc =>
    refine ⟨["unterminated string literal"], ?_⟩
    simp only [literalEnd, committed, labelled, terminated, map, pair,
      literalValue_of_escape h rest hc]
    rfl

end Literal

end Reader

/-! ## Literals taken by the rule -/

theorem Complaint.exists_fault {body value rest : List Char} {message : String}
    (h : Complaint rest message) (hspells : Spells body value) :
    ∃ fault, fault.message = message ∧ literalRule ('"' :: (body ++ rest)) = .broken fault := by
  cases h with
  | ends =>
    rw [List.append_nil]
    exact ⟨.unterminatedLiteral, rfl, literalRule_eq_broken_iff.2
      ⟨body, value, hspells, .inl ⟨.inl rfl, rfl⟩⟩⟩
  | backslash =>
    exact ⟨.unterminatedLiteral, rfl, literalRule_eq_broken_iff.2
      ⟨body, value, hspells, .inl ⟨.inr rfl, rfl⟩⟩⟩
  | escape rest hc =>
    exact ⟨.invalidEscape, rfl, literalRule_eq_broken_iff.2
      ⟨body, value, hspells, .inr ⟨_, rest, hc, rfl, rfl⟩⟩⟩

/-- There is no literal, a closed one, or one with something wrong behind its items. -/
theorem literal_cases (cs : List Char) :
    cs.head? ≠ some '"' ∨
    (∃ body value rest, Spells body value ∧ cs = '"' :: (body ++ '"' :: rest)) ∨
    (∃ body value rest message, Spells body value ∧ Complaint rest message ∧
      cs = '"' :: (body ++ rest)) := by
  by_cases hcs : cs.head? = some '"'
  · obtain ⟨behind, rfl⟩ := List.head?_eq_some_iff.1 hcs
    obtain ⟨body, value, rest, rfl, hspells, ⟨more, rfl⟩ | ⟨message, hrest⟩⟩ := exists_noItem behind
    · exact .inr (.inl ⟨body, value, more, hspells, rfl⟩)
    · exact .inr (.inr ⟨body, value, rest, message, hspells, hrest, rfl⟩)
  · exact .inl hcs

theorem literalRule_eq_refused_iff_head?_ne {cs : List Char} :
    literalRule cs = .refused ↔ cs.head? ≠ some '"' := by
  cases cs with
  | nil => exact iff_of_true rfl (nomatch ·)
  | cons c cs =>
    rw [literalRule_eq_refused_iff, List.head?_cons]
    exact not_congr (Option.some.injEq c '"').symm.to_iff

theorem exists_broken_iff_complaint {cs : List Char} {message : String} :
    (∃ fault, literalRule cs = .broken fault ∧ fault.message = message) ↔
      ∃ behind body value rest, cs = '"' :: behind ∧ LongestSpelling behind body value rest ∧
        Complaint rest message := by
  constructor
  · rintro ⟨fault, hrule, rfl⟩
    rcases literal_cases cs with hcs | ⟨body, value, rest, h, rfl⟩ |
      ⟨body, value, rest, message, h, hrest, rfl⟩
    · cases hrule.symm.trans (literalRule_eq_refused_iff_head?_ne.2 hcs)
    · cases hrule.symm.trans (literalRule_eq_taken_iff.2 ⟨body, value, h, rfl, rfl⟩)
    · obtain ⟨fault', rfl, hrule'⟩ := hrest.exists_fault h
      obtain rfl := Match.broken.inj (hrule.symm.trans hrule')
      exact ⟨_, body, value, rest, rfl, longestSpelling_iff.2 ⟨rfl, h, .inr ⟨_, hrest⟩⟩, hrest⟩
  · rintro ⟨behind, body, value, rest, rfl, hlongest, hrest⟩
    obtain ⟨rfl, h, -⟩ := longestSpelling_iff.1 hlongest
    obtain ⟨fault, hmessage, hrule⟩ := hrest.exists_fault h
    exact ⟨fault, hrule, hmessage⟩

/-- **Parts of literals.** -/
theorem literal_agrees (cs : List Char) : (Reader.literal cs).Agrees (literalRule cs) := by
  rcases literal_cases cs with hcs | ⟨body, value, rest, h, rfl⟩ |
    ⟨body, value, rest, message, h, hrest, rfl⟩
  · rw [literalRule_eq_refused_iff_head?_ne.2 hcs]
    simp only [Reader.literal, Reader.labelled, Reader.preceded, Reader.map, Reader.pair,
      Reader.char_eq_passed hcs]
    exact .passed _
  · rw [literalRule_eq_taken_iff.2 ⟨body, value, h, rfl, rfl⟩]
    simp only [Reader.literal, Reader.labelled, Reader.preceded, Reader.map, Reader.pair,
      Reader.char, if_true, Reader.literalEnd_of_quote h]
    exact .done _ _
  · obtain ⟨fault, rfl, hrule⟩ := hrest.exists_fault h
    obtain ⟨labels, hend⟩ := Reader.literalEnd_of_complaint h hrest
    rw [hrule]
    simp only [Reader.literal, Reader.labelled, Reader.preceded, Reader.map, Reader.pair,
      Reader.char, if_true, hend]
    exact .failed rfl

/-- All four escapes, and a quote behind a backslash that does not close the literal. -/
example : Reader.literal "\"\\\\say \\\"hi\\\"\\n\\t\" more".toList =
    .done "\\say \"hi\"\n\t".toList " more".toList := by rfl

/-! ## Literals of a source -/

section Source

open Stencil.Lexeme

theorem scan_eq_of_broken {source : String} {lexemes : List Lexeme} {q : Position} {cs : List Char}
    {fault : Fault} (h : Splits .start false source.toList lexemes q true cs)
    (hrule : literalRule cs = .broken fault) : scan source = .error (brokenAt q cs fault) := by
  refine h.scan_eq_broken ?_
  cases cs with
  | nil => cases hrule
  | cons c cs => exact faulty_iff.2 (.inl (insideRule_eq_broken_iff.2 hrule))

theorem literalRule_quoted (s : String) (rest : List Char) :
    literalRule ('"' :: (s.toList.flatMap escaped ++ '"' :: rest)) = .taken (.literal s) rest := by
  rw [literalRule, literalBody_flatMap]
  show Match.taken (.literal (String.ofList s.toList)) rest = _
  rw [String.ofList_toList]

/-- **Literals are decoded exactly.** The rule leaves to others just what does not begin with a
quote, takes just the items between two quotes, each for its character, and breaks just where the
longest run of items ends in a complaint, which is what the scan of a source reports. A text whose
quotes and backslashes are escaped is read back. All of it is as the reading in parts has it. -/
theorem literal_decodes (cs : List Char) :
    (literalRule cs = .refused ↔ cs.head? ≠ some '"') ∧
    (∀ t rest, literalRule cs = .taken t rest ↔ ∃ body value, Spells body value ∧
      cs = '"' :: (body ++ '"' :: rest) ∧ t = .literal (String.ofList value)) ∧
    (∀ message, (∃ fault, literalRule cs = .broken fault ∧ fault.message = message) ↔
      ∃ behind body value rest, cs = '"' :: behind ∧ LongestSpelling behind body value rest ∧
        Complaint rest message) ∧
    (∀ fault, literalRule cs = .broken fault → ∀ source lexemes q,
      Splits .start false source.toList lexemes q true cs →
        scan source = .error (brokenAt q cs fault)) ∧
    (∀ (s : String) (rest : List Char),
      literalRule ('"' :: (s.toList.flatMap escaped ++ '"' :: rest)) = .taken (.literal s) rest) ∧
    (Reader.literal cs).Agrees (literalRule cs) :=
  ⟨literalRule_eq_refused_iff_head?_ne, fun _ _ => literalRule_eq_taken_iff,
    fun _ => exists_broken_iff_complaint, fun _ hrule _ _ _ h => scan_eq_of_broken h hrule,
    literalRule_quoted, literal_agrees cs⟩

/-- A wrong escape behind a plain character, in a source. -/
theorem literal_decodes_wrongEscape :
    literalRule ['"', 'a', '\\', 'x'] = .broken .invalidEscape ∧
    (∃ lexemes, Splits .start false "\x7b\x7b\"a\\x".toList lexemes ⟨2, 1, 3⟩ true
      ['"', 'a', '\\', 'x']) ∧
    scan "\x7b\x7b\"a\\x" = .error (.broken .invalidEscape "\"a\\x" ⟨2, 3, 1, 3⟩) := by
  have hrule : literalRule ['"', 'a', '\\', 'x'] = .broken .invalidEscape := by rfl
  have hopener : IsItem false (['{', '{'] ++ ['"', 'a', '\\', 'x']) (.opener .interpolation)
      ['"', 'a', '\\', 'x'] :=
    ruleIn_eq_taken_iff.1 rfl
  have hsplits : ∃ lexemes, Splits .start false "\x7b\x7b\"a\\x".toList lexemes ⟨2, 1, 3⟩ true
      ['"', 'a', '\\', 'x'] :=
    ⟨_, .cons hopener (.nil _ _ _)⟩
  obtain ⟨lexemes, h⟩ := hsplits
  exact ⟨hrule, ⟨lexemes, h⟩, (literal_decodes _).2.2.2.1 _ hrule _ _ _ h⟩

end Source

end Stencil.Token
