import Stencil.Proofs.Token.Outside

/-!
# Items inside of a marker are what the rule takes

`insideRule_eq_taken_iff`: the rule inside of a marker takes exactly the items of the lexical
grammar. It breaks on literals that do not end well (`insideRule_eq_broken_iff`) and refuses
characters that start nothing (`insideRule_eq_refused_iff`).
-/

namespace Stencil.Token

/-! ## Literals -/

theorem escape?_eq_some_iff {c e : Char} : escape? c = some e ↔ Escapes c e := by
  constructor
  · intro h
    unfold escape? at h
    split at h
    · rename_i hself
      obtain rfl := Option.some.inj h
      rcases hself with rfl | rfl
      · exact .backslash
      · exact .quote
    split at h
    · rename_i hnewline
      obtain rfl := Option.some.inj h
      exact hnewline ▸ .newline
    split at h
    · rename_i htab
      obtain rfl := Option.some.inj h
      exact htab ▸ .tab
    · cases h
  · intro h
    cases h <;> rfl

theorem escape?_eq_none_iff {c : Char} : escape? c = none ↔ ∀ e, ¬ Escapes c e := by
  rw [Option.eq_none_iff_forall_ne_some]
  exact forall_congr' fun e => not_congr escape?_eq_some_iff

/-- What is spelt goes before the value of what follows. -/
theorem Spells.literalBody_append {body value : List Char} (h : Spells body value)
    (rest : List Char) :
    literalBody (body ++ rest) =
      (literalBody rest).map fun (more, rest) => (value ++ more, rest) := by
  induction h with
  | nil => cases hrest : literalBody rest <;> simp [hrest, Except.map]
  | @plain c body value hbackslash hquote _ ih =>
    rw [List.cons_append, literalBody, ih]
    · cases literalBody rest <;> rfl
    · exact hquote
    · exact fun h => absurd h hbackslash
    · exact fun _ _ h => absurd h hbackslash
  | @escape c e body value hescape _ ih =>
    rw [List.cons_append, List.cons_append, literalBody, escape?_eq_some_iff.2 hescape]
    simp only [ih]
    cases literalBody rest <;> rfl

/-- A literal ends with its quote, not at all or in a wrong escape. -/
theorem literalBody_cases (cs : List Char) :
    (∃ body value rest, Spells body value ∧ cs = body ++ '"' :: rest) ∨
    (∃ body value, Spells body value ∧ (cs = body ∨ cs = body ++ ['\\'])) ∨
    (∃ body value c rest, Spells body value ∧ (∀ e, ¬ Escapes c e) ∧
      cs = body ++ '\\' :: c :: rest) := by
  induction cs using literalBody.induct with
  | case1 => exact .inr (.inl ⟨[], [], .nil, .inl rfl⟩)
  | case2 cs => exact .inl ⟨[], [], cs, .nil, rfl⟩
  | case3 => exact .inr (.inl ⟨[], [], .nil, .inr rfl⟩)
  | case4 c cs e he ih =>
    have hescape := escape?_eq_some_iff.1 he
    rcases ih with ⟨body, value, rest, h, rfl⟩ | ⟨body, value, h, rfl | rfl⟩ |
      ⟨body, value, d, rest, h, hd, rfl⟩
    · exact .inl ⟨_, _, rest, .escape hescape h, rfl⟩
    · exact .inr (.inl ⟨_, _, .escape hescape h, .inl rfl⟩)
    · exact .inr (.inl ⟨_, _, .escape hescape h, .inr rfl⟩)
    · exact .inr (.inr ⟨_, _, d, rest, .escape hescape h, hd, rfl⟩)
  | case5 c cs he => exact .inr (.inr ⟨[], [], c, cs, .nil, escape?_eq_none_iff.1 he, rfl⟩)
  | case6 c cs hquote hend hescape ih =>
    have hc : c ≠ '\\' := by
      rintro rfl
      cases cs with
      | nil => exact hend rfl rfl
      | cons d cs => exact hescape d cs rfl rfl
    rcases ih with ⟨body, value, rest, h, rfl⟩ | ⟨body, value, h, rfl | rfl⟩ |
      ⟨body, value, d, rest, h, hd, rfl⟩
    · exact .inl ⟨_, _, rest, .plain hc hquote h, rfl⟩
    · exact .inr (.inl ⟨_, _, .plain hc hquote h, .inl rfl⟩)
    · exact .inr (.inl ⟨_, _, .plain hc hquote h, .inr rfl⟩)
    · exact .inr (.inr ⟨_, _, d, rest, .plain hc hquote h, hd, rfl⟩)

/-- What becomes of a literal in each of its ends. -/
theorem Spells.literalBody_closed {body value : List Char} (h : Spells body value)
    (rest : List Char) : literalBody (body ++ '"' :: rest) = .ok (value, rest) := by
  rw [h.literalBody_append, literalBody]
  simp [Except.map]

theorem Spells.literalBody_unterminated {body value : List Char} (h : Spells body value) :
    literalBody body = .error .unterminatedLiteral := by
  have hbody := h.literalBody_append []
  rw [List.append_nil] at hbody
  rw [hbody]
  rfl

theorem Spells.literalBody_backslash {body value : List Char} (h : Spells body value) :
    literalBody (body ++ ['\\']) = .error .unterminatedLiteral := by
  rw [h.literalBody_append]
  rfl

theorem Spells.literalBody_escape {body value : List Char} (h : Spells body value) {c : Char}
    (hc : ∀ e, ¬ Escapes c e) (rest : List Char) :
    literalBody (body ++ '\\' :: c :: rest) = .error .invalidEscape := by
  rw [h.literalBody_append]
  simp only [literalBody, escape?_eq_none_iff.2 hc]
  rfl

theorem literalRule_eq_taken_iff {cs rest : List Char} {t : Token} :
    literalRule cs = .taken t rest ↔ ∃ body value, Spells body value ∧
      cs = '"' :: (body ++ '"' :: rest) ∧ t = .literal (String.ofList value) := by
  constructor
  · intro h
    unfold literalRule at h
    split at h
    · rename_i cs
      rcases literalBody_cases cs with ⟨body, value, behind, hspells, rfl⟩ |
        ⟨body, value, hspells, rfl | rfl⟩ | ⟨body, value, c, behind, hspells, hc, rfl⟩
      · rw [hspells.literalBody_closed] at h
        obtain ⟨rfl, rfl⟩ := Match.taken.inj h
        exact ⟨body, value, hspells, rfl, rfl⟩
      · rw [hspells.literalBody_unterminated] at h
        cases h
      · rw [hspells.literalBody_backslash] at h
        cases h
      · rw [hspells.literalBody_escape hc] at h
        cases h
    · cases h
  · rintro ⟨body, value, hspells, rfl, rfl⟩
    rw [literalRule, hspells.literalBody_closed]

theorem literalRule_eq_broken_iff {cs : List Char} {fault : Fault} :
    literalRule cs = .broken fault ↔ ∃ body value, Spells body value ∧
      ((cs = '"' :: body ∨ cs = '"' :: (body ++ ['\\'])) ∧ fault = .unterminatedLiteral ∨
        ∃ c rest, (∀ e, ¬ Escapes c e) ∧ cs = '"' :: (body ++ '\\' :: c :: rest) ∧
          fault = .invalidEscape) := by
  constructor
  · intro h
    unfold literalRule at h
    split at h
    · rename_i cs
      rcases literalBody_cases cs with ⟨body, value, behind, hspells, rfl⟩ |
        ⟨body, value, hspells, rfl | rfl⟩ | ⟨body, value, c, behind, hspells, hc, rfl⟩
      · rw [hspells.literalBody_closed] at h
        cases h
      · rw [hspells.literalBody_unterminated] at h
        cases h
        exact ⟨_, value, hspells, .inl ⟨.inl rfl, rfl⟩⟩
      · rw [hspells.literalBody_backslash] at h
        cases h
        exact ⟨body, value, hspells, .inl ⟨.inr rfl, rfl⟩⟩
      · rw [hspells.literalBody_escape hc] at h
        cases h
        exact ⟨body, value, hspells, .inr ⟨c, behind, hc, rfl, rfl⟩⟩
    · cases h
  · rintro ⟨body, value, hspells, ⟨rfl | rfl, rfl⟩ | ⟨c, rest, hc, rfl, rfl⟩⟩
    · rw [literalRule, hspells.literalBody_unterminated]
    · rw [literalRule, hspells.literalBody_backslash]
    · rw [literalRule, hspells.literalBody_escape hc]

theorem literalRule_eq_refused_iff {c : Char} {cs : List Char} :
    literalRule (c :: cs) = .refused ↔ c ≠ '"' := by
  constructor
  · rintro h rfl
    rw [literalRule] at h
    cases hbody : literalBody cs <;> rw [hbody] at h <;> cases h
  · exact literalRule_refused

/-! ## Runs -/

/-- A rule that takes all that `p` holds of takes runs, and refuses where there is none. -/
theorem runRule_eq_taken_iff {p : Char → Bool} {cs rest : List Char} {t : Token}
    (token : List Char → Token) :
    (match cs.takeWhile p with
      | [] => Match.refused
      | run => .taken (token run) (cs.dropWhile p)) = .taken t rest ↔
      ∃ run, MaximalRun p run rest ∧ cs = run ++ rest ∧ t = token run := by
  constructor
  · intro h
    split at h
    · cases h
    · rename_i run hne
      obtain ⟨rfl, rfl⟩ := Match.taken.inj h
      have hends := List.head?_dropWhile_not p cs
      refine ⟨cs.takeWhile p, ⟨hne, List.all_eq_true.1 List.all_takeWhile, fun c hc => ?_⟩,
        List.takeWhile_append_dropWhile.symm, rfl⟩
      rw [Option.mem_def.1 hc] at hends
      exact hends
  · rintro ⟨run, hrun, rfl, rfl⟩
    obtain ⟨htake, hdrop⟩ := takeWhile_eq hrun.all hrun.ends
    rw [htake, hdrop]
    obtain ⟨c, run, rfl⟩ := List.exists_cons_of_ne_nil hrun.ne_nil
    rfl

theorem runRule_eq_refused_iff {p : Char → Bool} {c : Char} {cs : List Char}
    (token : List Char → Token) :
    (match (c :: cs).takeWhile p with
      | [] => Match.refused
      | run => .taken (token run) ((c :: cs).dropWhile p)) = .refused ↔ p c = false := by
  cases hc : p c <;> simp [hc]

theorem whitespaceRule_eq_taken_iff {cs rest : List Char} {t : Token} :
    whitespaceRule cs = .taken t rest ↔ ∃ run, MaximalRun Text.isBlank run rest ∧
      cs = run ++ rest ∧ t = .whitespace (String.ofList run) :=
  runRule_eq_taken_iff fun run => .whitespace (String.ofList run)

theorem identifierRule_eq_taken_iff {cs rest : List Char} {t : Token} :
    identifierRule cs = .taken t rest ↔ ∃ run, MaximalRun isIdentifierChar run rest ∧
      cs = run ++ rest ∧ t = .identifier (String.ofList run) :=
  runRule_eq_taken_iff fun run => .identifier (String.ofList run)

/-! ## The rule inside of a marker -/

theorem closerRule_eq_taken_iff {cs rest : List Char} {t : Token} :
    closerRule cs = .taken t rest ↔ t = .closer ∧ cs = '}' :: '}' :: rest := by
  unfold closerRule
  split
  · simp [eq_comm]
  · rename_i hno
    simp only [reduceCtorEq, false_iff, not_and]
    exact fun _ hcs => hno rest hcs

theorem symbolRule_eq_taken_iff {cs rest : List Char} {t : Token} :
    symbolRule cs = .taken t rest ↔ t = .dot ∧ cs = '.' :: rest ∨
      t = .leftParen ∧ cs = '(' :: rest ∨ t = .rightParen ∧ cs = ')' :: rest := by
  unfold symbolRule
  split
  case h_4 hdot hleft hright =>
    simp only [reduceCtorEq, false_iff]
    rintro (⟨-, hcs⟩ | ⟨-, hcs⟩ | ⟨-, hcs⟩)
    · exact hdot rest hcs
    · exact hleft rest hcs
    · exact hright rest hcs
  all_goals simp [eq_comm]

theorem insideRule_spelt {body value : List Char} (h : Spells body value) (rest : List Char) :
    insideRule ('"' :: (body ++ '"' :: rest)) = .taken (.literal (String.ofList value)) rest := by
  have hliteral : literalRule ('"' :: (body ++ '"' :: rest)) =
      .taken (.literal (String.ofList value)) rest :=
    literalRule_eq_taken_iff.2 ⟨body, value, h, rfl, rfl⟩
  unfold insideRule
  rw [firstOf_of_refused (whitespaceRule_refused (by decide)),
    firstOf_of_refused (closerRule_refused (by decide)), firstOf_of_taken hliteral]

/-- **Items inside of a marker.** -/
theorem insideRule_eq_taken_iff {cs rest : List Char} {t : Token} :
    insideRule cs = .taken t rest ↔ Inside cs t rest := by
  constructor
  · intro h
    unfold insideRule at h
    rw [firstOf_cons_eq_iff (by simp), firstOf_cons_eq_iff (by simp),
      firstOf_cons_eq_iff (by simp), firstOf_cons_eq_iff (by simp),
      firstOf_cons_eq_iff (by simp), whitespaceRule_eq_taken_iff, closerRule_eq_taken_iff,
      literalRule_eq_taken_iff, symbolRule_eq_taken_iff, identifierRule_eq_taken_iff] at h
    rcases h with ⟨run, hrun, rfl, rfl⟩ | ⟨-, ⟨rfl, rfl⟩ |
      ⟨-, ⟨body, value, hspells, rfl, rfl⟩ | ⟨-, hsymbol |
      ⟨-, ⟨run, hrun, rfl, rfl⟩ | ⟨-, h⟩⟩⟩⟩⟩
    · exact .whitespace hrun
    · exact .closer rest
    · exact .literal rest hspells
    · rcases hsymbol with ⟨rfl, rfl⟩ | ⟨rfl, rfl⟩ | ⟨rfl, rfl⟩
      · exact .dot rest
      · exact .leftParen rest
      · exact .rightParen rest
    · exact .identifier hrun
    · cases h
  · intro h
    cases h with
    | whitespace hrun => exact insideRule_whitespace hrun.ne_nil hrun.all hrun.ends
    | closer => exact insideRule_closer rest
    | literal _ hspells => exact insideRule_spelt hspells rest
    | dot => exact insideRule_symbol (by decide) rfl
    | leftParen => exact insideRule_symbol (by decide) rfl
    | rightParen => exact insideRule_symbol (by decide) rfl
    | identifier hrun => exact insideRule_identifier hrun.ne_nil hrun.all hrun.ends

theorem closerRule_eq_refused_iff {cs : List Char} :
    closerRule cs = .refused ↔ ¬ ['}', '}'] <+: cs := by
  unfold closerRule
  split
  · rename_i rest
    simp only [reduceCtorEq, false_iff, Classical.not_not]
    exact ⟨rest, rfl⟩
  · rename_i hno
    simp only [true_iff]
    rintro ⟨rest, rfl⟩
    exact hno rest rfl

theorem symbolRule_eq_refused_iff {c : Char} {cs : List Char} :
    symbolRule (c :: cs) = .refused ↔ c ∉ ['.', '(', ')'] := by
  constructor
  · rintro h hc
    simp only [List.mem_cons, List.not_mem_nil, or_false] at hc
    rcases hc with rfl | rfl | rfl <;> cases h
  · exact symbolRule_refused

/-- **Characters that start nothing.** -/
theorem insideRule_eq_refused_iff {c : Char} {cs : List Char} :
    insideRule (c :: cs) = .refused ↔ StartsNothing c cs := by
  have hwhitespace : whitespaceRule (c :: cs) = .refused ↔ Text.isBlank c = false :=
    runRule_eq_refused_iff fun run => .whitespace (String.ofList run)
  have hidentifier : identifierRule (c :: cs) = .refused ↔ isIdentifierChar c = false :=
    runRule_eq_refused_iff fun run => .identifier (String.ofList run)
  unfold insideRule
  rw [firstOf_cons_eq_refused_iff, firstOf_cons_eq_refused_iff, firstOf_cons_eq_refused_iff,
    firstOf_cons_eq_refused_iff, firstOf_cons_eq_refused_iff, hwhitespace,
    closerRule_eq_refused_iff, literalRule_eq_refused_iff, symbolRule_eq_refused_iff, hidentifier]
  constructor
  · rintro ⟨hblank, hcloser, hliteral, hsymbol, hname, -⟩
    exact ⟨hblank, hname, List.not_mem_cons_of_ne_of_not_mem hliteral hsymbol, hcloser⟩
  · rintro ⟨hblank, hname, hmark, hcloser⟩
    rw [List.mem_cons, not_or] at hmark
    exact ⟨hblank, hcloser, hmark.1, hmark.2, hname, rfl⟩

theorem runRule_ne_broken {p : Char → Bool} {cs : List Char} (token : List Char → Token)
    (fault : Fault) :
    (match cs.takeWhile p with
      | [] => Match.refused
      | run => .taken (token run) (cs.dropWhile p)) ≠ .broken fault := by
  split <;> exact fun h => nomatch h

/-- **Broken items inside of a marker.** Only a literal is one. -/
theorem insideRule_eq_broken_iff {cs : List Char} {fault : Fault} :
    insideRule cs = .broken fault ↔ literalRule cs = .broken fault := by
  have hwhitespace : whitespaceRule cs ≠ .broken fault :=
    runRule_ne_broken (fun run => .whitespace (String.ofList run)) fault
  have hidentifier : identifierRule cs ≠ .broken fault :=
    runRule_ne_broken (fun run => .identifier (String.ofList run)) fault
  have hcloser : closerRule cs ≠ .broken fault := by
    unfold closerRule
    split <;> exact fun h => nomatch h
  have hsymbol : symbolRule cs ≠ .broken fault := by
    unfold symbolRule
    split <;> exact fun h => nomatch h
  unfold insideRule
  rw [firstOf_cons_eq_iff (by simp), firstOf_cons_eq_iff (by simp), firstOf_cons_eq_iff (by simp),
    firstOf_cons_eq_iff (by simp), firstOf_cons_eq_iff (by simp)]
  simp only [hwhitespace, hidentifier, hcloser, hsymbol, false_or, firstOf, reduceCtorEq, and_false,
    or_false]
  refine ⟨fun h => h.2.2, fun h => ?_⟩
  cases cs with
  | nil => cases h
  | cons c cs =>
    by_cases hc : c = '"'
    · subst hc
      exact ⟨whitespaceRule_refused (by decide), closerRule_refused (by decide), h⟩
    · rw [literalRule_refused hc] at h
      cases h

end Stencil.Token
