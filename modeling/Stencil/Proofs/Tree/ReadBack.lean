import Stencil.Proofs.Grammar.Template
import Stencil.Proofs.Lexeme.Scans
import Stencil.Proofs.Token.Spelling
import Stencil.Tree.Source

/-!
# Writing is read back

What is written of an expression or a statement scans as tokens that derive it, and the scan ends
where the writing ends (`Expression.scans`, `Statement.scans`). So the source of statements parses
to a template of them (`Statement.parse_source`).
-/

namespace Stencil

open Stencil.Grammar
open Stencil.Lexeme (Scans ruleIn)

/-! ## Boundaries -/

/-- A name ends before `rest`. -/
def EndsName (rest : List Char) : Prop :=
  ∀ c ∈ rest.head?, Token.isIdentifierChar c = false

/-- Nothing follows, or a marker. -/
def AtMarker (rest : List Char) : Prop :=
  rest = [] ∨ ['{', '{'] <+: rest

/-- Blanks end before `rest`. -/
def EndsBlanks (rest : List Char) : Prop :=
  ∀ c ∈ rest.head?, Text.isBlank c = false

theorem endsName_cons {c : Char} (h : Token.isIdentifierChar c = false) (cs : List Char) :
    EndsName (c :: cs) := by
  rintro d hd
  obtain rfl : c = d := Option.some.inj hd
  exact h

theorem endsBlanks_cons {c : Char} (h : Text.isBlank c = false) (cs : List Char) :
    EndsBlanks (c :: cs) := by
  rintro d hd
  obtain rfl : c = d := Option.some.inj hd
  exact h

theorem IsName.exists_cons {name : String} (h : IsName name) :
    ∃ c cs, name.toList = c :: cs ∧ Text.isBlank c = false := by
  obtain ⟨hne, hname⟩ := h
  obtain ⟨c, cs, hcs⟩ := List.exists_cons_of_ne_nil hne
  refine ⟨c, cs, hcs, Token.isBlank_eq_false (List.all_eq_true.1 hname c ?_)⟩
  rw [hcs]
  exact List.mem_cons_self

theorem IsName.endsBlanks {name : String} (h : IsName name) (rest : List Char) :
    EndsBlanks (name.toList ++ rest) := by
  obtain ⟨c, cs, hcs, hblank⟩ := h.exists_cons
  rw [hcs, List.cons_append]
  exact endsBlanks_cons hblank _

/-! ## Names and paths -/

theorem IsName.scans {name : String} (h : IsName name) {rest : List Char} (hrest : EndsName rest) :
    Scans true (name.toList ++ rest) [.identifier name] true rest := by
  have hrule := Token.insideRule_identifier h.1 (List.all_eq_true.1 h.2) hrest
  rw [String.ofList_toList] at hrule
  exact .one hrule

theorem scans_blank {rest : List Char} (hrest : EndsBlanks rest) :
    Scans true (' ' :: rest) [.whitespace " "] true rest := by
  have hblank : ∀ c ∈ [' '], Text.isBlank c = true := by
    intro c hc
    rw [List.mem_singleton.1 hc]
    decide
  exact .one (Token.insideRule_whitespace (List.cons_ne_nil ' ' []) hblank hrest)

theorem scans_symbol {c : Char} {rest : List Char} {t : Token} (hc : c ∈ ['.', '(', ')'])
    (h : Token.symbolRule (c :: rest) = .taken t rest) (hmode : t.opensAfter true = true) :
    Scans true (c :: rest) [t] true rest := by
  have hscans : Scans true (c :: rest) [t] (t.opensAfter true) rest :=
    .one (Token.insideRule_symbol hc h)
  rw [hmode] at hscans
  exact hscans

theorem intercalate_toList_cons_cons (name next : String) (names : List String) :
    (".".intercalate (name :: next :: names)).toList =
      name.toList ++ '.' :: (".".intercalate (next :: names)).toList := by
  rw [String.intercalate_cons_cons, String.toList_append, String.toList_append, List.append_assoc]
  rfl

theorem intercalate_toList_singleton (name : String) :
    (".".intercalate [name]).toList = name.toList := by
  rw [String.intercalate_singleton]

theorem IsPath.endsBlanks {names : List String} (h : IsPath names) (rest : List Char) :
    EndsBlanks ((".".intercalate names).toList ++ rest) := by
  match names, h with
  | [], h => exact absurd rfl h.1
  | [name], h =>
    rw [intercalate_toList_singleton]
    exact (h.2 name List.mem_cons_self).endsBlanks _
  | name :: next :: names, h =>
    rw [intercalate_toList_cons_cons, List.append_assoc]
    exact (h.2 name List.mem_cons_self).endsBlanks _

theorem IsPath.scans {names : List String} (h : IsPath names) :
    ∃ ts, DerivesPath ts names ∧ ∀ rest, EndsName rest →
      Scans true ((".".intercalate names).toList ++ rest) ts true rest := by
  obtain ⟨hne, hnames⟩ := h
  induction names with
  | nil => exact absurd rfl hne
  | cons name names ih =>
    have hname := hnames name List.mem_cons_self
    cases names with
    | nil =>
      refine ⟨_, .one name, fun rest hrest => ?_⟩
      rw [intercalate_toList_singleton]
      exact hname.scans hrest
    | cons next names =>
      obtain ⟨ts, hpath, hscans⟩ := ih (by simp) fun n hn => hnames n (List.mem_cons_of_mem _ hn)
      refine ⟨_, .cons name hpath, fun rest hrest => ?_⟩
      rw [intercalate_toList_cons_cons, List.append_assoc, List.cons_append]
      have hdot : Scans true ('.' :: ((".".intercalate (next :: names)).toList ++ rest)) [.dot] true
          ((".".intercalate (next :: names)).toList ++ rest) :=
        scans_symbol (by decide) rfl rfl
      have hfirst := hname.scans (endsName_cons (c := '.') (by decide)
        ((".".intercalate (next :: names)).toList ++ rest))
      exact hfirst.append (hdot.append (hscans rest hrest))

/-! ## Expressions -/

theorem scans_literal (value : String) (rest : List Char) :
    Scans true ('"' :: (value.toList.flatMap Token.escaped ++ ['"']) ++ rest) [.literal value] true
      rest := by
  have hrule := Token.insideRule_literal value.toList rest
  rw [String.ofList_toList] at hrule
  rw [List.cons_append, List.append_assoc]
  exact .one hrule

theorem Expression.writtenArgument_endsBlanks {e : Expression} (h : e.Named) (rest : List Char) :
    EndsBlanks (e.writtenArgument ++ rest) := by
  cases e with
  | literal value => exact endsBlanks_cons (by decide) _
  | path segments =>
    rw [Expression.Named] at h
    exact h.endsBlanks rest
  | call name arguments => exact endsBlanks_cons (by decide) _

theorem Expression.writtenArguments_endsName (es : List Expression) {rest : List Char}
    (hrest : EndsName rest) : EndsName (Expression.writtenArguments es ++ rest) := by
  cases es with
  | nil => exact hrest
  | cons e es => exact endsName_cons (by decide) _

mutual

theorem Expression.scans_argument : ∀ e : Expression, e.Named →
    ∃ ts, DerivesArgument ts e ∧ ∀ rest, EndsName rest →
      Scans true (e.writtenArgument ++ rest) ts true rest
  | .literal value, _ => ⟨_, .literal value, fun rest _ => scans_literal value rest⟩
  | .path segments, h => by
    rw [Expression.Named] at h
    obtain ⟨ts, hpath, hscans⟩ := h.scans
    exact ⟨ts, .path hpath, hscans⟩
  | .call name arguments, h => by
    obtain ⟨hname, harguments⟩ := h
    obtain ⟨ts, hderives, hscans⟩ := Expression.scans_arguments arguments harguments
    refine ⟨_, .call name .none hderives .none, fun rest hrest => ?_⟩
    have hright : Scans true (')' :: rest) [.rightParen] true rest :=
      scans_symbol (by decide) rfl rfl
    have hend : EndsName (')' :: rest) := endsName_cons (by decide) _
    have hinside := (hname.scans (Expression.writtenArguments_endsName arguments hend)).append
      ((hscans _ hend).append hright)
    have hleft : Scans true
        ('(' :: (name.toList ++ (Expression.writtenArguments arguments ++ ')' :: rest)))
        [.leftParen] true (name.toList ++ (Expression.writtenArguments arguments ++ ')' :: rest)) :=
      scans_symbol (by decide) rfl rfl
    have hall := hleft.append hinside
    simpa [Expression.writtenArgument] using hall

theorem Expression.scans_arguments : ∀ es : List Expression, Expression.AllNamed es →
    ∃ ts, DerivesArguments ts es ∧ ∀ rest, EndsName rest →
      Scans true (Expression.writtenArguments es ++ rest) ts true rest
  | [], _ => ⟨[], .nil, fun rest _ => .nil _ _⟩
  | e :: es, h => by
    obtain ⟨he, hes⟩ := h
    obtain ⟨ts, hderives, hscans⟩ := Expression.scans_argument e he
    obtain ⟨us, hderivesAll, hscansAll⟩ := Expression.scans_arguments es hes
    refine ⟨_, .cons " " hderives hderivesAll, fun rest hrest => ?_⟩
    have hend := Expression.writtenArguments_endsName es hrest
    have hblank := scans_blank (Expression.writtenArgument_endsBlanks he
      (Expression.writtenArguments es ++ rest))
    have hall := hblank.append ((hscans _ hend).append (hscansAll rest hrest))
    simpa [Expression.writtenArguments] using hall

end

theorem Expression.written_endsBlanks {e : Expression} (h : e.Named) (rest : List Char) :
    EndsBlanks (e.written ++ rest) := by
  cases e with
  | literal value => exact Expression.writtenArgument_endsBlanks h rest
  | path segments => exact Expression.writtenArgument_endsBlanks h rest
  | call name arguments =>
    obtain ⟨hname, -⟩ := h
    rw [Expression.written, List.append_assoc]
    exact hname.endsBlanks _

theorem Expression.scans {e : Expression} (h : e.Writable) :
    ∃ ts, DerivesExpression ts e ∧ ∀ rest, EndsName rest →
      Scans true (e.written ++ rest) ts true rest := by
  obtain ⟨hnamed, hcall⟩ := h
  cases e with
  | literal value => exact ⟨_, .literal value, fun rest _ => scans_literal value rest⟩
  | path segments =>
    rw [Expression.Named] at hnamed
    obtain ⟨ts, hpath, hscans⟩ := hnamed.scans
    exact ⟨ts, .path hpath, hscans⟩
  | call name arguments =>
    obtain ⟨hname, harguments⟩ := hnamed
    have hne : arguments ≠ [] := by
      rintro rfl
      exact hcall name rfl
    obtain ⟨ts, hderives, hscans⟩ := Expression.scans_arguments arguments harguments
    refine ⟨_, .call name hderives hne, fun rest hrest => ?_⟩
    have hend := Expression.writtenArguments_endsName arguments hrest
    have hall := (hname.scans hend).append (hscans rest hrest)
    simpa [Expression.written] using hall

/-- The name that closes the block is a path. -/
theorem Expression.exists_closing {e : Expression} (h : e.Writable) (hcloses : e.Closes) :
    ∃ names, IsPath names ∧ ".".intercalate names = e.blockName := by
  obtain ⟨hnamed, -⟩ := h
  cases e with
  | literal value => exact hcloses
  | path segments =>
    rw [Expression.Named] at hnamed
    exact ⟨segments, hnamed, rfl⟩
  | call name arguments =>
    refine ⟨[name], ⟨by simp, ?_⟩, String.intercalate_singleton⟩
    intro n hn
    rw [List.mem_singleton.1 hn]
    exact hnamed.1

/-! ## Tags -/

theorem scans_opener (marker : Marker) (rest : List Char)
    (h : marker = .interpolation → ∀ c ∈ rest.head?, c ∉ ['#', '^', '/', '!']) :
    Scans false (marker.chars ++ rest) [.opener marker] true rest :=
  .one (Token.outsideRule_opener marker h)

theorem scans_closer (rest : List Char) : Scans true ('}' :: '}' :: rest) [.closer] false rest :=
  .one (Token.insideRule_closer rest)

theorem Marker.scans_writtenTag (marker : Marker) {inside : List Char} {us : List Token}
    (hblank : ∀ rest, EndsBlanks (inside ++ rest))
    (h : ∀ rest, EndsName rest → Scans true (inside ++ rest) us true rest) :
    ∃ ts, IsTag marker us ts ∧
      ∀ rest, Scans false (marker.writtenTag inside ++ rest) ts false rest := by
  refine ⟨_, .mk (.one " ") (.one " "), fun rest => ?_⟩
  have hend : EndsName (' ' :: '}' :: '}' :: rest) := endsName_cons (by decide) _
  have hlast := (scans_blank (endsBlanks_cons (c := '}') (by decide) ('}' :: rest))).append
    (scans_closer rest)
  have hinside :=
    (scans_blank (hblank (' ' :: '}' :: '}' :: rest))).append ((h _ hend).append hlast)
  have hopener := scans_opener marker (' ' :: (inside ++ ' ' :: '}' :: '}' :: rest)) (by simp)
  have hall := hopener.append hinside
  simpa [Marker.writtenTag] using hall

theorem scans_writtenElseTag : ∃ ts, IsElseTag ts ∧ ∀ rest,
    Scans false (writtenElseTag ++ rest) ts false rest := by
  refine ⟨_, .mk .none .none, fun rest => ?_⟩
  have hname : IsName "else" := ⟨by decide, by decide⟩
  have hopener := scans_opener .interpolation ("else".toList ++ '}' :: '}' :: rest) (by simp)
  have hinside := hname.scans (endsName_cons (c := '}') (by decide) ('}' :: rest))
  have hall := hopener.append (hinside.append (scans_closer rest))
  simpa [writtenElseTag] using hall

theorem scans_writtenCloseTag {name : String} {names : List String} (hnames : IsPath names)
    (hname : ".".intercalate names = name) : ∃ ts, IsCloseTag name ts ∧ ∀ rest,
    Scans false (writtenCloseTag name ++ rest) ts false rest := by
  obtain ⟨us, hpath, hscans⟩ := hnames.scans
  rw [hname] at hscans
  refine ⟨_, ⟨us, names, hpath, .mk .none .none, hname⟩, fun rest => ?_⟩
  have hopener := scans_opener .blockClose (name.toList ++ '}' :: '}' :: rest)
    (fun h => nomatch h)
  have hinside := hscans _ (endsName_cons (c := '}') (by decide) ('}' :: rest))
  have hall := hopener.append (hinside.append (scans_closer rest))
  simpa [writtenCloseTag] using hall

/-- Only the path `else` reads as an else tag. -/
theorem not_isElseTag {us ts : List Token} {e : Expression}
    (htag : IsTag .interpolation us ts) (hderives : DerivesExpression us e)
    (he : e ≠ .path ["else"]) : ¬ IsElseTag ts := by
  intro helse
  exact he (htag.expression_unique hderives helse (.path (.one "else")))

/-! ## Statements -/

/-- `rest` does not run into the end of a text. -/
def Statement.EndsBefore (s : Statement) (rest : List Char) : Prop :=
  match s with
  | .text value => AtMarker rest ∧ (value.toList.getLast? = some '{' → rest = [])
  | _ => True

theorem Marker.atMarker_chars (marker : Marker) (rest : List Char) :
    AtMarker (marker.chars ++ rest) := by
  right
  cases marker <;> exact ⟨_, rfl⟩

theorem Statement.written_atMarker {s : Statement} (h : s.Writable) (htext : ¬ s.IsText)
    (rest : List Char) : AtMarker (s.written ++ rest) := by
  cases s with
  | text value => exact absurd trivial htext
  | comment value => exact .inr ⟨_, rfl⟩
  | interpolation e =>
    rw [Statement.written, Marker.writtenTag, List.append_assoc]
    exact Marker.atMarker_chars _ _
  | block e negated body elseBody =>
    rw [Statement.written, Marker.writtenTag, List.append_assoc, List.append_assoc]
    exact Marker.atMarker_chars _ _
  | unknown =>
    rw [Statement.Writable] at h
    exact h.elim

/-- What is written behind a statement does not run into it. -/
theorem Statement.endsBefore {s : Statement} {ss : List Statement} {final : Bool}
    (h : s.MayPrecede ss final) (hss : Statement.AllWritable final ss) {rest : List Char}
    (hrest : AtMarker rest) (hfinal : final = true → rest = []) :
    s.EndsBefore (Statement.writtenAll ss ++ rest) := by
  cases s with
  | text value =>
    obtain ⟨hnext, hlast⟩ := h
    constructor
    · cases ss with
      | nil => exact hrest
      | cons next ss =>
        obtain ⟨hwritable, -, -⟩ := hss
        rw [Statement.writtenAll, List.append_assoc]
        exact Statement.written_atMarker hwritable (hnext next rfl) _
    · intro hbrace
      obtain ⟨rfl, hf⟩ := hlast hbrace
      rw [hfinal hf]
      rfl
  | _ => trivial

theorem atMarker_elseAndClose (elseBody : Option (List Statement)) (name : String)
    (rest : List Char) :
    AtMarker (Statement.writtenElse elseBody ++ (writtenCloseTag name ++ rest)) := by
  cases elseBody with
  | none =>
    rw [Statement.writtenElse, List.nil_append, writtenCloseTag, List.append_assoc]
    exact Marker.atMarker_chars _ _
  | some ss =>
    rw [Statement.writtenElse, writtenElseTag, List.append_assoc, List.append_assoc]
    exact Marker.atMarker_chars _ _

theorem Marker.opensBlock_ofBlock (negated : Bool) :
    OpensBlock (Marker.ofBlock negated) negated := by
  cases negated
  · exact .plain
  · exact .negated

mutual

theorem Statement.scans : ∀ s : Statement, s.Writable →
    ∃ ts, DerivesStatement ts s ∧ ∀ rest, s.EndsBefore rest →
      Scans false (s.written ++ rest) ts false rest
  | .text value, h => by
    obtain ⟨hne, hplain⟩ := h
    refine ⟨_, .text value, fun rest hrest => ?_⟩
    have hrule := Token.outsideRule_text hne hplain hrest.2 hrest.1
    rw [String.ofList_toList] at hrule
    exact .one hrule
  | .comment value, h => by
    obtain ⟨htrim, hplain⟩ := h
    refine ⟨_, .comment value, fun rest _ => ?_⟩
    have hrule := Token.outsideRule_comment rest htrim hplain
    rw [String.ofList_toList] at hrule
    have hscans : Scans false _ [.comment value] false rest := .one hrule
    simpa [Statement.written] using hscans
  | .interpolation e, h => by
    obtain ⟨hwritable, helse⟩ := h
    obtain ⟨us, hderives, hscans⟩ := Expression.scans hwritable
    obtain ⟨ts, htag, htagScans⟩ := Marker.scans_writtenTag .interpolation
      (Expression.written_endsBlanks hwritable.1) hscans
    exact ⟨ts, .interpolation htag hderives (not_isElseTag htag hderives helse),
      fun rest _ => htagScans rest⟩
  | .block e negated body elseBody, h => by
    obtain ⟨hwritable, hcloses, hbody, helse⟩ := h
    obtain ⟨us, hderives, hscans⟩ := Expression.scans hwritable
    obtain ⟨opening, hopening, hopeningScans⟩ := Marker.scans_writtenTag (Marker.ofBlock negated)
      (Expression.written_endsBlanks hwritable.1) hscans
    obtain ⟨names, hnames, hname⟩ := Expression.exists_closing hwritable hcloses
    obtain ⟨closing, hclosing, hclosingScans⟩ := scans_writtenCloseTag hnames hname
    obtain ⟨ts, hts, htsScans⟩ := Statement.scans_all false body hbody
    obtain ⟨vs, hvs, hvsScans⟩ := Statement.scans_else elseBody helse
    refine ⟨_, .block (Marker.opensBlock_ofBlock negated) hopening hderives hts hvs hclosing,
      fun rest _ => ?_⟩
    have hclose := hclosingScans rest
    have hclosesAt : AtMarker (writtenCloseTag e.blockName ++ rest) :=
      atMarker_elseAndClose none e.blockName rest
    have helseScans := (hvsScans _ hclosesAt).append hclose
    have hinside := (htsScans _ (atMarker_elseAndClose elseBody e.blockName rest)
      (fun h => nomatch h)).append helseScans
    have hall := (hopeningScans _).append hinside
    simpa [Statement.written] using hall
  | .unknown, h => by
    rw [Statement.Writable] at h
    exact h.elim

theorem Statement.scans_all (final : Bool) : ∀ ss : List Statement, Statement.AllWritable final ss →
    ∃ ts, DerivesBody ts ss ∧ ∀ rest, AtMarker rest → (final = true → rest = []) →
      Scans false (Statement.writtenAll ss ++ rest) ts false rest
  | [], _ => ⟨[], .nil, fun rest _ _ => .nil _ _⟩
  | s :: ss, h => by
    obtain ⟨hs, hprecede, hss⟩ := h
    obtain ⟨ts, hts, htsScans⟩ := Statement.scans s hs
    obtain ⟨us, hus, husScans⟩ := Statement.scans_all final ss hss
    refine ⟨_, .cons hts hus, fun rest hrest hfinal => ?_⟩
    have hend := Statement.endsBefore hprecede hss hrest hfinal
    have hall := (htsScans _ hend).append (husScans rest hrest hfinal)
    simpa [Statement.writtenAll] using hall

theorem Statement.scans_else : ∀ elseBody : Option (List Statement),
    Statement.ElseWritable elseBody →
    ∃ ts, DerivesElse ts elseBody ∧ ∀ rest, AtMarker rest →
      Scans false (Statement.writtenElse elseBody ++ rest) ts false rest
  | none, _ => ⟨[], .none, fun rest _ => .nil _ _⟩
  | some ss, h => by
    obtain ⟨tag, htag, htagScans⟩ := scans_writtenElseTag
    obtain ⟨ts, hts, htsScans⟩ := Statement.scans_all false ss h
    refine ⟨_, .some htag hts, fun rest hrest => ?_⟩
    have hall := (htagScans _).append (htsScans rest hrest (fun h => nomatch h))
    simpa [Statement.writtenElse] using hall

end

/-! ## Sources -/

theorem Template.parse_eq_ok {source : String} {t : Template} :
    Template.parse source = .ok t ↔ ∃ lexemes, Lexeme.scan source = .ok lexemes ∧
      Grammar.template (lexemes.map Lexeme.token) = .ok t := by
  unfold Template.parse
  cases Lexeme.scan source with
  | error e => simp
  | ok lexemes =>
    cases htemplate : Grammar.template (lexemes.map Lexeme.token) with
    | error e => simp [htemplate]
    | ok t' => simp [htemplate]

/-- The lexemes of a source derive what was written. -/
theorem Statement.scan_source {ss : List Statement} (h : Statement.AllWritable true ss) :
    ∃ lexemes, Lexeme.scan (Statement.source ss) = .ok lexemes ∧
      DerivesBody (lexemes.map Lexeme.token) ss := by
  obtain ⟨ts, hderives, hscans⟩ := Statement.scans_all true ss h
  have hend := hscans [] (.inl rfl) fun _ => rfl
  rw [List.append_nil, ← String.toList_ofList (l := Statement.writtenAll ss)] at hend
  obtain ⟨lexemes, hlexemes, rfl⟩ := (Lexeme.scan_eq_ok_iff _ ts).2 hend
  exact ⟨lexemes, hlexemes, hderives⟩

/-- **Writing is read back.** The source of writable statements that do not nest too deep parses to
the template of these statements. -/
theorem Statement.parse_source (ss : List Statement) (h : Statement.AllWritable true ss)
    (hdepth : (Template.ofStatements ss).nestingDepth ≤ 128) :
    Template.parse (Statement.source ss) = .ok (Template.ofStatements ss) := by
  obtain ⟨lexemes, hlexemes, hderives⟩ := Statement.scan_source h
  refine Template.parse_eq_ok.2 ⟨lexemes, hlexemes, template_eq_ok.2 ⟨?_, hderives, rfl⟩⟩
  exact hderives.nestingError?_eq_none_iff.2 hdepth

/-- Quotes, a backslash and closing braces in a literal, braces in texts and comments, and a block
that a literal opens. -/
theorem Statement.parse_source_block :
    Template.parse (Statement.source
        [.text "\x7b \x7d\x7d", .comment "\x7d\x7d --", .block (.literal "a.b") true
          [.interpolation (.call "f" [.literal "\"\x7d\x7d\\", .call "g" []])] (some [.text "\n"]),
          .text "\x7b"]) =
      .ok (Template.ofStatements
        [.text "\x7b \x7d\x7d", .comment "\x7d\x7d --", .block (.literal "a.b") true
          [.interpolation (.call "f" [.literal "\"\x7d\x7d\\", .call "g" []])] (some [.text "\n"]),
          .text "\x7b"]) := by
  refine Statement.parse_source _ ?_ ?_
  · have hcall : Expression.Writable (.call "f" [.literal "\"\x7d\x7d\\", .call "g" []]) :=
      ⟨⟨by decide, trivial, ⟨by decide, trivial⟩, trivial⟩, by simp⟩
    have hbody : Statement.AllWritable false
        [.interpolation (.call "f" [.literal "\"\x7d\x7d\\", .call "g" []])] :=
      ⟨⟨hcall, by simp⟩, trivial, trivial⟩
    have helse : Statement.ElseWritable (some [.text "\n"]) :=
      ⟨⟨by decide, by decide⟩, ⟨by simp, by decide⟩, trivial⟩
    have hblock : Statement.Writable (.block (.literal "a.b") true
        [.interpolation (.call "f" [.literal "\"\x7d\x7d\\", .call "g" []])]
        (some [.text "\n"])) :=
      ⟨⟨trivial, by simp⟩, ⟨["a", "b"], by decide, rfl⟩, hbody, helse⟩
    exact ⟨⟨by decide, by decide⟩, ⟨by simp [Statement.IsText], by decide⟩,
      ⟨by decide, by decide⟩, trivial, hblock, trivial,
      ⟨by decide, by decide⟩, ⟨by simp, by decide⟩, trivial⟩
  · rw [Template.nestingDepth_eq]
    decide

end Stencil
