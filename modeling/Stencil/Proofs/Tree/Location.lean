import Stencil.Proofs.Grammar.Grounded
import Stencil.Proofs.Lexeme.Tiling
import Stencil.Tree.Source

/-!
# Where syntax errors point

A source is refused where no item begins, for the marker in which it ends, or at one of its lexemes
(`SyntaxError.Located`). Each of these is a place in the source, and the error tells its line and
its column (`Template.parse_error_located`).

The span of a lexeme can be cut out of the source. Where no item begins there is no lexeme, and the
span is a single byte. That is a part of a character if the one that stands there takes more bytes
(`Template.parse_error_slices_iff`).
-/

namespace Stencil

open Lexeme Grammar

/-! ## Places of errors -/

theorem Lexeme.mem_of_lastOpener? {lexemes : List Lexeme} {s : Span}
    (h : (lastOpener? lexemes).map Lexeme.span = some s) : ∃ l ∈ lexemes, l.span = s := by
  obtain ⟨l, hl, rfl⟩ := Option.map_eq_some_iff.1 h
  exact ⟨l, List.mem_of_mem_filter (List.mem_of_getLast? hl), rfl⟩

/-- What the error is about, and that its span is the place of that. -/
inductive SyntaxError.Located (source : String) : SyntaxError → Prop
  /-- No item begins behind the lexemes before, which cover all up to there. -/
  | broken {lexemes : List Lexeme} {q : Position} {inside : Bool} {rest : List Char}
    {fault : Token.Fault} {found : String} :
    Splits .start false source.toList lexemes q inside rest → Token.Faulty inside rest fault →
    Span.Tiled 0 (lexemes.map Lexeme.span) q.offset →
    Located source (.scan (.broken fault found (Span.since q (q.offset + 1))))
  /-- The source ends inside of the marker that was opened last. -/
  | unclosedMarker {lexemes : List Lexeme} {q : Position} {s : Span} :
    Splits .start false source.toList lexemes q true [] →
    (lastOpener? lexemes).map Lexeme.span = some s → Located source (.scan (.unclosedMarker s))
  /-- The grammar finds something wrong with a lexeme. -/
  | grammar {lexemes : List Lexeme} {l : Lexeme} {e : ParseError Fault} :
    Lexeme.scan source = .ok lexemes → template (lexemes.map Lexeme.token) = .error e →
    lexemes[e.position]? = some l → e.cause.IsConcrete → Located source (.grammar e l.span)

theorem Template.parse_eq_error {source : String} {e : SyntaxError} :
    parse source = .error e ↔
      (∃ e', Lexeme.scan source = .error e' ∧ e = .scan e') ∨
      ∃ lexemes e', Lexeme.scan source = .ok lexemes ∧
        template (lexemes.map Lexeme.token) = .error e' ∧ e = .ofParseError source lexemes e' := by
  unfold parse
  cases Lexeme.scan source with
  | error e' => simp [eq_comm]
  | ok lexemes =>
    cases htemplate : template (lexemes.map Lexeme.token) with
    | error e' => simp [htemplate, eq_comm]
    | ok t => simp [htemplate]

theorem SyntaxError.located_of_scan {source : String} {e : ScanError}
    (h : Lexeme.scan source = .error e) : Located source (.scan e) := by
  cases e with
  | broken fault found span =>
    obtain ⟨lexemes, q, inside, rest, hsplits, hfault, -, rfl⟩ := scan_eq_broken_iff_splits.1 h
    exact .broken hsplits hfault hsplits.tiled
  | unclosedMarker span =>
    obtain ⟨lexemes, q, hsplits, hspan⟩ := scan_eq_unclosed_iff_splits.1 h
    exact .unclosedMarker hsplits hspan

/-- The fallback behind the source is not taken. -/
theorem SyntaxError.located_of_template {source : String} {lexemes : List Lexeme}
    {e : ParseError Fault} (hscan : Lexeme.scan source = .ok lexemes)
    (h : template (lexemes.map Lexeme.token) = .error e) :
    Located source (.ofParseError source lexemes e) := by
  have halternate := (arranged_of_scan hscan).alternate
  have hposition := position_lt_of_template halternate h
  rw [List.length_map] at hposition
  have hget : lexemes[e.position]? = some lexemes[e.position] :=
    List.getElem?_eq_getElem hposition
  have hlocated := Located.grammar hscan h hget (isConcrete_of_template halternate h)
  unfold ofParseError
  rw [hget]
  exact hlocated

theorem SyntaxError.located_of_parse {source : String} {e : SyntaxError}
    (h : Template.parse source = .error e) : Located source e := by
  rcases Template.parse_eq_error.1 h with ⟨e', hscan, rfl⟩ | ⟨lexemes, e', hscan, htemplate, rfl⟩
  · exact located_of_scan hscan
  · exact located_of_template hscan htemplate

theorem SyntaxError.Located.pointsInto {source : String} {e : SyntaxError}
    (h : e.Located source) : e.span.PointsInto source := by
  cases h with
  | broken hsplits hfault _ =>
    obtain ⟨read, hsource, rfl⟩ := hsplits.exists_read
    refine pointsInto_of_append hsource ?_ _
    rintro rfl
    exact not_faulty_nil _ _ hfault
  | unclosedMarker hsplits hspan =>
    obtain ⟨l, hl, rfl⟩ := mem_of_lastOpener? hspan
    exact hsplits.pointsInto hl
  | grammar hscan _ hget _ =>
    obtain ⟨q, hsplits⟩ := scan_eq_ok_iff_splits.1 hscan
    exact hsplits.pointsInto (List.mem_of_getElem? hget)

/-- **Syntax errors point at what they are about.** The error of a source that is refused starts
before the end of the source and tells the line and the column of that place. It stands where the
lexemes before it end and no item begins, at the opener of the marker in which the source ends, or
at a lexeme; never is it that the lexemes end, nor that nothing matched. -/
theorem Template.parse_error_located (source : String) (e : SyntaxError)
    (h : parse source = .error e) : e.span.PointsInto source ∧ e.Located source := by
  have hlocated := SyntaxError.located_of_parse h
  exact ⟨hlocated.pointsInto, hlocated⟩

/-- A block that is never closed, behind a character of two bytes and a line break. -/
theorem Template.parse_error_located_unclosed :
    ∃ e, parse "é\n\x7b\x7b#a\x7d\x7d" = .error e ∧
      e.message = "section `a` is never closed at line 2, column 1" ∧
      (e.span.PointsInto "é\n\x7b\x7b#a\x7d\x7d" ∧ e.Located "é\n\x7b\x7b#a\x7d\x7d") := by
  have hparse : parse "é\n\x7b\x7b#a\x7d\x7d" =
      .error (.grammar (.failure (.unclosedBlock "a") 1) ⟨3, 6, 2, 1⟩) := by rfl
  exact ⟨_, hparse, rfl, parse_error_located _ _ hparse⟩

/-! ## Cutting spans out of the source -/

/-- Inside of a marker stands a character of several bytes that begins no item. -/
def SyntaxError.MeetsWideCharacter : SyntaxError → Prop
  | scan (.broken (.unexpectedCharacter c) _ _) => 1 < c.utf8Size
  | _ => False

theorem SyntaxError.meetsWideCharacter_iff {inside : Bool} {c : Char} {cs : List Char}
    {fault : Token.Fault} (h : Token.Faulty inside (c :: cs) fault) (found : String) (s : Span) :
    (scan (.broken fault found s)).MeetsWideCharacter ↔ c.utf8Size ≠ 1 := by
  cases h with
  | character =>
    have hpos := c.utf8Size_pos
    show 1 < c.utf8Size ↔ _
    omega
  | _ => exact ⟨False.elim, fun hne => hne rfl⟩

theorem SyntaxError.Located.slices_iff {source : String} {e : SyntaxError}
    (h : e.Located source) :
    e.span.start < e.span.stop ∧ e.span.stop ≤ source.utf8ByteSize ∧
      String.Pos.Raw.IsValid source ⟨e.span.start⟩ ∧
      (e.span.Slices source ↔ ¬ e.MeetsWideCharacter) := by
  cases h with
  | @broken lexemes q inside rest fault found hsplits hfault _ =>
    obtain ⟨read, hsource, rfl⟩ := hsplits.exists_read
    cases rest with
    | nil => exact absurd hfault (not_faulty_nil _ _)
    | cons c cs =>
      have hstop := offset_lt_of_append hsource (List.cons_ne_nil c cs)
      have hstart := isValid_of_append hsource
      rw [meetsWideCharacter_iff hfault, Classical.not_not, ← isValid_next_iff hsource]
      exact ⟨Nat.lt_succ_self _, hstop, hstart, fun h => h.isValid_stop, fun h =>
        ⟨Nat.le_succ _, hstop, hstart, h⟩⟩
  | unclosedMarker hsplits hspan =>
    obtain ⟨l, hl, rfl⟩ := mem_of_lastOpener? hspan
    obtain ⟨hlt, hslices⟩ := hsplits.slices hl
    exact ⟨hlt, hslices.stop_le, hslices.isValid_start, fun _ => id, fun _ => hslices⟩
  | grammar hscan _ hget _ =>
    obtain ⟨q, hsplits⟩ := scan_eq_ok_iff_splits.1 hscan
    obtain ⟨hlt, hslices⟩ := hsplits.slices (List.mem_of_getElem? hget)
    exact ⟨hlt, hslices.stop_le, hslices.isValid_start, fun _ => id, fun _ => hslices⟩

/-- **Which spans of errors can be cut out of the source.** The span of the error of a source that
is refused is not empty, lies in the source and starts at the boundary of a character. It ends at
one, too, unless it is about a character of several bytes inside of a marker: then it ends behind
the first byte of that character. The errors of scans are among those of sources. -/
theorem Template.parse_error_slices_iff (source : String) :
    (∀ e, parse source = .error e →
      e.span.start < e.span.stop ∧ e.span.stop ≤ source.utf8ByteSize ∧
        String.Pos.Raw.IsValid source ⟨e.span.start⟩ ∧
        (e.span.Slices source ↔ ¬ e.MeetsWideCharacter)) ∧
    ∀ e, Lexeme.scan source = .error e → parse source = .error (.scan e) :=
  ⟨fun _ h => (SyntaxError.located_of_parse h).slices_iff,
    fun e h => parse_eq_error.2 (.inl ⟨e, h, rfl⟩)⟩

theorem Lexeme.scan_wide : Lexeme.scan "\x7b\x7b😀\x7d\x7d" =
    .error (.broken (.unexpectedCharacter '😀') "😀\x7d\x7d" ⟨2, 3, 1, 3⟩) := by
  decide +kernel

/-- The span ends inside of a character of four bytes. -/
theorem Template.parse_error_slices_iff_wide :
    ∃ e, parse "\x7b\x7b😀\x7d\x7d" = .error e ∧ e.span = ⟨2, 3, 1, 3⟩ ∧
      String.Pos.Raw.IsValid "\x7b\x7b😀\x7d\x7d" ⟨2⟩ ∧
      ¬ e.span.Slices "\x7b\x7b😀\x7d\x7d" := by
  obtain ⟨hparse, hscan⟩ := parse_error_slices_iff "\x7b\x7b😀\x7d\x7d"
  obtain ⟨-, -, hstart, hslices⟩ := hparse _ (hscan _ scan_wide)
  have hwide : 1 < '😀'.utf8Size := by decide
  exact ⟨_, hscan _ scan_wide, rfl, hstart, fun h => hslices.1 h hwide⟩

/-- So the spans of some errors cannot be cut out of their source. -/
theorem Template.parse_error_slices_fails :
    ¬ ∀ source e, parse source = .error e → e.span.Slices source := by
  intro h
  have hslices := h _ _ (parse_eq_error.2 (.inl ⟨_, scan_wide, rfl⟩))
  have hsource : "\x7b\x7b😀\x7d\x7d".toList = ['\x7b', '\x7b'] ++ '😀' :: ['\x7d', '\x7d'] := by rfl
  have hsize := (isValid_next_iff hsource).1 hslices.isValid_stop
  have hwide : '😀'.utf8Size ≠ 1 := by decide
  exact hwide hsize

end Stencil
