import Stencil.Proofs.Lexeme.Splits
import Stencil.Proofs.Span

/-!
# Lexemes tile their source

`scan_tiles`: the spans of the lexemes of a source follow each other from its first byte to its last
one, every one of them takes up a character, and the lines and columns they tell are those of their
starts.
-/

namespace Stencil.Lexeme

open Stencil.Token

theorem read_ne_nil_of_isItem {inside : Bool} {read rest : List Char} {t : Token}
    (h : IsItem inside (read ++ rest) t rest) : read ≠ [] := by
  obtain ⟨read', hne, hread⟩ := exists_read_of_isItem h
  rwa [List.append_cancel_right hread]

section Splits

variable {p q : Position} {inside stop : Bool} {cs rest : List Char} {lexemes : List Lexeme}

theorem Splits.tiled (h : Splits p inside cs lexemes q stop rest) :
    Span.Tiled p.offset (lexemes.map Lexeme.span) q.offset := by
  induction h with
  | nil => exact rfl
  | @cons p q inside stop read ds rest t lexemes hitem _ ih =>
    exact ⟨rfl, p.offset_lt_offset_after (read_ne_nil_of_isItem hitem), ih⟩

theorem Splits.exists_read (h : Splits p inside cs lexemes q stop rest) :
    ∃ read, cs = read ++ rest ∧ q = p.after read := by
  induction h with
  | nil => exact ⟨[], rfl, rfl⟩
  | @cons p q inside stop read ds rest t lexemes _ _ ih =>
    obtain ⟨more, hmore, rfl⟩ := ih
    exact ⟨read ++ more, by rw [hmore, List.append_assoc], (p.after_append read more).symm⟩

/-- A lexeme is read behind what was read before it. -/
theorem Splits.exists_span_eq (h : Splits p inside cs lexemes q stop rest) {l : Lexeme}
    (hl : l ∈ lexemes) :
    ∃ front read back, cs = front ++ (read ++ back) ∧ read ≠ [] ∧
      l.span = Span.since (p.after front) (p.after (front ++ read)).offset := by
  induction h with
  | nil => cases hl
  | @cons p q inside stop read ds rest t lexemes hitem _ ih =>
    rcases List.mem_cons.1 hl with rfl | hl
    · exact ⟨[], read, ds, rfl, read_ne_nil_of_isItem hitem, rfl⟩
    · obtain ⟨front, read', back, rfl, hne, hspan⟩ := ih hl
      refine ⟨read ++ front, read', back, by rw [List.append_assoc], hne, ?_⟩
      rw [hspan, ← Position.after_append, ← Position.after_append, List.append_assoc]

/-- Every lexeme takes a character. -/
theorem Splits.length_le (h : Splits p inside cs lexemes q stop rest) :
    lexemes.length + rest.length ≤ cs.length := by
  induction h with
  | nil => exact Nat.le_of_eq (Nat.zero_add _)
  | @cons p q inside stop read ds rest t lexemes hitem _ ih =>
    have hlength := List.length_pos_iff.2 (read_ne_nil_of_isItem hitem)
    rw [List.length_cons, List.length_append]
    omega

end Splits

/-! ## Places in a source -/

section Places

variable {source : String} {front back : List Char}

/-- A part of a source begins and ends at the boundaries of characters. -/
theorem isValid_of_append (h : source.toList = front ++ back) :
    String.Pos.Raw.IsValid source ⟨(Position.start.after front).offset⟩ := by
  refine String.Pos.Raw.isValid_iff_exists_append.2
    ⟨String.ofList front, String.ofList back, ?_, ?_⟩
  · rw [← String.ofList_append, ← h, String.ofList_toList]
  · exact String.Pos.Raw.ext (Position.offset_after_start front)

/-- What is left of a source takes up bytes. -/
theorem offset_lt_of_append (h : source.toList = front ++ back) (hback : back ≠ []) :
    (Position.start.after front).offset < source.utf8ByteSize := by
  have hlt := (Position.start.after front).offset_lt_offset_after hback
  rw [← Position.after_append, ← h, Position.offset_after_start source.toList,
    String.ofList_toList] at hlt
  exact hlt

/-- The first byte of a character is all of it only if it takes no more. -/
theorem isValid_next_iff {c : Char} (h : source.toList = front ++ c :: back) :
    String.Pos.Raw.IsValid source ⟨(Position.start.after front).offset + 1⟩ ↔
      c.utf8Size = 1 := by
  have hsize : (Position.start.after (front ++ [c])).offset =
      (Position.start.after front).offset + c.utf8Size := by
    rw [Position.after_concat, Position.offset_next]
  rw [List.append_cons] at h
  constructor
  · intro hvalid
    rw [← String.ofList_toList (s := source), String.Pos.Raw.isValid_ofList] at hvalid
    obtain ⟨i, hi⟩ := hvalid
    rw [← Position.offset_after_start] at hi
    change (Position.start.after front).offset + 1 = _ at hi
    have hpos := c.utf8Size_pos
    -- What is read up to there is no more than `front`, or no less than `front` and the character.
    have htake := List.take_prefix i source.toList
    rcases List.prefix_or_prefix_of_prefix htake ⟨back, h.symm⟩ with hle | hle
    · rcases List.prefix_concat_iff.1 hle with heq | hle
      · rw [heq, hsize] at hi
        omega
      · have := Position.start.offset_le_of_prefix hle
        omega
    · have := Position.start.offset_le_of_prefix hle
      omega
  · intro hc
    have hvalid := isValid_of_append h
    rwa [hsize, hc] at hvalid

theorem pointsInto_of_append (h : source.toList = front ++ back) (hback : back ≠ [])
    (stop : Nat) : (Span.since (Position.start.after front) stop).PointsInto source := by
  refine ⟨offset_lt_of_append h hback, String.ofList front, String.ofList back, ?_,
    Span.startsBehind_since front stop⟩
  rw [← String.ofList_append, ← h, String.ofList_toList]

end Places

section Source

variable {source : String} {q : Position} {lexemes : List Lexeme}

theorem Splits.pointsInto {inside : Bool} {rest : List Char} {l : Lexeme}
    (h : Splits .start false source.toList lexemes q inside rest) (hl : l ∈ lexemes) :
    l.span.PointsInto source := by
  obtain ⟨front, read, back, hsource, hne, hspan⟩ := h.exists_span_eq hl
  rw [hspan]
  exact pointsInto_of_append hsource (by simp [hne]) _

theorem Splits.slices {inside : Bool} {rest : List Char} {l : Lexeme}
    (h : Splits .start false source.toList lexemes q inside rest) (hl : l ∈ lexemes) :
    l.span.start < l.span.stop ∧ l.span.Slices source := by
  obtain ⟨front, read, back, hsource, hne, hspan⟩ := h.exists_span_eq hl
  have hlt := (Position.start.after front).offset_lt_offset_after hne
  rw [← Position.after_append] at hlt
  have hstart := isValid_of_append hsource
  rw [← List.append_assoc] at hsource
  have hstop := isValid_of_append hsource
  rw [hspan]
  exact ⟨hlt, Nat.le_of_lt hlt, hstop.le_rawEndPos, hstart, hstop⟩

/-- The limit on the number of lexemes may be any that is large enough. -/
theorem Splits.scanFrom_eq_ok (h : Splits .start false source.toList lexemes q false [])
    {limit : Nat} (hlimit : source.toList.length ≤ limit) :
    scanFrom limit .start none source.toList = .ok lexemes := by
  obtain ⟨hstop, limit', -, hscan⟩ := h.scanFrom_eq limit none rfl hlimit
  rw [hscan, scanFrom_nil]
  cases hmarker : markerBehind none lexemes with
  | some s =>
    rw [hmarker] at hstop
    cases hstop
  | none =>
    show Except.ok (lexemes ++ []) = _
    rw [List.append_nil]

theorem Splits.offset_eq (h : Splits .start false source.toList lexemes q false []) :
    q.offset = source.utf8ByteSize := by
  obtain ⟨read, hread, rfl⟩ := h.exists_read
  rw [List.append_nil] at hread
  rw [Position.offset_after_start, ← hread, String.ofList_toList]

end Source

/-- **Lexemes tile their source.** Their spans go from the first byte of the source to its end
without gaps, none of them is empty, and there are no lexemes just if there is no source. Each span
lies between boundaries of characters and tells the line and the column of its start. There are no
more lexemes than characters, so that the scan ends by itself: a higher limit changes nothing. -/
theorem scan_tiles (source : String) (lexemes : List Lexeme) (h : scan source = .ok lexemes) :
    Span.Tiled 0 (lexemes.map Lexeme.span) source.utf8ByteSize ∧
    (lexemes = [] ↔ source = "") ∧
    (∀ l ∈ lexemes, String.Pos.Raw.IsValid source ⟨l.span.start⟩ ∧
      String.Pos.Raw.IsValid source ⟨l.span.stop⟩ ∧
      ∃ front back, source = front ++ back ∧ l.span.StartsBehind front) ∧
    lexemes.length ≤ source.length ∧
    (∀ limit, source.length ≤ limit →
      scanFrom limit .start none source.toList = .ok lexemes) := by
  obtain ⟨q, hsplits⟩ := scan_eq_ok_iff_splits.1 h
  have htiled := hsplits.tiled
  rw [hsplits.offset_eq] at htiled
  refine ⟨htiled, ⟨?_, ?_⟩, fun l hl => ?_, ?_, fun limit hlimit => ?_⟩
  · rintro rfl
    exact String.utf8ByteSize_eq_zero_iff.1 (Eq.symm htiled)
  · rintro rfl
    have hnone : scan "" = .ok [] := rfl
    exact Except.ok.inj (h.symm.trans hnone)
  · obtain ⟨-, hslices⟩ := hsplits.slices hl
    exact ⟨hslices.isValid_start, hslices.isValid_stop, (hsplits.pointsInto hl).2⟩
  · have hlength := hsplits.length_le
    rw [List.length_nil, String.length_toList] at hlength
    exact hlength
  · rw [← String.length_toList] at hlimit
    exact hsplits.scanFrom_eq_ok hlimit

/-- A character of two bytes, a line break and a marker. -/
theorem scan_tiles_lines :
    ∃ lexemes, scan "é\n\x7b\x7bx\x7d\x7d" = .ok lexemes ∧
      lexemes.map Lexeme.span = [⟨0, 3, 1, 1⟩, ⟨3, 5, 2, 1⟩, ⟨5, 6, 2, 3⟩, ⟨6, 8, 2, 4⟩] ∧
      Span.Tiled 0 (lexemes.map Lexeme.span) 8 := by
  have hscan : (scan "é\n\x7b\x7bx\x7d\x7d").map (List.map Lexeme.span) =
      .ok [⟨0, 3, 1, 1⟩, ⟨3, 5, 2, 1⟩, ⟨5, 6, 2, 3⟩, ⟨6, 8, 2, 4⟩] := by rfl
  obtain ⟨lexemes, hlexemes, hspans⟩ := map_eq_ok.1 hscan
  exact ⟨lexemes, hlexemes, hspans, (scan_tiles _ lexemes hlexemes).1⟩

end Stencil.Lexeme
