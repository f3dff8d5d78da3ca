import Mathlib.Data.List.DropRight
import Stencil.Span

/-!
# What positions count

A position goes on character by character. Behind a text it has counted the bytes of the text, its
line breaks, and the characters behind the last of them (`Position.offset_after_start` and the
lemmas that follow it). So the span of a part of a text starts where that part starts
(`Span.startsBehind_since`), at the boundary of a character.
-/

namespace Stencil

/-- What stands behind the last line break, or the whole text if there is none. -/
def Text.lastLine (cs : List Char) : List Char :=
  cs.rtakeWhile (· ≠ '\n')

theorem Text.lastLine_concat (cs : List Char) (c : Char) :
    Text.lastLine (cs ++ [c]) = if c = '\n' then [] else Text.lastLine cs ++ [c] := by
  unfold Text.lastLine
  rw [List.rtakeWhile_concat]
  by_cases hc : c = '\n'
  · simp [hc]
  · simp [hc]

namespace Position

theorem after_append (p : Position) (cs ds : List Char) :
    p.after (cs ++ ds) = (p.after cs).after ds :=
  List.foldl_append

theorem after_concat (p : Position) (cs : List Char) (c : Char) :
    p.after (cs ++ [c]) = (p.after cs).next c :=
  p.after_append cs [c]

@[simp] theorem offset_next (p : Position) (c : Char) :
    (p.next c).offset = p.offset + c.utf8Size := by
  unfold next
  split <;> rfl

theorem offset_after (p : Position) (cs : List Char) :
    (p.after cs).offset = p.offset + (String.ofList cs).utf8ByteSize := by
  induction cs generalizing p with
  | nil => rfl
  | cons c cs ih =>
    show ((p.next c).after cs).offset = _
    rw [ih, offset_next, String.ofList_cons, String.utf8ByteSize_append,
      String.utf8ByteSize_singleton, Nat.add_assoc]

/-- A text with characters takes up bytes. -/
theorem offset_lt_offset_after (p : Position) {cs : List Char} (h : cs ≠ []) :
    p.offset < (p.after cs).offset := by
  obtain ⟨c, cs, rfl⟩ := List.exists_cons_of_ne_nil h
  have hnext : p.offset < (p.next c).offset := by
    rw [offset_next]
    exact Nat.lt_add_of_pos_right c.utf8Size_pos
  have hrest := (p.next c).offset_after cs
  show p.offset < ((p.next c).after cs).offset
  omega

theorem offset_le_of_prefix (p : Position) {cs ds : List Char} (h : cs <+: ds) :
    (p.after cs).offset ≤ (p.after ds).offset := by
  obtain ⟨more, rfl⟩ := h
  rw [after_append, offset_after (p.after cs)]
  exact Nat.le_add_right _ _

/-! ## From the start of a source -/

theorem offset_after_start (cs : List Char) :
    (start.after cs).offset = (String.ofList cs).utf8ByteSize := by
  rw [offset_after]
  exact Nat.zero_add _

theorem line_after_start (cs : List Char) : (start.after cs).line = cs.count '\n' + 1 := by
  induction cs using List.reverseRecOn with
  | nil => rfl
  | append_singleton cs c ih =>
    rw [after_concat, List.count_append, List.count_singleton]
    unfold next
    by_cases hc : c = '\n'
    · simp [hc, ih]
    · simp [hc, ih]

theorem column_after_start (cs : List Char) :
    (start.after cs).column = (Text.lastLine cs).length + 1 := by
  induction cs using List.reverseRecOn with
  | nil => rfl
  | append_singleton cs c ih =>
    rw [after_concat, Text.lastLine_concat]
    unfold next
    by_cases hc : c = '\n'
    · simp [hc]
    · simp [hc, ih]

end Position

/-! ## Spans in a source -/

namespace Span

/-- The span starts behind `front`, and tells the line and the column of that place. -/
structure StartsBehind (s : Span) (front : String) : Prop where
  start : s.start = front.utf8ByteSize
  line : s.line = front.toList.count '\n' + 1
  column : s.column = (Text.lastLine front.toList).length + 1

theorem startsBehind_since (front : List Char) (stop : Nat) :
    (since (Position.start.after front) stop).StartsBehind (String.ofList front) := by
  refine ⟨Position.offset_after_start front, ?_, ?_⟩
  · rw [String.toList_ofList]
    exact Position.line_after_start front
  · rw [String.toList_ofList]
    exact Position.column_after_start front

/-- The span starts before the end of the source and tells the line and column of that place. -/
def PointsInto (s : Span) (source : String) : Prop :=
  s.start < source.utf8ByteSize ∧ ∃ front back, source = front ++ back ∧ s.StartsBehind front

/-- The span goes from the boundary of a character to the boundary of another one. -/
structure Slices (s : Span) (source : String) : Prop where
  start_le_stop : s.start ≤ s.stop
  stop_le : s.stop ≤ source.utf8ByteSize
  isValid_start : String.Pos.Raw.IsValid source ⟨s.start⟩
  isValid_stop : String.Pos.Raw.IsValid source ⟨s.stop⟩

/-- The spans follow each other without gaps from the byte `first` to the byte `last`, and none of
them is empty. -/
def Tiled : Nat → List Span → Nat → Prop
  | first, [], last => first = last
  | first, s :: ss, last => s.start = first ∧ s.start < s.stop ∧ Tiled s.stop ss last

end Span

end Stencil
