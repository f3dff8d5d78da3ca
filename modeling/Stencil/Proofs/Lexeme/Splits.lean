import Stencil.Proofs.Lexeme.Arrangement

/-!
# Sources split into items

`Splits` says how a source splits into the items of the lexical grammar, from left to right, and
which lexemes they are. Every source splits up to its end or to a place where no item begins
(`exists_splits`), and the scan of the source says which (`scan_eq_ok_iff_splits`,
`scan_eq_broken_iff_splits`, `scan_eq_unclosed_iff_splits`).
-/

namespace Stencil.Lexeme

open Stencil.Token

/-! ## Where no item begins -/

theorem faulty_iff {inside : Bool} {c : Char} {cs : List Char} {fault : Fault} :
    Faulty inside (c :: cs) fault ↔ ruleIn inside (c :: cs) = .broken fault ∨
      ruleIn inside (c :: cs) = .refused ∧ fault = .unexpectedCharacter c := by
  cases inside with
  | false =>
    show _ ↔ outsideRule _ = _ ∨ outsideRule _ = _ ∧ _
    rw [outsideRule_eq_broken_iff, outsideRule_eq_refused_iff]
    constructor
    · intro h
      cases h with
      | comment hopen => exact .inl ⟨_, rfl, hopen, rfl⟩
    · rintro (⟨more, hcs, hopen, rfl⟩ | ⟨h, -⟩)
      · exact hcs ▸ .comment hopen
      · cases h
  | true =>
    show _ ↔ insideRule _ = _ ∨ insideRule _ = _ ∧ _
    rw [insideRule_eq_broken_iff, insideRule_eq_refused_iff, literalRule_eq_broken_iff]
    constructor
    · intro h
      cases h with
      | literal hspells => exact .inl ⟨_, _, hspells, .inl ⟨.inl rfl, rfl⟩⟩
      | backslash hspells => exact .inl ⟨_, _, hspells, .inl ⟨.inr rfl, rfl⟩⟩
      | escape hspells hc => exact .inl ⟨_, _, hspells, .inr ⟨_, _, hc, rfl, rfl⟩⟩
      | character hnothing => exact .inr ⟨hnothing, rfl⟩
    · rintro (⟨body, value, hspells, ⟨hcs | hcs, rfl⟩ | ⟨d, rest, hd, hcs, rfl⟩⟩ | ⟨h, rfl⟩)
      · exact hcs ▸ .literal hspells
      · exact hcs ▸ .backslash hspells
      · exact hcs ▸ .escape hspells hd
      · exact .character h

theorem not_faulty_nil (inside : Bool) (fault : Fault) : ¬ Faulty inside [] fault := by
  intro h
  cases h

/-- Every item takes something. -/
theorem exists_read_of_isItem {inside : Bool} {cs rest : List Char} {t : Token}
    (h : IsItem inside cs t rest) : ∃ read, read ≠ [] ∧ cs = read ++ rest :=
  advances_ruleIn inside cs t rest (ruleIn_eq_taken_iff.2 h)

theorem exists_item_or_faulty (inside : Bool) (c : Char) (cs : List Char) :
    (∃ t rest, IsItem inside (c :: cs) t rest) ∨ ∃ fault, Faulty inside (c :: cs) fault := by
  cases hrule : ruleIn inside (c :: cs) with
  | taken t rest => exact .inl ⟨t, rest, ruleIn_eq_taken_iff.1 hrule⟩
  | broken fault => exact .inr ⟨fault, faulty_iff.2 (.inl hrule)⟩
  | refused => exact .inr ⟨_, faulty_iff.2 (.inr ⟨hrule, rfl⟩)⟩

/-! ## Splits -/

/-- From the position `p`, inside of a marker or not, `cs` splits into the lexemes, behind which the
position `q` is reached, inside of a marker or not, and `rest` is left. -/
inductive Splits : Position → Bool → List Char → List Lexeme → Position → Bool → List Char → Prop
  | nil (p : Position) (inside : Bool) (cs : List Char) : Splits p inside cs [] p inside cs
  | cons {p q : Position} {inside stop : Bool} {read ds rest : List Char} {t : Token}
    {lexemes : List Lexeme} : IsItem inside (read ++ ds) t ds →
    Splits (p.after read) (t.opensAfter inside) ds lexemes q stop rest →
    Splits p inside (read ++ ds) (⟨t, Span.since p (p.after read).offset⟩ :: lexemes) q stop rest

/-- A split goes on up to the end or to where no item begins. -/
theorem exists_splits (p : Position) (inside : Bool) (cs : List Char) :
    ∃ lexemes q stop rest, Splits p inside cs lexemes q stop rest ∧
      (rest = [] ∨ ∃ fault, Faulty stop rest fault) := by
  match hcs : cs with
  | [] => exact ⟨[], p, inside, [], .nil _ _ _, .inl rfl⟩
  | c :: ds =>
    rcases exists_item_or_faulty inside c ds with ⟨t, rest, hitem⟩ | hfault
    · obtain ⟨read, hne, hread⟩ := exists_read_of_isItem hitem
      have hlength := List.length_pos_iff.2 hne
      have hshorter : rest.length < (c :: ds).length := by
        rw [hread, List.length_append]
        omega
      rw [← hcs] at hshorter
      obtain ⟨lexemes, q, stop, rest', hsplits, hend⟩ :=
        exists_splits (p.after read) (t.opensAfter inside) rest
      rw [hread] at hitem ⊢
      exact ⟨_, q, stop, rest', .cons hitem hsplits, hend⟩
    · exact ⟨[], p, inside, c :: ds, .nil _ _ _, .inr hfault⟩
termination_by cs.length
decreasing_by
  subst hcs
  exact hshorter

/-- Without the spans, splits are scans. -/
theorem Splits.scans {p q : Position} {inside stop : Bool} {cs rest : List Char}
    {lexemes : List Lexeme} (h : Splits p inside cs lexemes q stop rest) :
    Scans inside cs (lexemes.map Lexeme.token) stop rest := by
  induction h with
  | nil => exact .nil _ _
  | cons hitem _ ih => exact .cons (ruleIn_eq_taken_iff.2 hitem) ih

theorem Scans.exists_splits {inside stop : Bool} {cs rest : List Char} {ts : List Token}
    (h : Scans inside cs ts stop rest) (p : Position) :
    ∃ lexemes q, Splits p inside cs lexemes q stop rest ∧ lexemes.map Lexeme.token = ts := by
  induction h generalizing p with
  | nil => exact ⟨[], p, .nil _ _ _, rfl⟩
  | cons hrule _ ih =>
    have hitem := ruleIn_eq_taken_iff.1 hrule
    obtain ⟨read, -, rfl⟩ := exists_read_of_isItem hitem
    obtain ⟨lexemes, q, hsplits, rfl⟩ := ih (p.after read)
    exact ⟨_, q, .cons hitem hsplits, rfl⟩

/-! ## The scan of what splits -/

/-- The marker that is open behind the lexemes. -/
def markerBehind (marker : Option Span) (lexemes : List Lexeme) : Option Span :=
  lexemes.foldl (fun marker l => markerAfter l.token l.span marker) marker

theorem markerBehind_cons (marker : Option Span) (l : Lexeme) (lexemes : List Lexeme) :
    markerBehind marker (l :: lexemes) =
      markerBehind (markerAfter l.token l.span marker) lexemes :=
  rfl

theorem scanFrom_of_item {limit : Nat} {p : Position} {marker : Option Span} {read ds : List Char}
    {t : Token} (h : IsItem marker.isSome (read ++ ds) t ds) :
    scanFrom (limit + 1) p marker (read ++ ds) =
      (scanFrom limit (p.after read) (markerAfter t (Span.since p (p.after read).offset) marker)
        ds).map (⟨t, Span.since p (p.after read).offset⟩ :: ·) := by
  have hrule := ruleIn_eq_taken_iff.2 h
  obtain ⟨read', hne, hread⟩ := exists_read_of_isItem h
  obtain rfl := List.append_cancel_right hread
  obtain ⟨c, read, rfl⟩ := List.exists_cons_of_ne_nil hne
  have htake : (c :: (read ++ ds)).take ((read ++ ds).length + 1 - ds.length) = c :: read := by
    rw [List.length_append, ← List.cons_append]
    apply List.take_left'
    rw [List.length_cons]
    omega
  rw [List.cons_append] at hrule ⊢
  rw [scanFrom, show ruleFor marker = ruleIn marker.isSome from rfl, hrule]
  simp only [htake]

/-- A scan goes through the lexemes of a split and on from there. -/
theorem Splits.scanFrom_eq {p q : Position} {inside stop : Bool} {cs rest : List Char}
    {lexemes : List Lexeme} (h : Splits p inside cs lexemes q stop rest) :
    ∀ (limit : Nat) (marker : Option Span), marker.isSome = inside → cs.length ≤ limit →
      (markerBehind marker lexemes).isSome = stop ∧ ∃ limit', rest.length ≤ limit' ∧
        scanFrom limit p marker cs =
          (scanFrom limit' q (markerBehind marker lexemes) rest).map (lexemes ++ ·) := by
  induction h with
  | nil p inside cs =>
    intro limit marker hmarker hlimit
    refine ⟨hmarker, limit, hlimit, ?_⟩
    show scanFrom limit p marker cs = (scanFrom limit p marker cs).map fun lexemes => lexemes
    cases scanFrom limit p marker cs <;> rfl
  | @cons p q inside stop read ds rest t lexemes hitem _ ih =>
    intro limit marker hmarker hlimit
    subst hmarker
    obtain ⟨read', hne, hread⟩ := exists_read_of_isItem hitem
    obtain rfl := List.append_cancel_right hread
    have hlength := List.length_pos_iff.2 hne
    rw [List.length_append] at hlimit
    obtain ⟨limit, rfl⟩ : ∃ n, limit = n + 1 := ⟨limit - 1, by omega⟩
    obtain ⟨hstop, limit', hlimit', hscan⟩ := ih limit _
      (markerAfter_isSome t (Span.since p (p.after read).offset) marker) (by omega)
    refine ⟨hstop, limit', hlimit', ?_⟩
    rw [scanFrom_of_item hitem, hscan]
    show _ = (scanFrom limit' q (markerBehind _ lexemes) rest).map _
    cases scanFrom limit' q _ rest <;> rfl

/-! ## The ends of scans -/

/-- The last opener among the lexemes. -/
def lastOpener? (lexemes : List Lexeme) : Option Lexeme :=
  (lexemes.filter fun l => l.token.isOpener).getLast?

theorem lastOpener?_concat (lexemes : List Lexeme) (l : Lexeme) :
    lastOpener? (lexemes ++ [l]) = if l.token.isOpener then some l else lastOpener? lexemes := by
  unfold lastOpener?
  rw [List.filter_append]
  by_cases hl : l.token.isOpener = true
  · simp [hl]
  · simp [hl]

/-- A marker that is open was opened by the last opener. -/
theorem lastOpener?_of_markerBehind {marker : Option Span} {before lexemes : List Lexeme}
    {s : Span} (hmarker : ∀ s, marker = some s → (lastOpener? before).map Lexeme.span = some s)
    (h : markerBehind marker lexemes = some s) :
    (lastOpener? (before ++ lexemes)).map Lexeme.span = some s := by
  induction lexemes generalizing marker before with
  | nil =>
    rw [List.append_nil]
    exact hmarker s h
  | cons l lexemes ih =>
    rw [List.append_cons]
    rw [markerBehind_cons] at h
    refine ih (fun s hs => ?_) h
    rw [lastOpener?_concat]
    obtain ⟨t, span⟩ := l
    cases t with
    | opener marker => exact hs
    | closer => cases hs
    | _ => exact hmarker s hs

theorem Splits.scan_eq {source : String} {q : Position} {stop : Bool} {rest : List Char}
    {lexemes : List Lexeme} (h : Splits .start false source.toList lexemes q stop rest) :
    (markerBehind none lexemes).isSome = stop ∧ ∃ limit, rest.length ≤ limit ∧
      scan source = (scanFrom limit q (markerBehind none lexemes) rest).map (lexemes ++ ·) :=
  h.scanFrom_eq _ none rfl (Nat.le_refl _)

theorem scanFrom_nil (limit : Nat) (p : Position) (marker : Option Span) :
    scanFrom limit p marker [] = match marker with
      | none => .ok []
      | some s => .error (.unclosedMarker s) := by
  cases limit <;> cases marker <;> rfl

theorem scanFrom_of_faulty {limit : Nat} {p : Position} {marker : Option Span} {rest : List Char}
    {fault : Fault} (h : Faulty marker.isSome rest fault) (hlimit : rest.length ≤ limit) :
    scanFrom limit p marker rest = .error (brokenAt p rest fault) := by
  cases rest with
  | nil => exact absurd h (not_faulty_nil _ _)
  | cons c cs =>
    rw [List.length_cons] at hlimit
    obtain ⟨limit, rfl⟩ : ∃ n, limit = n + 1 := ⟨limit - 1, by omega⟩
    rw [scanFrom, show ruleFor marker = ruleIn marker.isSome from rfl]
    rcases faulty_iff.1 h with hrule | ⟨hrule, rfl⟩
    · rw [hrule]
    · rw [hrule]

theorem Splits.scan_eq_ok {source : String} {q : Position} {lexemes : List Lexeme}
    (h : Splits .start false source.toList lexemes q false []) : scan source = .ok lexemes := by
  obtain ⟨hstop, limit, -, hscan⟩ := h.scan_eq
  rw [hscan, scanFrom_nil]
  cases hmarker : markerBehind none lexemes with
  | some s =>
    rw [hmarker] at hstop
    cases hstop
  | none =>
    show Except.ok (lexemes ++ []) = _
    rw [List.append_nil]

theorem Splits.scan_eq_unclosed {source : String} {q : Position} {lexemes : List Lexeme}
    (h : Splits .start false source.toList lexemes q true []) :
    ∃ s, (lastOpener? lexemes).map Lexeme.span = some s ∧
      scan source = .error (.unclosedMarker s) := by
  obtain ⟨hstop, limit, -, hscan⟩ := h.scan_eq
  obtain ⟨s, hs⟩ := Option.isSome_iff_exists.1 hstop
  have hnone : ∀ s, none = some s → (lastOpener? []).map Lexeme.span = some s :=
    fun s h => nomatch h
  refine ⟨s, lastOpener?_of_markerBehind hnone hs, ?_⟩
  rw [hscan, scanFrom_nil, hs]
  rfl

theorem Splits.scan_eq_broken {source : String} {q : Position} {stop : Bool} {rest : List Char}
    {lexemes : List Lexeme} {fault : Fault}
    (h : Splits .start false source.toList lexemes q stop rest) (hfault : Faulty stop rest fault) :
    scan source = .error (brokenAt q rest fault) := by
  obtain ⟨rfl, limit, hlimit, hscan⟩ := h.scan_eq
  rw [hscan, scanFrom_of_faulty hfault hlimit]
  rfl

/-- A source is scanned, breaks off or ends inside of a marker, as its split does. -/
theorem scan_cases (source : String) :
    (∃ lexemes q, Splits .start false source.toList lexemes q false [] ∧
      scan source = .ok lexemes) ∨
    (∃ lexemes q stop rest fault, Splits .start false source.toList lexemes q stop rest ∧
      Faulty stop rest fault ∧ scan source = .error (brokenAt q rest fault)) ∨
    (∃ lexemes q s, Splits .start false source.toList lexemes q true [] ∧
      (lastOpener? lexemes).map Lexeme.span = some s ∧
      scan source = .error (.unclosedMarker s)) := by
  obtain ⟨lexemes, q, stop, rest, hsplits, rfl | ⟨fault, hfault⟩⟩ :=
    exists_splits .start false source.toList
  · cases stop with
    | false => exact .inl ⟨lexemes, q, hsplits, hsplits.scan_eq_ok⟩
    | true =>
      obtain ⟨s, hs, hscan⟩ := hsplits.scan_eq_unclosed
      exact .inr (.inr ⟨lexemes, q, s, hsplits, hs, hscan⟩)
  · exact .inr (.inl ⟨lexemes, q, stop, rest, fault, hsplits, hfault,
      hsplits.scan_eq_broken hfault⟩)

theorem scan_eq_ok_iff_splits {source : String} {lexemes : List Lexeme} :
    scan source = .ok lexemes ↔ ∃ q, Splits .start false source.toList lexemes q false [] := by
  constructor
  · intro h
    rcases scan_cases source with ⟨lexemes', q, hsplits, hscan⟩ | ⟨_, _, _, _, _, _, _, hscan⟩ |
      ⟨_, _, _, _, _, hscan⟩
    · obtain rfl := Except.ok.inj (hscan.symm.trans h)
      exact ⟨q, hsplits⟩
    · cases hscan.symm.trans h
    · cases hscan.symm.trans h
  · rintro ⟨q, hsplits⟩
    exact hsplits.scan_eq_ok

theorem scan_eq_broken_iff_splits {source found : String} {fault : Fault} {span : Span} :
    scan source = .error (.broken fault found span) ↔
      ∃ lexemes q stop rest, Splits .start false source.toList lexemes q stop rest ∧
        Faulty stop rest fault ∧ found = String.ofList (rest.take 20) ∧
        span = Span.since q (q.offset + 1) := by
  constructor
  · intro h
    rcases scan_cases source with ⟨_, _, _, hscan⟩ |
      ⟨lexemes, q, stop, rest, fault', hsplits, hfault, hscan⟩ | ⟨_, _, _, _, _, hscan⟩
    · cases hscan.symm.trans h
    · obtain ⟨rfl, rfl, rfl⟩ := ScanError.broken.inj (Except.error.inj (hscan.symm.trans h))
      exact ⟨lexemes, q, stop, rest, hsplits, hfault, rfl, rfl⟩
    · cases hscan.symm.trans h
  · rintro ⟨lexemes, q, stop, rest, hsplits, hfault, rfl, rfl⟩
    exact hsplits.scan_eq_broken hfault

theorem scan_eq_unclosed_iff_splits {source : String} {span : Span} :
    scan source = .error (.unclosedMarker span) ↔
      ∃ lexemes q, Splits .start false source.toList lexemes q true [] ∧
        (lastOpener? lexemes).map Lexeme.span = some span := by
  constructor
  · intro h
    rcases scan_cases source with ⟨_, _, _, hscan⟩ | ⟨_, _, _, _, _, _, _, hscan⟩ |
      ⟨lexemes, q, s, hsplits, hs, hscan⟩
    · cases hscan.symm.trans h
    · cases hscan.symm.trans h
    · obtain rfl := ScanError.unclosedMarker.inj (Except.error.inj (hscan.symm.trans h))
      exact ⟨lexemes, q, hsplits, hs⟩
  · rintro ⟨lexemes, q, hsplits, hspan⟩
    obtain ⟨s, hs, hscan⟩ := hsplits.scan_eq_unclosed
    rw [hscan, Option.some.inj (hs.symm.trans hspan)]

theorem Splits.unique {source : String} {lexemes lexemes' : List Lexeme} {q q' : Position}
    (h : Splits .start false source.toList lexemes q false [])
    (h' : Splits .start false source.toList lexemes' q' false []) : lexemes = lexemes' :=
  Except.ok.inj (h.scan_eq_ok.symm.trans h'.scan_eq_ok)

theorem arranged_of_scan {source : String} {lexemes : List Lexeme}
    (h : scan source = .ok lexemes) : Arranged (lexemes.map Lexeme.token) := by
  obtain ⟨q, hsplits⟩ := scan_eq_ok_iff_splits.1 h
  exact hsplits.scans.arranged

/-- **Scans follow the lexical grammar.** A source is scanned just if it splits into items, which it
does in one way only, and the lexemes are those items. The scan breaks off just where no item
begins, and a marker is found unclosed just if the source ends in it; it is the one that was opened
last. -/
theorem scan_iff_splits (source : String) :
    (∀ lexemes, scan source = .ok lexemes ↔
      ∃ q, Splits .start false source.toList lexemes q false []) ∧
    (∀ lexemes lexemes' q q', Splits .start false source.toList lexemes q false [] →
      Splits .start false source.toList lexemes' q' false [] → lexemes = lexemes') ∧
    (∀ fault found span, scan source = .error (.broken fault found span) ↔
      ∃ lexemes q inside rest, Splits .start false source.toList lexemes q inside rest ∧
        Faulty inside rest fault ∧ found = String.ofList (rest.take 20) ∧
        span = Span.since q (q.offset + 1)) ∧
    (∀ span, scan source = .error (.unclosedMarker span) ↔
      ∃ lexemes q, Splits .start false source.toList lexemes q true [] ∧
        (lastOpener? lexemes).map Lexeme.span = some span) ∧
    (∀ lexemes, scan source = .ok lexemes → Arranged (lexemes.map Lexeme.token)) :=
  ⟨fun _ => scan_eq_ok_iff_splits, fun _ _ _ _ h h' => h.unique h',
    fun _ _ _ => scan_eq_broken_iff_splits, fun _ => scan_eq_unclosed_iff_splits,
    fun _ => arranged_of_scan⟩

/-- A short comment that opens like a long one, a closer in a literal and lone braces. -/
theorem scan_iff_splits_fallback :
    ∃ lexemes, scan "\x7b \x7b\x7b!-- a \x7d\x7d\x7b\x7b# \"\x7d\x7d\"\x7d\x7d\x7d" = .ok lexemes ∧
      lexemes.map Lexeme.token = [.text "\x7b ", .comment "-- a", .opener .blockOpen,
        .whitespace " ", .literal "\x7d\x7d", .closer, .text "\x7d"] ∧
      Arranged (lexemes.map Lexeme.token) := by
  have hscan : (scan "\x7b \x7b\x7b!-- a \x7d\x7d\x7b\x7b# \"\x7d\x7d\"\x7d\x7d\x7d").map
      (List.map Lexeme.token) = .ok [.text "\x7b ", .comment "-- a", .opener .blockOpen,
        .whitespace " ", .literal "\x7d\x7d", .closer, .text "\x7d"] := by rfl
  obtain ⟨lexemes, hlexemes, htokens⟩ := map_eq_ok.1 hscan
  exact ⟨lexemes, hlexemes, htokens, (scan_iff_splits _).2.2.2.2 lexemes hlexemes⟩

end Stencil.Lexeme
