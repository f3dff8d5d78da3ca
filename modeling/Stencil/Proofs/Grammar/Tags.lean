import Stencil.Proofs.Grammar.Derivation
import Stencil.Proofs.Parser.Reading

/-!
# Tokens, paths and tags

What the rules for single tokens, for paths and for tags read, in both directions: they take off
what derives their value and nothing else, and they do so wherever that stands.
-/

namespace Stencil.Grammar

open Stencil.Parser

/-! ## Single tokens -/

theorem obeys_token (t : Token) : Obeys (token t) fun read _ => read = [t] :=
  (Obeys.equal t).map fun _ _ h => h

theorem obeys_whitespace :
    Obeys whitespace fun read _ => ∃ blanks, read = [.whitespace blanks] := by
  apply Obeys.satisfy.mono
  rintro read a ⟨item, hitem, rfl⟩
  cases item <;> simp_all

theorem obeys_optWhitespace : Obeys optWhitespace fun read _ => IsBlank read := by
  refine Obeys.map (D := fun read _ => IsBlank read) (obeys_whitespace.optional .none ?_)
    fun _ _ h => h
  rintro read _ ⟨blanks, rfl⟩
  exact .one blanks

theorem obeys_identifier : Obeys identifier fun read name => read = [.identifier name] := by
  apply Obeys.satisfy.mono
  rintro read name ⟨item, hitem, rfl⟩
  cases item <;> simp_all

theorem obeys_literal :
    Obeys literal fun read e => ∃ value, read = [.literal value] ∧ e = .literal value := by
  apply Obeys.satisfy.mono
  rintro read e ⟨item, hitem, rfl⟩
  cases item <;> simp_all

theorem reads_token (t : Token) (rest : List Token) : Reads (token t) [t] () rest :=
  (Reads.equal t rest).discard

theorem refuses_token {t : Token} {rest : List Token} (h : rest.head? ≠ some t) :
    Refuses (token t) rest :=
  (Refuses.equal h).discard

theorem reads_whitespace (blanks : String) (rest : List Token) :
    Reads whitespace [.whitespace blanks] () rest := by
  refine .satisfy ?_ rest
  rfl

/-- No blanks come next. -/
def Unspaced (rest : List Token) : Prop := ∀ blanks, rest.head? ≠ some (.whitespace blanks)

theorem refuses_whitespace {rest : List Token} (h : Unspaced rest) : Refuses whitespace rest := by
  refine .satisfy fun item hitem => ?_
  cases item <;> first | rfl | exact absurd hitem (h _)

theorem reads_optWhitespace {bs rest : List Token} (hb : IsBlank bs) (h : Unspaced rest) :
    Reads optWhitespace bs () rest := by
  cases hb with
  | none => exact (Reads.optional_none (refuses_whitespace h)).discard
  | one blanks => exact (Reads.optional_some (reads_whitespace blanks rest)).discard

theorem reads_identifier (name : String) (rest : List Token) :
    Reads identifier [.identifier name] name rest := by
  refine .satisfy ?_ rest
  rfl

theorem refuses_identifier {rest : List Token} (h : ∀ name, rest.head? ≠ some (.identifier name)) :
    Refuses identifier rest := by
  refine .satisfy fun item hitem => ?_
  cases item <;> first | rfl | exact absurd hitem (h _)

theorem reads_literal (value : String) (rest : List Token) :
    Reads literal [.literal value] (.literal value) rest := by
  refine .satisfy ?_ rest
  rfl

theorem refuses_literal {rest : List Token} (h : ∀ value, rest.head? ≠ some (.literal value)) :
    Refuses literal rest := by
  refine .satisfy fun item hitem => ?_
  cases item <;> first | rfl | exact absurd hitem (h _)

/-! ## Paths -/

theorem obeys_path :
    Obeys path fun read e => ∃ names, DerivesPath read names ∧ e = .path names := by
  have hdotted : Obeys (preceded (token .dot) identifier)
      fun read name => read = [.dot, .identifier name] :=
    (obeys_token .dot).preceded obeys_identifier fun ls us name hl hu => by rw [hl, hu]; rfl
  -- the names behind the first one continue any path
  have hrest : Obeys (many (preceded (token .dot) identifier))
      fun read names => ∀ name, DerivesPath (.identifier name :: read) (name :: names) := by
    apply hdotted.many (fun name => .one name)
    rintro us second vs names rfl h name
    exact .cons name (h second)
  refine ((obeys_identifier.pair hrest).map ?_).withContext _
  rintro read ⟨name, names⟩ ⟨us, vs, rfl, rfl, h⟩
  exact ⟨_, h name, rfl⟩

/-- A path is read up to where no dot follows. -/
theorem reads_path {ts rest : List Token} {names : List String} (h : DerivesPath ts names)
    (hrest : rest.head? ≠ some .dot) : Reads path ts (.path names) rest := by
  have hdots : ∃ name us others, ts = [.identifier name] ++ us ∧ names = name :: others ∧
      ReadsAll (preceded (token .dot) identifier) us others rest := by
    induction h with
    | one name =>
      exact ⟨name, [], [], rfl, rfl, .nil (.preceded_left _ (refuses_token hrest))⟩
    | cons first _ ih =>
      obtain ⟨name, us, others, rfl, rfl, hus⟩ := ih
      have hnext : Reads (preceded (token .dot) identifier) [.dot, .identifier name] name
          (us ++ rest) := (reads_token _ _).preceded (reads_identifier name _)
      exact ⟨first, _, _, rfl, rfl, hus.cons hnext (by simp)⟩
  obtain ⟨name, us, others, rfl, rfl, hus⟩ := hdots
  exact (((reads_identifier name _).pair hus.many).map _).withContext _

/-! ## Tags -/

theorem obeys_opener (marker : Marker) :
    Obeys (opener marker) fun read _ => ∃ bs, read = .opener marker :: bs ∧ IsBlank bs := by
  apply (obeys_token _).preceded obeys_optWhitespace
  rintro ls bs _ rfl hb
  exact ⟨bs, rfl, hb⟩

theorem obeys_closer :
    Obeys closer fun read _ => ∃ cs, read = cs ++ [.closer] ∧ IsBlank cs := by
  apply obeys_optWhitespace.preceded (obeys_token _)
  rintro cs us _ hc rfl
  exact ⟨cs, rfl, hc⟩

theorem obeys_tag {α : Type} {marker : Marker} {rule : Rule α} {D : List Token → α → Prop}
    (h : Obeys rule D) :
    Obeys (delimited (opener marker) rule closer)
      fun read a => ∃ us, IsTag marker us read ∧ D us a := by
  apply (obeys_opener marker).delimited h obeys_closer
  rintro ls us rs a ⟨bs, rfl, hb⟩ hD ⟨cs, rfl, hc⟩
  exact ⟨us, .mk hb hc, hD⟩

theorem obeys_elseTag : Obeys elseTag fun read _ => IsElseTag read := by
  apply (obeys_tag (obeys_token _)).mono
  rintro read _ ⟨us, htag, rfl⟩
  exact htag

theorem obeys_closeTag : Obeys closeTag fun read name => IsCloseTag name read := by
  have hpath : Obeys (path.map Expression.blockName)
      fun read name => ∃ names, DerivesPath read names ∧ ".".intercalate names = name := by
    apply obeys_path.map
    rintro read e ⟨names, h, rfl⟩
    exact ⟨names, h, rfl⟩
  apply (obeys_tag hpath).mono
  rintro read name ⟨us, htag, names, h, hname⟩
  exact ⟨us, names, h, htag, hname⟩

theorem reads_opener (marker : Marker) {bs rest : List Token} (hb : IsBlank bs)
    (h : Unspaced rest) : Reads (opener marker) (.opener marker :: bs) () rest :=
  (reads_token _ _).preceded (reads_optWhitespace hb h)

theorem refuses_opener {marker : Marker} {rest : List Token}
    (h : rest.head? ≠ some (.opener marker)) : Refuses (opener marker) rest :=
  .preceded_left _ (refuses_token h)

theorem unspaced_cons {t : Token} (ht : ∀ blanks, t ≠ .whitespace blanks) (ts : List Token) :
    Unspaced (t :: ts) := by
  intro blanks h
  exact ht blanks (Option.some.inj h)

theorem reads_closer {cs : List Token} (hc : IsBlank cs) (rest : List Token) :
    Reads closer (cs ++ [.closer]) () rest :=
  (reads_optWhitespace hc (unspaced_cons (by simp) _)).preceded (reads_token _ _)

/-- `rule` has to read what stands inside wherever a closer follows it. -/
theorem reads_tag {α : Type} {marker : Marker} {rule : Rule α} {us ts : List Token} {a : α}
    (htag : IsTag marker us ts) (hus : ∀ more, Unspaced (us ++ more))
    (h : ∀ cs, IsBlank cs → ∀ more, Reads rule us a (cs ++ .closer :: more)) (rest : List Token) :
    Reads (delimited (opener marker) rule closer) ts a rest := by
  obtain ⟨hb, hc⟩ := htag
  rename_i bs cs
  refine (reads_opener marker hb (hus _)).delimited ?_ (reads_closer hc rest)
  rw [List.append_assoc]
  exact h cs hc rest

theorem reads_elseTag {ts : List Token} (h : IsElseTag ts) (rest : List Token) :
    Reads elseTag ts () rest :=
  reads_tag h (fun _ => unspaced_cons (by simp) _) (fun _ _ _ => reads_token _ _) rest

theorem DerivesPath.exists_head? {ts : List Token} {names : List String} (h : DerivesPath ts names)
    (more : List Token) : ∃ name, (ts ++ more).head? = some (.identifier name) := by
  cases h <;> exact ⟨_, rfl⟩

theorem DerivesPath.unspaced {ts : List Token} {names : List String} (h : DerivesPath ts names)
    (more : List Token) : Unspaced (ts ++ more) := by
  obtain ⟨name, hname⟩ := h.exists_head? more
  intro blanks
  rw [hname]
  simp

/-- Blanks and a closer do not go on with a dot. -/
theorem head?_blank_append_ne_dot {bs : List Token} (hb : IsBlank bs) {t : Token} (ht : t ≠ .dot)
    (more : List Token) : (bs ++ t :: more).head? ≠ some .dot := by
  cases hb with
  | none => exact fun h => ht (Option.some.inj h)
  | one blanks => simp

theorem reads_closeTag {name : String} {ts : List Token} (h : IsCloseTag name ts)
    (rest : List Token) : Reads closeTag ts name rest := by
  obtain ⟨us, names, hus, htag, rfl⟩ := h
  refine reads_tag htag hus.unspaced (fun cs hc more => ?_) rest
  exact (reads_path hus (head?_blank_append_ne_dot hc (by simp) more)).map _

theorem applies_eq_false {α : Type} {rule : Rule α} {input : List Token} {pos : Nat} :
    applies rule input pos = false ↔ ∃ e, rule input pos = .error e := by
  unfold applies
  cases rule input pos <;> simp [Except.isOk, Except.toBool]

theorem applies_eq_true {α : Type} {rule : Rule α} {input : List Token} {pos : Nat} :
    applies rule input pos = true ↔ ∃ result, rule input pos = .ok result := by
  unfold applies
  cases rule input pos <;> simp [Except.isOk, Except.toBool]

end Stencil.Grammar
