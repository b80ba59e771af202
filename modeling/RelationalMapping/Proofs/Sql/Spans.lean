import RelationalMapping.Proofs.Sql.Lacking
import RelationalMapping.Proofs.Sql.Phrases

namespace RelationalMapping

inductive Span where
  | plain (s : String)
  | identifier (name : String)
  | literal (s : String)
  | marker (label : String)
  | bound (v : Value)
  deriving Repr

namespace Span

def chunk : Span → Chunk
  | .plain s => .text s
  | .identifier name => .text (Text.quoteIdentifier name)
  | .literal s => .text (Text.quoteLiteral s)
  | .marker label => .text ("NULL AS " ++ Text.quoteIdentifier label)
  | .bound v => .bound v

def plainText : Span → String
  | .plain s => s
  | .identifier _ | .literal _ => ""
  | .marker _ => "NULL AS "
  | .bound _ => parameterMark

def identifiers : Span → List String
  | .identifier name | .marker name => [name]
  | .plain _ | .literal _ | .bound _ => []

def literals : Span → List String
  | .literal s => [s]
  | .plain _ | .identifier _ | .marker _ | .bound _ => []

def lexemes (s : Span) : List Text.Lexeme :=
  s.plainText.toList.map .char ++ s.identifiers.map (.quoted Text.identifierQuote ·.toList)
    ++ s.literals.map (.quoted Text.literalQuote ·.toList)

theorem lexemes_plain (s : String) : (Span.plain s).lexemes = s.toList.map .char := by
  simp [lexemes, plainText, identifiers, literals]

end Span

def Piece.span : Piece → Naming Span
  | .text s | .verbatim s => return .plain s
  | .identifier name => return .identifier name
  | .literal s => return .literal s
  | .bound v => return .bound v
  | .tableName e => return .identifier (← Naming.table e)
  | .columnName c => return .identifier (← Naming.column c)
  | .marker edge into => return .marker (← Naming.marker edge into)
  | .failure e => throw e

def spansOf (pieces : List Piece) : Naming (List Span) := pieces.mapM Piece.span

theorem Piece.resolve_eq_span (p : Piece) : p.resolve = Span.chunk <$> p.span := by
  cases p <;> simp [Piece.resolve, Piece.span, Span.chunk]

theorem spansOf_cons (p : Piece) (pieces : List Piece) :
    spansOf (p :: pieces) = do
      let s ← p.span
      let rest ← spansOf pieces
      return s :: rest := by
  simp [spansOf]

theorem resolve_eq_spansOf (pieces : List Piece) : resolve pieces = List.map Span.chunk <$> spansOf pieces := by
  induction pieces with
  | nil => rfl
  | cons p rest ih =>
    rw [resolve_cons, spansOf_cons, ih, Piece.resolve_eq_span]
    simp

def spelled (spans : List Span) : List Char := spans.flatMap (·.chunk.sql.toList)

theorem toList_ofChunks (spans : List Span) :
    (Fragment.ofChunks (spans.map Span.chunk)).sql.toList = spelled spans := by
  induction spans with
  | nil => rfl
  | cons s rest ih =>
    simp only [Fragment.ofChunks] at ih
    simp only [Fragment.ofChunks, spelled, List.map_cons, String.join_cons, String.toList_append, List.flatMap_cons, ih]

inductive Piece.HasSpan : Piece → Span → Prop
  | text (s : String) : Piece.HasSpan (.text s) (.plain s)
  | verbatim (s : String) : Piece.HasSpan (.verbatim s) (.plain s)
  | identifier (name : String) : Piece.HasSpan (.identifier name) (.identifier name)
  | literal (s : String) : Piece.HasSpan (.literal s) (.literal s)
  | bound (v : Value) : Piece.HasSpan (.bound v) (.bound v)
  | tableName (e : Entity) (name : String) : Piece.HasSpan (.tableName e) (.identifier name)
  | columnName (c : Column) (name : String) : Piece.HasSpan (.columnName c) (.identifier name)
  | marker (edge : Edge) (into : IntoField) (label : String) : Piece.HasSpan (.marker edge into) (.marker label)

theorem Piece.keeps_span (p : Piece) : Naming.Keeps (fun _ => True) p.HasSpan p.span := by
  intro names s names' _ h
  refine ⟨?_, trivial⟩
  cases p with
  | text | verbatim | identifier | literal | bound =>
    cases h
    constructor
  | tableName e =>
    obtain ⟨name, between, -, hs⟩ := Naming.bind_eq_ok.mp h
    cases hs
    exact .tableName e name
  | columnName c =>
    cases h
    exact .columnName c _
  | marker edge into =>
    cases h
    exact .marker edge into _
  | failure fault => cases h

theorem hasSpan_spansOf {pieces : List Piece} {names names' : Names} {spans : List Span}
    (h : spansOf pieces names = (.ok spans, names')) : List.Forall₂ Piece.HasSpan pieces spans :=
  (Naming.keeps_mapM (fun p _ => p.keeps_span) names spans names' trivial h).1

theorem Piece.keeps_identifiers {d : Char} (hd : Text.IsSign d) (hwording : isWordingCharacter d = false) {p : Piece}
    (hp : (∀ s, p ≠ .literal s) → ∀ name ∈ p.strings, Absent d name) :
    Naming.Keeps (Names.Lacks d) (fun s => ∀ name ∈ s.identifiers, Absent d name) p.span := by
  intro names s names' hnames h
  cases p with
  | text | verbatim | literal | bound =>
    cases h
    exact ⟨by simp [Span.identifiers], hnames⟩
  | identifier name =>
    cases h
    exact ⟨by simpa [Span.identifiers, Piece.strings] using hp, hnames⟩
  | tableName e =>
    obtain ⟨name, between, hname, hs⟩ := Naming.bind_eq_ok.mp h
    cases hs
    obtain ⟨habsent, hlacks⟩ := Names.lacks_table hd hnames (by simpa [Piece.strings] using hp) hname
    exact ⟨List.forall_mem_singleton.mpr habsent, hlacks⟩
  | columnName c =>
    cases h
    have hcolumn : Absent d c.givenName := by simpa [Piece.strings] using hp
    obtain ⟨habsent, hlacks⟩ := Names.lacks_column hd hnames hcolumn
    exact ⟨List.forall_mem_singleton.mpr habsent, hlacks⟩
  | marker edge into =>
    cases h
    have hcolumn : Absent d into.column.givenName := by simpa [Piece.strings] using hp
    obtain ⟨habsent, hlacks⟩ := Names.lacks_marker hd hwording hnames edge hcolumn
    exact ⟨List.forall_mem_singleton.mpr habsent, hlacks⟩
  | failure fault => cases h

theorem quoteless_of_wording {s : String} (h : isWording s = true) : Text.Quoteless s := by
  rintro c hc (rfl | rfl)
  · exact absent_of_wording rfl h hc
  · exact absent_of_wording rfl h hc

def Piece.IsClear : Piece → Prop
  | .verbatim s => Text.Quoteless s
  | _ => True

instance : (p : Piece) → Decidable p.IsClear
  | .verbatim s => inferInstanceAs (Decidable (Text.Quoteless s))
  | .text _ | .identifier _ | .literal _ | .bound _ | .tableName _ | .columnName _ | .marker _ _ | .failure _ =>
    .isTrue trivial

def Span.IsApart (s : Span) : Prop := ∀ name ∈ s.identifiers, Absent Text.identifierQuote name

theorem scanFrom_plain {s : String} (hs : Text.Quoteless s) (rest : List Char) :
    Text.scanFrom .outside (s.toList ++ rest) = (Span.plain s).lexemes ++ Text.scanFrom .outside rest := by
  rw [Text.scanFrom_quoteless hs, Span.lexemes_plain]

theorem scanFrom_null (rest : List Char) :
    Text.scanFrom .outside ("NULL AS ".toList ++ rest)
      = "NULL AS ".toList.map .char ++ Text.scanFrom .outside rest :=
  Text.scanFrom_quoteless (by decide) rest

theorem scanFrom_mark (rest : List Char) :
    Text.scanFrom .outside (parameterMark.toList ++ rest)
      = parameterMark.toList.map .char ++ Text.scanFrom .outside rest :=
  Text.scanFrom_quoteless (by decide) rest

theorem Piece.HasSpan.scanFrom {p : Piece} {s : Span} (h : p.HasSpan s) (hown : p.IsOwn) (hclear : p.IsClear)
    (hapart : s.IsApart) {rest : List Char} (hrest : ∀ quote, Text.IsQuote quote → rest.head? ≠ some quote) :
    Text.scanFrom .outside (s.chunk.sql.toList ++ rest) = s.lexemes ++ Text.scanFrom .outside rest := by
  have hname (name : String) (hmem : name ∈ s.identifiers) :
      Text.scanFrom .outside ((Text.quoteIdentifier name).toList ++ rest)
        = .quoted Text.identifierQuote name.toList :: Text.scanFrom .outside rest :=
    Text.scanFrom_quoteIdentifier (hapart name hmem) (hrest _ (.inr rfl))
  cases h with
  | text s => exact hown.elim
  | verbatim s => exact scanFrom_plain hclear rest
  | identifier name => exact hname name List.mem_cons_self
  | literal s => exact Text.scanFrom_quoteLiteral s (hrest _ (.inl rfl))
  | bound v =>
    simp only [Span.lexemes, Span.plainText, Span.identifiers, Span.literals, List.map_nil, List.append_nil]
    exact scanFrom_mark rest
  | tableName e name => exact hname name List.mem_cons_self
  | columnName c name => exact hname name List.mem_cons_self
  | marker edge into label =>
    have hquoted := hname label List.mem_cons_self
    simp only [Span.lexemes, Span.plainText, Span.identifiers, Span.literals, Span.chunk, Chunk.sql,
      String.toList_append, List.append_assoc, scanFrom_null, hquoted]
    rfl

theorem spelled_cons (s : Span) (spans : List Span) : spelled (s :: spans) = s.chunk.sql.toList ++ spelled spans := rfl

theorem head?_spelled {pieces : List Piece} {before after : Nat} (h : Phrase before pieces after)
    (hopens : Opens pieces) {spans : List Span} (hspans : List.Forall₂ Piece.HasSpan pieces spans) {quote : Char}
    (hquote : Text.IsQuote quote) : (spelled spans).head? ≠ some quote := by
  cases h with
  | nil =>
    cases hspans
    exact nofun
  | @text s _ _ _ _ hs _ =>
    cases hspans with
    | @cons _ _ _ others hspan _ =>
      cases hspan
      obtain ⟨c, cs, hcs⟩ : ∃ c cs, s.toList = c :: cs := List.exists_cons_of_ne_nil (by simpa using hs.1)
      have hc : ¬ Text.IsQuote c := quoteless_of_wording hs.2.1 c (by rw [hcs]; exact List.mem_cons_self)
      have htext : (spelled (.plain s :: others)).head? = some c := by
        rw [spelled_cons, Span.chunk, Chunk.sql, hcs]
        rfl
      rw [htext]
      rintro ⟨⟩
      exact hc hquote
  | @own p _ _ _ hp _ _ => cases p <;> first | exact hp.elim | exact hopens.elim
  | failure =>
    cases hspans with
    | cons hspan _ => cases hspan

theorem scanFrom_spelled {pieces : List Piece} {before after : Nat} (h : Phrase before pieces after)
    (hclear : ∀ p ∈ pieces, p.IsClear) {spans : List Span} (hspans : List.Forall₂ Piece.HasSpan pieces spans)
    (hapart : ∀ s ∈ spans, s.IsApart) :
    Text.scanFrom .outside (spelled spans) = spans.flatMap Span.lexemes := by
  induction h generalizing spans with
  | nil =>
    cases hspans
    rfl
  | @text s _ _ _ _ hs hrest ih =>
    rw [List.forall_mem_cons] at hclear
    cases hspans with
    | @cons _ _ _ others hspan hothers =>
      cases hspan
      rw [List.forall_mem_cons] at hapart
      rw [List.flatMap_cons, ← ih hclear.2 hothers hapart.2]
      exact scanFrom_plain (quoteless_of_wording hs.2.1) (spelled others)
  | @own p _ _ _ hp hopens hrest ih =>
    rw [List.forall_mem_cons] at hclear
    cases hspans with
    | @cons _ s _ others hspan hothers =>
      rw [List.forall_mem_cons] at hapart
      rw [List.flatMap_cons, ← ih hclear.2 hothers hapart.2]
      -- a token ends with its piece, because what follows opens with wording
      exact hspan.scanFrom hp hclear.1 hapart.1 fun quote => head?_spelled hrest hopens hothers
  | failure =>
    cases hspans with
    | cons hspan _ => cases hspan

end RelationalMapping
