import RelationalMapping.Proofs.Sql.Gathering
import RelationalMapping.Proofs.Sql.Spans
import RelationalMapping.Query.Select

namespace RelationalMapping

namespace Span

theorem contents_identifiers (s : Span) : Text.contents Text.identifierQuote s.lexemes = s.identifiers := by
  rw [lexemes, Text.contents_append, Text.contents_append, Text.contents_chars, Text.contents_quoted,
    Text.contents_quoted, if_pos rfl, if_neg (by decide), List.nil_append, List.append_nil]

theorem contents_literals (s : Span) : Text.contents Text.literalQuote s.lexemes = s.literals := by
  rw [lexemes, Text.contents_append, Text.contents_append, Text.contents_chars, Text.contents_quoted,
    Text.contents_quoted, if_neg (by decide), if_pos rfl, List.nil_append, List.nil_append]

theorem unquoted_lexemes (s : Span) : Text.unquoted s.lexemes = s.plainText.toList := by
  rw [lexemes, Text.unquoted_append, Text.unquoted_append, Text.unquoted_chars, Text.unquoted_quoted,
    Text.unquoted_quoted, List.append_nil, List.append_nil]

end Span

theorem contents_spans {quote : Char} {f : Span → List String} (hf : ∀ s, Text.contents quote s.lexemes = f s)
    (spans : List Span) : Text.contents quote (spans.flatMap Span.lexemes) = spans.flatMap f := by
  induction spans with
  | nil => rfl
  | cons s rest ih => rw [List.flatMap_cons, List.flatMap_cons, Text.contents_append, hf, ih]

theorem unquoted_spans (spans : List Span) :
    Text.unquoted (spans.flatMap Span.lexemes) = spans.flatMap (·.plainText.toList) := by
  induction spans with
  | nil => rfl
  | cons s rest ih => rw [List.flatMap_cons, List.flatMap_cons, Text.unquoted_append, s.unquoted_lexemes, ih]

theorem ended_spans (spans : List Span) : Text.Ended (spans.flatMap Span.lexemes) := by
  intro quote h
  obtain ⟨s, -, hs⟩ := List.mem_flatMap.mp h
  simp [Span.lexemes] at hs

theorem Span.isApart_of_contents {s : Span} {rest : List Char} (hrest : rest.head? ≠ some Text.identifierQuote)
    {others : List String}
    (hread : Text.contents Text.identifierQuote (Text.scanFrom .outside (s.chunk.sql.toList ++ rest))
      = s.identifiers ++ others) : s.IsApart := by
  intro name hname hquote
  cases s with
  | plain | literal | bound => exact List.not_mem_nil hname
  | identifier other =>
    rw [List.mem_singleton.mp hname] at hquote
    exact Text.contents_quoteIdentifier_ne hquote hrest others hread
  | marker label =>
    rw [List.mem_singleton.mp hname] at hquote
    simp only [Span.chunk, Chunk.sql, String.toList_append, List.append_assoc, scanFrom_null, Text.contents_append,
      Text.contents_chars, List.nil_append] at hread
    exact Text.contents_quoteIdentifier_ne hquote hrest others hread

theorem isApart_of_contents {pieces : List Piece} {before after : Nat} (h : Phrase before pieces after)
    (hclear : ∀ p ∈ pieces, p.IsClear) {spans : List Span} (hspans : List.Forall₂ Piece.HasSpan pieces spans)
    (hread : Text.contents Text.identifierQuote (Text.scanFrom .outside (spelled spans))
      = spans.flatMap Span.identifiers) : ∀ s ∈ spans, s.IsApart := by
  -- from the left: a span that is apart is read whole, and leaves the rest to be read as it was meant
  induction h generalizing spans with
  | nil =>
    cases hspans
    exact fun s hs => absurd hs List.not_mem_nil
  | @text s _ _ _ _ hs hrest ih =>
    rw [List.forall_mem_cons] at hclear
    cases hspans with
    | @cons _ _ _ others hspan hothers =>
      cases hspan
      have hscan : Text.scanFrom .outside (spelled (.plain s :: others))
          = (Span.plain s).lexemes ++ Text.scanFrom .outside (spelled others) :=
        scanFrom_plain (quoteless_of_wording hs.2.1) (spelled others)
      rw [hscan, Text.contents_append, Span.contents_identifiers, List.flatMap_cons,
        List.append_cancel_left_eq] at hread
      exact List.forall_mem_cons.mpr ⟨fun name hname => absurd hname List.not_mem_nil, ih hclear.2 hothers hread⟩
  | @own p _ _ rest hp hopens hrest ih =>
    rw [List.forall_mem_cons] at hclear
    cases hspans with
    | @cons _ s _ others hspan hothers =>
      have hhead (quote : Char) : Text.IsQuote quote → (spelled others).head? ≠ some quote :=
        head?_spelled hrest hopens hothers
      rw [spelled_cons, List.flatMap_cons] at hread
      have hs : s.IsApart := Span.isApart_of_contents (hhead _ (.inr rfl)) hread
      rw [hspan.scanFrom hp hclear.1 hs hhead, Text.contents_append, Span.contents_identifiers,
        List.append_cancel_left_eq] at hread
      exact List.forall_mem_cons.mpr ⟨hs, ih hclear.2 hothers hread⟩
  | failure =>
    cases hspans with
    | cons hspan _ => cases hspan

inductive Tree where
  | expr (e : Expr)
  | query (q : Query)

namespace Tree

def pieces : Tree → List Piece
  | .expr e => e.pieces
  | .query q => q.pieces

def write : Tree → Naming Fragment
  | .expr e => e.write
  | .query q => q.write

theorem pieces_whole (t : Tree) : Whole t.pieces := by
  cases t with
  | expr e => exact e.pieces_whole
  | query q => exact q.pieces_whole

theorem write_eq (t : Tree) : t.write = do return .ofChunks (← resolve t.pieces) := by
  cases t <;> rfl

theorem exists_spans {t : Tree} {names names' : Names} {f : Fragment} (h : t.write names = (.ok f, names')) :
    ∃ spans, spansOf t.pieces names = (.ok spans, names') ∧ f = .ofChunks (spans.map Span.chunk) := by
  rw [write_eq, resolve_eq_spansOf] at h
  obtain ⟨chunks, between, hchunks, hf⟩ := Naming.bind_eq_ok.mp h
  rw [← bind_pure_comp] at hchunks
  obtain ⟨spans, after, hspans, hmap⟩ := Naming.bind_eq_ok.mp hchunks
  cases hf
  cases hmap
  exact ⟨spans, hspans, rfl⟩

theorem scan_identifiers {t : Tree} (hclear : ∀ p ∈ t.pieces, p.IsClear) {names names' : Names} {f : Fragment}
    (h : t.write names = (.ok f, names')) :
    ∃ spans, spansOf t.pieces names = (.ok spans, names') ∧ f = .ofChunks (spans.map Span.chunk)
      ∧ (Text.contents Text.identifierQuote (Text.scan f.sql) = spans.flatMap Span.identifiers
          ↔ ∀ name ∈ spans.flatMap Span.identifiers, Text.identifierQuote ∉ name.toList)
      ∧ ((∀ name ∈ spans.flatMap Span.identifiers, Text.identifierQuote ∉ name.toList) →
          Text.scan f.sql = spans.flatMap Span.lexemes) := by
  obtain ⟨spans, hspans, rfl⟩ := exists_spans h
  have hphrase : Phrase 0 t.pieces 0 := t.pieces_whole 0
  have hpieces := hasSpan_spansOf hspans
  have hscan (hnames : ∀ name ∈ spans.flatMap Span.identifiers, Text.identifierQuote ∉ name.toList) :
      Text.scan (Fragment.ofChunks (spans.map Span.chunk)).sql = spans.flatMap Span.lexemes := by
    rw [Text.scan, toList_ofChunks]
    refine scanFrom_spelled hphrase hclear hpieces fun s hs name hname => ?_
    exact hnames name (List.mem_flatMap.mpr ⟨s, hs, hname⟩)
  refine ⟨spans, hspans, rfl, ⟨fun hread name hname => ?_, fun hnames => ?_⟩, hscan⟩
  · rw [Text.scan, toList_ofChunks] at hread
    obtain ⟨s, hs, hname⟩ := List.mem_flatMap.mp hname
    exact isApart_of_contents hphrase hclear hpieces hread s hs name hname
  · rw [hscan hnames, contents_spans Span.contents_identifiers]

def zonesAs (name note : String) : Tree :=
  let t : Table := { entity := Entity.ofFields "app::Zone" "Zone" (some "zones") [], alias? := some name }
  .query (t.selectAll.filter (some (.is (.typedLiteral "text" note) .null true)))

theorem scan_identifiers_zones :
    ∃ f spans names', (zonesAs "z y" "'\"z\"'").write {} = (.ok f, names')
      ∧ f.sql = "SELECT \"z y\".* FROM \"zones\" \"z y\" WHERE (text '''\"z\"''' IS NOT NULL)"
      ∧ spansOf (zonesAs "z y" "'\"z\"'").pieces {} = (.ok spans, names')
      ∧ Text.contents Text.identifierQuote (Text.scan f.sql) = ["z y", "zones", "z y"]
      ∧ Text.scan f.sql = spans.flatMap Span.lexemes := by
  have hwrite : (zonesAs "z y" "'\"z\"'").write {}
      = (.ok ⟨"SELECT \"z y\".* FROM \"zones\" \"z y\" WHERE (text '''\"z\"''' IS NOT NULL)", []⟩,
        { tables := [("app::Zone", "zones")] }) := rfl
  obtain ⟨spans, hspans, -, hidentifiers, hlexemes⟩ := scan_identifiers (by decide +kernel) hwrite
  have hnamed : spans.flatMap Span.identifiers = ["z y", "zones", "z y"] := by
    cases hspans
    rfl
  have hapart : ∀ name ∈ spans.flatMap Span.identifiers, Text.identifierQuote ∉ name.toList := by
    rw [hnamed]
    decide +kernel
  refine ⟨_, spans, _, hwrite, rfl, hspans, ?_, hlexemes hapart⟩
  rw [hidentifiers.mpr hapart, hnamed]

-- the alias ends early, and the rest of the text is a comment
theorem scan_identifiers_broken :
    ∃ f spans names', (zonesAs "z\" -- " "").write {} = (.ok f, names')
      ∧ f.sql = "SELECT \"z\" -- \".* FROM \"zones\" \"z\" -- \" WHERE (text '' IS NOT NULL)"
      ∧ spansOf (zonesAs "z\" -- " "").pieces {} = (.ok spans, names')
      ∧ spans.flatMap Span.identifiers = ["z\" -- ", "zones", "z\" -- "]
      ∧ Text.contents Text.identifierQuote (Text.scan f.sql) = ["z", ".* FROM ", " ", " -- "] := by
  refine ⟨_, _, _, rfl, rfl, rfl, rfl, ?_⟩
  decide +kernel

end Tree

def Piece.literals : Piece → List String
  | .literal s => [s]
  | _ => []

instance mute_literals : Mute Piece.literals where
  text _ := rfl
  verbatim _ := rfl
  identifier _ := rfl
  columnName _ := rfl
  marker _ _ := rfl
  tableName _ := rfl
  failure _ := rfl

mutual

def Expr.literals : Expr → List String
  | .binary _ left right => left.literals ++ right.literals
  | .connective _ items => exprLiterals items
  | .not e | .is e _ _ | .cast e _ | .adapted _ e => e.literals
  | .empty e _ => e.literals ++ ["{}"]
  | .member e candidates _ => e.literals ++ exprLiterals candidates
  | .call _ args => exprLiterals args
  | .typedLiteral _ text => [text]
  | .exists query _ _ => query.pieces.flatMap Piece.literals
  | .atTimeZone time zone => time.literals ++ zone.literals
  | .jsonObject entries => entryLiterals entries
  | .case [] _ => []
  | .case (b :: rest) fallback => b.literals ++ branchLiterals rest ++ optionalLiterals fallback
  | .all _ | .column _ | .distinct _ | .value _ | .array _ _ | .aliasName _ | .tableName _ => []

def exprLiterals : List Expr → List String
  | [] => []
  | e :: rest => e.literals ++ exprLiterals rest

def entryLiterals : List JsonEntry → List String
  | [] => []
  | ⟨key, value⟩ :: rest => key :: value.literals ++ entryLiterals rest

def Branch.literals : Branch → List String
  | ⟨condition, result⟩ => condition.literals ++ result.literals

def branchLiterals : List Branch → List String
  | [] => []
  | b :: rest => b.literals ++ branchLiterals rest

def optionalLiterals : Option Expr → List String
  | some e => e.literals
  | none => []

end

theorem literals_value (v : Value) : v.piece.literals = [] := by cases v <;> rfl

mutual

theorem Expr.literals_pieces : (e : Expr) → e.pieces.flatMap Piece.literals = e.literals
  | .all (some t) => by simp [Expr.pieces, Expr.literals, Piece.literals]
  | .all none => by simp [Expr.pieces, Expr.literals, Piece.literals]
  | .column c => by simp [Expr.pieces, Expr.literals, Piece.literals]
  | .distinct c => by simp [Expr.pieces, Expr.literals, Piece.literals]
  | .value v => by simp [Expr.pieces, Expr.literals, literals_value]
  | .array elementType items => by simp [Expr.pieces, Expr.literals, Piece.literals]
  | .binary op left right => by simp [Expr.pieces, Expr.literals, left.literals_pieces, right.literals_pieces]
  | .connective op [] => by simp [Expr.pieces, Expr.literals, exprLiterals, Piece.literals]
  | .connective op (e :: rest) => by
    simp [Expr.pieces, Expr.literals, exprLiterals, e.literals_pieces, literals_exprPieces rest]
  | .not e => by simp [Expr.pieces, Expr.literals, Piece.literals, e.literals_pieces]
  | .empty e negated => by simp [Expr.pieces, Expr.literals, Piece.literals, e.literals_pieces]
  | .is e test negated => by simp [Expr.pieces, Expr.literals, Piece.literals, e.literals_pieces]
  | .member e candidates negated => by
    simp [Expr.pieces, Expr.literals, e.literals_pieces, literals_exprPieces candidates]
  | .call function args => by simp [Expr.pieces, Expr.literals, Piece.literals, literals_exprPieces args]
  | .typedLiteral typeName text => by simp [Expr.pieces, Expr.literals, Piece.literals]
  | .cast e typeName => by simp [Expr.pieces, Expr.literals, Piece.literals, e.literals_pieces]
  | .exists query alias? negated => by simp [Expr.pieces, Expr.literals, Piece.literals]
  | .atTimeZone time zone => by
    simp [Expr.pieces, Expr.literals, Piece.literals, time.literals_pieces, zone.literals_pieces]
  | .jsonObject entries => by simp [Expr.pieces, Expr.literals, Piece.literals, literals_entryPieces entries]
  | .case [] _ => by simp [Expr.pieces, Expr.literals, Piece.literals]
  | .case (b :: rest) fallback => by
    simp [Expr.pieces, Expr.literals, Piece.literals, b.literals_pieces, literals_branchPieces rest,
      literals_optionalPieces fallback]
  | .aliasName name => by simp [Expr.pieces, Expr.literals, Piece.literals]
  | .tableName t => by simp [Expr.pieces, Expr.literals, Piece.literals]
  | .adapted _ e => by simp [Expr.pieces, Expr.literals, e.literals_pieces]

theorem literals_exprPieces : (es : List Expr) →
    (exprPieces es).flatMap (·.flatMap Piece.literals) = exprLiterals es
  | [] => by simp [exprPieces, exprLiterals]
  | e :: rest => by simp [exprPieces, exprLiterals, e.literals_pieces, literals_exprPieces rest]

theorem literals_entryPieces : (es : List JsonEntry) →
    (entryPieces es).flatMap (·.flatMap Piece.literals) = entryLiterals es
  | [] => by simp [entryPieces, entryLiterals]
  | ⟨key, value⟩ :: rest => by
    simp [entryPieces, entryLiterals, Piece.literals, value.literals_pieces, literals_entryPieces rest]

theorem Branch.literals_pieces : (b : Branch) → b.pieces.flatMap Piece.literals = b.literals
  | ⟨condition, result⟩ => by
    simp [Branch.pieces, Branch.literals, Piece.literals, condition.literals_pieces, result.literals_pieces]

theorem literals_branchPieces : (bs : List Branch) →
    (branchPieces bs).flatMap (·.flatMap Piece.literals) = branchLiterals bs
  | [] => by simp [branchPieces, branchLiterals]
  | b :: rest => by simp [branchPieces, branchLiterals, b.literals_pieces, literals_branchPieces rest]

theorem literals_optionalPieces : (e : Option Expr) →
    ((optionalPieces e).getD []).flatMap Piece.literals = optionalLiterals e
  | none => by simp [optionalPieces, optionalLiterals]
  | some e => by simp [optionalPieces, optionalLiterals, e.literals_pieces]

end

theorem literals_spans {pieces : List Piece} {spans : List Span} (h : List.Forall₂ Piece.HasSpan pieces spans) :
    spans.flatMap Span.literals = pieces.flatMap Piece.literals := by
  induction h with
  | nil => rfl
  | cons hspan _ ih =>
    rw [List.flatMap_cons, List.flatMap_cons, ih]
    cases hspan <;> rfl

/-- Raw text is without quotes and closes its parentheses, and names are without the quote of identifiers. -/
def Piece.IsHarmless : Piece → Prop
  | .literal _ => True
  | .verbatim s => Text.Quoteless s ∧ Text.Balanced s
  | p => ∀ name ∈ p.strings, Absent Text.identifierQuote name

instance : (p : Piece) → Decidable p.IsHarmless
  | .literal _ => .isTrue trivial
  | .verbatim s => inferInstanceAs (Decidable (Text.Quoteless s ∧ Text.Balanced s))
  | .text _ | .identifier _ | .bound _ | .tableName _ | .columnName _ | .marker _ _ | .failure _ =>
    inferInstanceAs (Decidable (∀ name ∈ Piece.strings _, Absent Text.identifierQuote name))

theorem Piece.IsHarmless.isClear {p : Piece} (h : p.IsHarmless) : p.IsClear := by
  cases p with
  | verbatim s => exact h.1
  | _ => trivial

theorem Piece.IsHarmless.absent {p : Piece} (h : p.IsHarmless) (hliteral : ∀ s, p ≠ .literal s) :
    ∀ name ∈ p.strings, Absent Text.identifierQuote name := by
  cases p with
  | literal s => exact absurd rfl (hliteral s)
  | verbatim s => exact List.forall_mem_singleton.mpr fun hquote => h.1 _ hquote (.inr rfl)
  | _ => exact h

theorem Piece.HasSpan.depthAfter {p : Piece} {s : Span} (h : p.HasSpan s) (hown : p.IsOwn) (hp : p.IsHarmless)
    (depth : Nat) : Text.depthAfter s.plainText.toList depth = some depth := by
  cases h with
  | text s => exact hown.elim
  | verbatim s =>
    have hbalanced := Text.depthAfter_add hp.2 depth
    rwa [Nat.zero_add] at hbalanced
  | identifier | literal | tableName | columnName => rfl
  | bound v =>
    rw [Span.plainText]
    exact Text.depthAfter_of_not_mem (by decide) (by decide) depth
  | marker edge into label =>
    rw [Span.plainText]
    exact Text.depthAfter_of_not_mem (by decide) (by decide) depth

theorem depthAfter_spans {pieces : List Piece} {before after : Nat} (h : Phrase before pieces after)
    (hharmless : ∀ p ∈ pieces, p.IsHarmless) {spans : List Span}
    (hspans : List.Forall₂ Piece.HasSpan pieces spans) :
    Text.depthAfter (spans.flatMap (·.plainText.toList)) before = some after := by
  induction h generalizing spans with
  | nil =>
    cases hspans
    rfl
  | @text s before between _ _ hs hrest ih =>
    rw [List.forall_mem_cons] at hharmless
    cases hspans with
    | cons hspan hothers =>
      cases hspan
      have htext : Text.depthAfter (Span.plain s).plainText.toList before = some between := hs.2.2
      rw [List.flatMap_cons, Text.depthAfter_append, htext]
      exact ih hharmless.2 hothers
  | @own p before _ _ hp hopens hrest ih =>
    rw [List.forall_mem_cons] at hharmless
    cases hspans with
    | cons hspan hothers =>
      rw [List.flatMap_cons, Text.depthAfter_append, hspan.depthAfter hp hharmless.1]
      exact ih hharmless.2 hothers
  | failure =>
    cases hspans with
    | cons hspan _ => cases hspan

theorem Expr.scan_literals {e : Expr} (hharmless : ∀ p ∈ e.pieces, p.IsHarmless) {names names' : Names}
    (hnames : names.Lacks Text.identifierQuote) {f : Fragment} (h : e.write names = (.ok f, names')) :
    Text.Ended (Text.scan f.sql) ∧ Text.depthAfter (Text.unquoted (Text.scan f.sql)) 0 = some 0
      ∧ Text.contents Text.literalQuote (Text.scan f.sql) = e.literals := by
  obtain ⟨spans, hspans, rfl⟩ := Tree.exists_spans (t := .expr e) h
  have hpieces : List.Forall₂ Piece.HasSpan e.pieces spans := hasSpan_spansOf hspans
  have hphrase : Phrase 0 e.pieces 0 := e.pieces_whole 0
  have hapart : ∀ s ∈ spans, s.IsApart := by
    have hkeeps : Naming.Keeps (Names.Lacks Text.identifierQuote) (List.Forall₂ (fun _ s => s.IsApart) e.pieces)
        (spansOf e.pieces) :=
      Naming.keeps_mapM fun p hp => Piece.keeps_identifiers (by decide) (by decide) (hharmless p hp).absent
    have hnamed := (hkeeps names spans names' hnames hspans).1
    exact ((List.forall₂_and_left _ _).mp (hnamed.flip.imp fun s p hs => ⟨hs, trivial⟩)).1
  have hscan : Text.scan (Fragment.ofChunks (spans.map Span.chunk)).sql = spans.flatMap Span.lexemes := by
    rw [Text.scan, toList_ofChunks]
    exact scanFrom_spelled hphrase (fun p hp => (hharmless p hp).isClear) hpieces hapart
  rw [hscan]
  refine ⟨ended_spans spans, ?_, ?_⟩
  · rw [unquoted_spans]
    exact depthAfter_spans hphrase hharmless hpieces
  · rw [contents_spans Span.contents_literals, literals_spans hpieces, e.literals_pieces]

def remark : Expr :=
  .connective .and [.empty (.call "btrim" [.typedLiteral "text" "it's 5' \"x\") ('", .aliasName "a)b"]) false,
    .is (.cast (.jsonObject [⟨"'", .value (.int 1)⟩, ⟨"", .typedLiteral "text" "''"⟩]) "varchar(3)") .null true]

theorem Expr.scan_literals_remark :
    ∃ f names', remark.write {} = (.ok f, names')
      ∧ f.sql = "((btrim(text 'it''s 5'' \"x\") (''', \"a)b\") = '{}') AND "
          ++ "((jsonb_build_object('''', ?, '', text ''''''))::varchar(3) IS NOT NULL))"
      ∧ Text.Ended (Text.scan f.sql) ∧ Text.depthAfter (Text.unquoted (Text.scan f.sql)) 0 = some 0
      ∧ Text.contents Text.literalQuote (Text.scan f.sql) = ["it's 5' \"x\") ('", "{}", "'", "", "''"] := by
  have hwrite : remark.write {}
      = (.ok ⟨"((btrim(text 'it''s 5'' \"x\") (''', \"a)b\") = '{}') AND "
          ++ "((jsonb_build_object('''', ?, '', text ''''''))::varchar(3) IS NOT NULL))", [.int 1]⟩, {}) := rfl
  have h := Expr.scan_literals (by decide +kernel) Names.lacks_empty hwrite
  exact ⟨_, _, hwrite, rfl, h⟩

end RelationalMapping
