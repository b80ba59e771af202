import RelationalMapping.Proofs.Sql.Segments
import RelationalMapping.Proofs.Sql.Written

namespace RelationalMapping

namespace Text

def isNameCharacter (c : Char) : Bool := c.isAlphanum || c == '_' || c == '$' || 0x80 ≤ c.toNat

def EndsName (text : List Char) : Prop :=
  ∀ c ∈ text.head?, isNameCharacter c = false ∧ c ≠ identifierQuote

def startsName (c : Char) : Bool := c.isAlpha || c == '_' || 0x80 ≤ c.toNat

def lowered (name : List Char) : String := String.ofList (name.map Char.toLower)

def identifierAt? (text : List Char) : Option String :=
  match scanFrom .outside text with
  | .char c :: _ => if startsName c then some (lowered (text.takeWhile isNameCharacter)) else none
  | lexeme :: _ => lexeme.content? identifierQuote
  | [] => none

def IsAlias (name : String) : Prop :=
  name.toList.head?.any Char.isAlpha = true ∧ ∀ c ∈ name.toList, c.isAlphanum = true ∨ c = '_'

instance (name : String) : Decidable (IsAlias name) :=
  have : Decidable (∀ c ∈ name.toList, c.isAlphanum = true ∨ c = '_') := List.decidableBAll _ _
  inferInstanceAs (Decidable (_ ∧ _))

def HasCapital (name : String) : Prop := ∃ c ∈ name.toList, c.isUpper = true

instance (name : String) : Decidable (HasCapital name) := List.decidableBEx _ name.toList

variable {name : String}

theorem isAlias_quoteless (h : IsAlias name) : Quoteless name := by
  intro c hc hquote
  have hsign : c.isAlphanum = true ∨ c = '_' := h.2 c hc
  obtain rfl | rfl := hquote <;> revert hsign <;> decide

theorem takeWhile_name {rest : List Char} (h : IsAlias name) (hrest : EndsName rest) :
    (name.toList ++ rest).takeWhile isNameCharacter = name.toList := by
  have hname : ∀ c ∈ name.toList, isNameCharacter c = true := by
    intro c hc
    obtain hc | hc := h.2 c hc <;> simp [isNameCharacter, hc]
  have hstop : rest.takeWhile isNameCharacter = [] := by
    cases rest with
    | nil => rfl
    | cons c rest => exact List.takeWhile_cons_of_neg (by simp [(hrest c rfl).1])
  rw [List.takeWhile_append_of_pos hname, hstop, List.append_nil]

theorem identifierAt?_name {rest : List Char} (h : IsAlias name) (hrest : EndsName rest) :
    identifierAt? (name.toList ++ rest) = some (lowered name.toList) := by
  have hstart : ∃ c others, name.toList = c :: others ∧ c.isAlpha = true := by
    obtain ⟨hhead, -⟩ := h
    cases hname : name.toList with
    | nil => simp [hname] at hhead
    | cons c others => exact ⟨c, others, rfl, by simpa [hname] using hhead⟩
  obtain ⟨c, others, hname, hc⟩ := hstart
  have hstarts : startsName c = true := by simp [startsName, hc]
  rw [identifierAt?, takeWhile_name h hrest, scanFrom_quoteless (isAlias_quoteless h), hname]
  simp [hstarts]

theorem identifierAt?_quoted {rest : List Char} (h : identifierQuote ∉ name.toList) (hrest : EndsName rest) :
    identifierAt? ((quoteIdentifier name).toList ++ rest) = some name := by
  have hhead : rest.head? ≠ some identifierQuote := fun hquote => (hrest _ hquote).2 rfl
  rw [identifierAt?, scanFrom_quoteIdentifier h hhead]
  simp [Lexeme.content?]

theorem toLower_eq_self_iff (c : Char) : c.toLower = c ↔ c.isUpper = false := by
  unfold Char.toLower Char.isUpper
  split
  · rename_i hcapital
    simp only [hcapital, and_self, decide_true, Bool.true_eq_false, iff_false]
    intro hc
    have hval : c.val + ('a'.val - 'A'.val) = c.val := congrArg Char.val hc
    simp at hval
  · rename_i hcapital
    exact iff_of_true rfl (decide_eq_false hcapital)

theorem lowered_eq_iff (name : String) : lowered name.toList = name ↔ ¬ HasCapital name := by
  have hmap : name.toList.map Char.toLower = name.toList ↔ ∀ c ∈ name.toList, c.toLower = c := by
    simpa using List.map_eq_map_iff (f := Char.toLower) (g := id) (l := name.toList)
  rw [← String.toList_inj, lowered, String.toList_ofList, hmap]
  simp [HasCapital, toLower_eq_self_iff]

end Text

/-- In a tree an alias is mentioned between these pieces, in its own segments or in those of a tree within it. -/
inductive Tree.Site : Tree → Mention → String → List Piece → List Piece → Prop
  | here {t : Tree} {m : Mention} {name : String} {before after : List Segment}
      (h : t.segments = before ++ .mention m name :: after) : Tree.Site t m name (flat before) (flat after)
  | inside {t part : Tree} {m : Mention} {name : String} {before after : List Segment} {lead tail : List Piece}
      (h : t.segments = before ++ .part part :: after) (hpart : Tree.Site part m name lead tail) :
      Tree.Site t m name (flat before ++ lead) (tail ++ flat after)

theorem spaced_of_append {segments others : List Segment} (h : Spaced (segments ++ others)) : Spaced others := by
  induction segments with
  | nil => exact h
  | cons segment rest ih =>
    cases segment with
    | piece p => exact ih h
    | _ => exact ih h.2

theorem closes_pieces_append {pieces others : List Piece} (h : Closes pieces) (hothers : Closes others) :
    Closes (pieces ++ others) := by
  cases pieces with
  | nil => exact hothers
  | cons p rest => exact h

theorem Text.endsName_of_closer {text : List Char} (h : text.head?.any Text.isCloser = true) : Text.EndsName text := by
  intro c hc
  rw [Option.mem_def.mp hc, Option.any_some] at h
  simp only [isCloser, Bool.or_eq_true, beq_iff_eq] at h
  obtain ((rfl | rfl) | rfl) | rfl := h <;> decide

theorem endsName_written {pieces : List Piece} (h : Closes pieces) {names names' : Names} {f : Fragment}
    (hf : written pieces names = (.ok f, names')) : Text.EndsName f.sql.toList := by
  cases pieces with
  | nil =>
    cases hf
    simp [Text.EndsName, Fragment.ofChunks]
  | cons p rest =>
    have hp : p.Closes := h p rfl
    cases p with
    | text s =>
      rw [written, writtenBy_text_cons resolve_text] at hf
      obtain ⟨others, between, -, hpush⟩ := Naming.bind_eq_ok.mp hf
      cases hpush
      exact Text.endsName_of_closer (closes_append hp)
    | failure fault =>
      rw [written, writtenBy, List.mapM_cons, bind_assoc] at hf
      cases hf
    | _ => exact hp.elim

def Mention.denoted (m : Mention) (name : String) : String :=
  if m.isQuoted then name else Text.lowered name.toList

def Mention.text (m : Mention) (name : String) : String :=
  if m.isQuoted then Text.quoteIdentifier name else name

theorem Mention.denoted_eq_iff (m other : Mention) (name : String) :
    m.denoted name = other.denoted name ↔ m.isQuoted = other.isQuoted ∨ ¬ Text.HasCapital name := by
  rw [← Text.lowered_eq_iff, denoted, denoted]
  cases m.isQuoted <;> cases other.isQuoted <;> simp [eq_comm]

theorem Mention.identifierAt?_text (m : Mention) {name : String} (h : Text.IsAlias name) {rest : List Char}
    (hrest : Text.EndsName rest) :
    Text.identifierAt? ((m.text name).toList ++ rest) = some (m.denoted name) := by
  have hquote : Text.identifierQuote ∉ name.toList := fun hc => Text.isAlias_quoteless h _ hc (.inr rfl)
  unfold text denoted
  split
  · exact Text.identifierAt?_quoted hquote hrest
  · exact Text.identifierAt?_name h hrest

theorem Mention.written_cons (m : Mention) (name : String) (pieces : List Piece) :
    written (m.piece name :: pieces) = do return Fragment.push ⟨m.text name, []⟩ (← written pieces) := by
  have hresolve : (m.piece name).resolve = pure (.text (m.text name)) := by
    unfold piece text
    split <;> rfl
  simp [written, writtenBy, hresolve, Fragment.ofChunks, Fragment.push, Chunk.sql, Chunk.values]

def DenotedAfter (before : List Piece) (names : Names) (text identifier : String) : Prop :=
  ∃ head between rest, written before names = (.ok head, between) ∧ text = head.sql ++ rest
    ∧ Text.identifierAt? rest.toList = some identifier

theorem denotedAfter_unique {before : List Piece} {names : Names} {text i j : String}
    (hi : DenotedAfter before names text i) (hj : DenotedAfter before names text j) : i = j := by
  obtain ⟨head, between, rest, hhead, rfl, hrest⟩ := hi
  obtain ⟨head', between', rest', hhead', htext, hrest'⟩ := hj
  rw [hhead] at hhead'
  cases hhead'
  rw [String.append_right_inj] at htext
  rw [← htext, hrest] at hrest'
  exact Option.some.inj hrest'

namespace Tree

variable {t : Tree} {m : Mention} {name : String} {before after : List Piece}

theorem Site.pieces_eq (h : Site t m name before after) : t.pieces = before ++ m.piece name :: after := by
  induction h with
  | here h => rw [← flat_segments, h, flat_append, flat_mention]
  | inside h _ ih =>
    rw [← flat_segments, h, flat_append, flat_part, ih]
    simp only [List.append_assoc, List.cons_append]

theorem Site.closes (h : Site t m name before after) : Closes after := by
  induction h with
  | @here t _ _ before after h =>
    have hspaced := t.spaced_segments
    rw [h] at hspaced
    exact closes_flat (spaced_of_append hspaced).1
  | @inside t _ _ _ _ _ _ _ h _ ih =>
    have hspaced := t.spaced_segments
    rw [h] at hspaced
    exact closes_pieces_append ih (closes_flat (spaced_of_append hspaced).1)

theorem write_eq_written (t : Tree) : t.write = written t.pieces := t.write_eq

theorem Site.denotedAfter (h : Site t m name before after) (hname : Text.IsAlias name) {names names' : Names}
    {f : Fragment} (hf : t.write names = (.ok f, names')) :
    DenotedAfter before names f.sql (m.denoted name) := by
  rw [write_eq_written, h.pieces_eq, written, writtenBy_append] at hf
  obtain ⟨head, between, hhead, hf⟩ := Naming.bind_eq_ok.mp hf
  obtain ⟨others, last, hothers, hpush⟩ := Naming.bind_eq_ok.mp hf
  cases hpush
  change written (m.piece name :: after) between = _ at hothers
  rw [Mention.written_cons] at hothers
  obtain ⟨g, final, hg, hpush⟩ := Naming.bind_eq_ok.mp hothers
  cases hpush
  refine ⟨head, between, m.text name ++ g.sql, hhead, rfl, ?_⟩
  rw [String.toList_append]
  exact m.identifierAt?_text hname (endsName_written h.closes hg)

end Tree

namespace Mention

def introduces : Mention → Bool
  | .table | .join | .subQuery | .projection | .aggregate => true
  | .groupKey | .qualifier | .columns | .literal => false

def refers : Mention → Bool
  | .qualifier | .columns | .literal => true
  | .table | .join | .subQuery | .projection | .aggregate | .groupKey => false

theorem isQuoted_eq_iff {m r : Mention} (hm : m.introduces = true) (hr : r.refers = true) :
    m.isQuoted = r.isQuoted ↔ m = .table ∨ m = .join := by
  cases m <;> cases hm <;> cases r <;> cases hr <;> decide

end Mention

namespace Query

inductive Introduces (q : Query) (name : String) : Mention → Prop
  | table {t : Table} (ht : .table t ∈ q.sources) (h : t.alias? = some name) : Introduces q name .table
  | join {j : Join} (hj : .join j ∈ q.sources) (h : j.alias? = some name) : Introduces q name .join
  | joinedTable {j : Join} {t : Table} (hj : .join j ∈ q.sources) (hjoin : j.alias? = none)
      (ht : soleTable? j.query.sources = some t) (h : t.alias? = some name) : Introduces q name .table
  | subQuery {inner : Query} (h : .query inner (some name) ∈ q.sources) : Introduces q name .subQuery
  | projection {p : Projection} (hp : p ∈ q.projections) (h : p.alias? = some name) : Introduces q name .projection
  | joinedProjection {j : Join} {p : Projection} (hj : .join j ∈ q.sources) (hp : p ∈ j.query.projections)
      (h : p.alias? = some name) : Introduces q name .projection
  | aggregate {a : Aggregate} (ha : a ∈ q.aggregates) (h : a.alias? = some name) : Introduces q name .aggregate

variable {q : Query} {name : String} {m : Mention}

theorem alias_identifiers {names names' : Names} {f : Fragment} (hf : q.write names = (.ok f, names'))
    (hname : Text.IsAlias name) {r : Mention} (hm : m.introduces = true) (hr : r.refers = true)
    {before after lead tail : List Piece} (hintroduced : Tree.Site (.query q) m name before after)
    (hreferred : Tree.Site (.query q) r name lead tail) :
    ∃ introduced referred, DenotedAfter before names f.sql introduced ∧ DenotedAfter lead names f.sql referred
      ∧ (introduced = referred ↔ m = .table ∨ m = .join ∨ ¬ Text.HasCapital name) := by
  refine ⟨m.denoted name, r.denoted name, hintroduced.denotedAfter hname hf, hreferred.denotedAfter hname hf, ?_⟩
  rw [m.denoted_eq_iff r, Mention.isQuoted_eq_iff hm hr, or_assoc]

def zoneEntity : Entity := Entity.ofFields "app::Zone" "Zone" (some "zones")
  [{ name := "name", label := "String", holds := .column (.required (.element .text)) }]

def zonesWithin (name : String) : Query :=
  { Query.empty with
    projections := [(Expr.column ((zoneEntity.aliased name).column "name")).project]
    sources := [.query zoneEntity.table.selectAll (some name)] }

-- the last segment introduces the alias, and the first column refers to it
theorem site_zonesWithin (name : String) :
    Tree.Site (.query (zonesWithin name)) .subQuery name (zonesWithin name).pieces.dropLast []
      ∧ ∃ tail, Tree.Site (.query (zonesWithin name)) .qualifier name [.text "SELECT "] tail := by
  let column := (zoneEntity.aliased name).column "name"
  have hlast : (Tree.query (zonesWithin name)).segments
      = (zonesWithin name).segments.dropLast ++ Segment.mention .subQuery name :: [] := rfl
  have hfirst : (Tree.query (zonesWithin name)).segments
      = own [Piece.text "SELECT "] ++ Segment.part (.expr (.column column)) :: (zonesWithin name).segments.drop 2 := rfl
  have hqualifier : (Tree.expr (.column column)).segments
      = [] ++ Segment.mention .qualifier name :: own [Piece.text ".", Piece.columnName column] := rfl
  constructor
  · exact .here hlast
  · exact ⟨_, .inside hfirst (.here hqualifier)⟩

theorem alias_identifiers_recent :
    ∃ f names' introduced referred, (zonesWithin "recent_2").write {} = (.ok f, names')
      ∧ f.sql = "SELECT \"recent_2\".\"name\" FROM (SELECT \"zones\".* FROM \"zones\") recent_2"
      ∧ DenotedAfter (zonesWithin "recent_2").pieces.dropLast {} f.sql introduced
      ∧ DenotedAfter [.text "SELECT "] {} f.sql referred ∧ introduced = referred := by
  obtain ⟨hintroduced, tail, hreferred⟩ := site_zonesWithin "recent_2"
  have hwrite : (zonesWithin "recent_2").write {}
      = (.ok ⟨"SELECT \"recent_2\".\"name\" FROM (SELECT \"zones\".* FROM \"zones\") recent_2", []⟩, _) := rfl
  obtain ⟨introduced, referred, hi, hr, h⟩ :=
    alias_identifiers hwrite (by decide) rfl rfl hintroduced hreferred
  exact ⟨_, _, introduced, referred, hwrite, rfl, hi, hr, h.mpr (by decide)⟩

theorem alias_identifiers_capital :
    ∃ f names', (zonesWithin "Recent").write {} = (.ok f, names')
      ∧ f.sql = "SELECT \"Recent\".\"name\" FROM (SELECT \"zones\".* FROM \"zones\") Recent"
      ∧ Text.IsAlias "Recent" ∧ (zonesWithin "Recent").Introduces "Recent" .subQuery
      ∧ Tree.Site (.query (zonesWithin "Recent")) .subQuery "Recent" (zonesWithin "Recent").pieces.dropLast []
      ∧ (∃ tail, Tree.Site (.query (zonesWithin "Recent")) .qualifier "Recent" [.text "SELECT "] tail)
      ∧ DenotedAfter (zonesWithin "Recent").pieces.dropLast {} f.sql "recent"
      ∧ DenotedAfter [.text "SELECT "] {} f.sql "Recent"
      ∧ ¬ ∃ i, DenotedAfter (zonesWithin "Recent").pieces.dropLast {} f.sql i
          ∧ DenotedAfter [.text "SELECT "] {} f.sql i := by
  let sql := "SELECT \"Recent\".\"name\" FROM (SELECT \"zones\".* FROM \"zones\") Recent"
  obtain ⟨hintroduced, hreferred⟩ := site_zonesWithin "Recent"
  have hlowered : DenotedAfter (zonesWithin "Recent").pieces.dropLast {} sql "recent" :=
    ⟨_, _, "Recent", rfl, rfl, by decide +kernel⟩
  have hquoted : DenotedAfter [.text "SELECT "] {} sql "Recent" :=
    ⟨_, _, "\"Recent\".\"name\" FROM (SELECT \"zones\".* FROM \"zones\") Recent", rfl, rfl, by decide +kernel⟩
  refine ⟨_, _, rfl, rfl, by decide, .subQuery (List.mem_singleton_self _), hintroduced, hreferred, hlowered, hquoted, ?_⟩
  rintro ⟨i, hi, hj⟩
  rw [denotedAfter_unique hi hlowered] at hj
  exact absurd (denotedAfter_unique hj hquoted) (by decide)

end Query

end RelationalMapping
