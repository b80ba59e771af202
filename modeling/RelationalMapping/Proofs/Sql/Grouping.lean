import RelationalMapping.Proofs.Sql.Lacking
import RelationalMapping.Proofs.Sql.Written
import RelationalMapping.Query.Expression

namespace RelationalMapping

def formulaOperators : List BinaryOp :=
  [.arithmetic .plus, .arithmetic .minus, .arithmetic .times, .arithmetic .div, .arithmetic .mod, .arithmetic .pow,
    .comparison .eq, .comparison .ne, .comparison .gt, .comparison .gte, .comparison .lt, .comparison .lte,
    .json .get, .json .getAsText, .concatJson]

theorem BinaryOp.eq_of_text_eq : ∀ op ∈ formulaOperators, ∀ other ∈ formulaOperators,
    op.text = other.text → op = other := by
  decide

theorem BinaryOp.space_not_mem_text : ∀ op ∈ formulaOperators, ' ' ∉ op.text.toList := by
  decide

theorem eq_of_append_cons_eq_right {α : Type} {a : α} {xs ys us vs : List α} (hy : a ∉ ys) (hv : a ∉ vs)
    (h : xs ++ a :: ys = us ++ a :: vs) : xs = us ∧ ys = vs := by
  have hreverse : ys.reverse ++ a :: xs.reverse = vs.reverse ++ a :: us.reverse := by
    simpa using congrArg List.reverse h
  obtain ⟨hafter, hbefore⟩ := eq_of_append_cons_eq (by simpa using hy) (by simpa using hv) hreverse
  exact ⟨List.reverse_injective hbefore, List.reverse_injective hafter⟩

namespace Fragment

variable {f g p q : Fragment}

theorem push_right_cancel (h : p.push f = q.push f) : p = q := by
  obtain ⟨hsql, hvalues⟩ := Fragment.mk.inj h
  exact congrArg₂ Fragment.mk ((String.append_left_inj _).mp hsql) (List.append_cancel_right hvalues)

def last? (f : Fragment) : Option Char := f.sql.toList.getLast?

theorem last?_push : (p.push f).last? = f.last?.or p.last? := by
  simp [last?, push, List.getLast?_append]

def spaced (op : BinaryOp) : Fragment := ⟨" " ++ op.text ++ " ", []⟩

theorem last?_spaced (op : BinaryOp) : (spaced op).last? = some ' ' := by
  simp [spaced, last?, List.getLast?_cons]

theorem push_spaced_inj {op other : BinaryOp} (hop : op ∈ formulaOperators) (hother : other ∈ formulaOperators)
    (h : p.push (spaced op) = q.push (spaced other)) : p = q ∧ op = other := by
  obtain ⟨hsql, -⟩ := Fragment.mk.inj h
  have hchars : p.sql.toList ++ ' ' :: op.text.toList = q.sql.toList ++ ' ' :: other.text.toList := by
    have hspaced := congrArg String.toList hsql
    simp only [spaced, String.toList_append, ← List.append_assoc] at hspaced
    simpa using List.append_cancel_right hspaced
  obtain ⟨-, htext⟩ := eq_of_append_cons_eq_right (op.space_not_mem_text hop) (other.space_not_mem_text hother) hchars
  have heq := op.eq_of_text_eq hop other hother (String.toList_inj.mp htext)
  subst heq
  exact ⟨push_right_cancel h, rfl⟩

inductive IsOperand : Fragment → Prop
  | bound (v : Value) : IsOperand ⟨parameterMark, [v]⟩
  | column {table name : String} (htable : Absent '"' table) (hname : Absent '"' name) :
    IsOperand ⟨Text.quoteIdentifier table ++ "." ++ Text.quoteIdentifier name, []⟩

theorem last?_bound (v : Value) : last? ⟨parameterMark, [v]⟩ = some '?' := by
  simp [last?, parameterMark]

theorem last?_column (table name : String) :
    last? ⟨Text.quoteIdentifier table ++ "." ++ Text.quoteIdentifier name, []⟩ = some '"' := by
  simp [last?, Text.toList_quoteIdentifier, Text.identifierQuote, List.getLast?_cons]

theorem IsOperand.last?_ne_parenthesis (h : f.IsOperand) : (p.push f).last? ≠ some ')' := by
  cases h with
  | bound v => simp [last?_push, last?_bound]
  | column => simp [last?_push, last?_column]

theorem IsOperand.eq_of_push_eq (hf : f.IsOperand) (hg : g.IsOperand) (h : p.push f = q.push g) :
    f = g ∧ p = q := by
  have hends := congrArg Fragment.last? h
  cases hf with
  | bound v =>
    cases hg with
    | bound w =>
      obtain ⟨-, hvalues⟩ := Fragment.mk.inj h
      obtain ⟨-, hlast⟩ := List.append_inj' hvalues rfl
      cases hlast
      exact ⟨rfl, push_right_cancel h⟩
    | column => simp [last?_push, last?_bound, last?_column] at hends
  | @column table name htable hname =>
    cases hg with
    | bound w => simp [last?_push, last?_bound, last?_column] at hends
    | @column table' name' htable' hname' =>
      obtain ⟨hsql, -⟩ := Fragment.mk.inj h
      have hchars : ((p.sql.toList ++ '"' :: table.toList) ++ ['"', '.']) ++ '"' :: name.toList
          = ((q.sql.toList ++ '"' :: table'.toList) ++ ['"', '.']) ++ '"' :: name'.toList := by
        have hquoted := congrArg String.toList hsql
        simp only [String.toList_append, Text.toList_quoteIdentifier, ← List.append_assoc] at hquoted
        simpa [Text.identifierQuote] using List.append_cancel_right hquoted
      obtain ⟨hbefore, hafter⟩ := eq_of_append_cons_eq_right hname hname' hchars
      obtain ⟨-, hqualifier⟩ := eq_of_append_cons_eq_right htable htable' (List.append_cancel_right hbefore)
      cases String.toList_inj.mp hafter
      cases String.toList_inj.mp hqualifier
      exact ⟨rfl, push_right_cancel h⟩

def Stops (p : Fragment) : Prop :=
  ∀ op ∈ formulaOperators, op.encloses = false → ∀ f : Fragment, p ≠ f.push (spaced op)

theorem stops_of_last? (h : p.last? ≠ some ' ') : p.Stops := by
  rintro op - - f rfl
  simp [last?_push, last?_spaced] at h

theorem stops_push_spaced {op : BinaryOp} (hop : op ∈ formulaOperators) (hencloses : op.encloses = true) :
    (p.push (spaced op)).Stops := by
  intro other hother hopen f h
  obtain ⟨-, rfl⟩ := push_spaced_inj hop hother h
  rw [hencloses] at hopen
  cases hopen

theorem stops_push_open : (p.push ⟨"(", []⟩).Stops := by
  have hopen : last? ⟨"(", []⟩ = some '(' := rfl
  exact stops_of_last? (by simp [last?_push, hopen])

def operation (op : BinaryOp) (left right : Fragment) : Fragment :=
  let inner := (left.push (spaced op)).push right
  if op.encloses then (push ⟨"(", []⟩ inner).push ⟨")", []⟩ else inner

theorem push_operation_open {op : BinaryOp} (h : op.encloses = false) (left right : Fragment) :
    p.push (operation op left right) = ((p.push left).push (spaced op)).push right := by
  simp [operation, h, push_assoc]

theorem push_operation_enclosed {op : BinaryOp} (h : op.encloses = true) (left right : Fragment) :
    p.push (operation op left right)
      = ((((p.push ⟨"(", []⟩).push left).push (spaced op)).push right).push ⟨")", []⟩ := by
  simp [operation, h, push_assoc]

theorem last?_operation_enclosed {op : BinaryOp} (h : op.encloses = true) (left right : Fragment) :
    (p.push (operation op left right)).last? = some ')' := by
  rw [push_operation_enclosed h, last?_push]
  rfl

end Fragment

inductive OperatorTree where
  | leaf (f : Fragment)
  | node (op : BinaryOp) (left right : OperatorTree)

namespace OperatorTree

def fragment : OperatorTree → Fragment
  | .leaf f => f
  | .node op left right => .operation op left.fragment right.fragment

def IsFormula : OperatorTree → Prop
  | .leaf f => f.IsOperand
  | .node op left right => op ∈ formulaOperators ∧ left.IsFormula ∧ right.IsFormula

def IsClosed : OperatorTree → Prop
  | .leaf _ => True
  | .node op _ _ => op.encloses = true

/-- On the right of an operator that does not enclose itself stands one operand. -/
def LeftGrouped : OperatorTree → Prop
  | .leaf _ => True
  | .node op left right => left.LeftGrouped ∧ right.LeftGrouped ∧ (op.encloses = false → right.IsClosed)

variable {s t : OperatorTree}

theorem exists_of_not_isClosed (h : ¬ t.IsClosed) :
    ∃ op left right, t = .node op left right ∧ op.encloses = false := by
  cases t with
  | leaf f => exact absurd trivial h
  | node op left right => exact ⟨op, left, right, rfl, by simpa [IsClosed] using h⟩

def PeelsClosed (t : OperatorTree) : Prop :=
  ∀ {s : OperatorTree} {p q : Fragment}, t.IsClosed → s.IsClosed → s.IsFormula → s.LeftGrouped →
    p.push t.fragment = q.push s.fragment → t = s ∧ p = q

def Peels (t : OperatorTree) : Prop :=
  ∀ {s : OperatorTree} {p q : Fragment}, p.Stops → q.Stops → s.IsFormula → s.LeftGrouped →
    p.push t.fragment = q.push s.fragment → t = s ∧ p = q

theorem peelsClosed_leaf {f : Fragment} (hf : f.IsOperand) : PeelsClosed (.leaf f) := by
  intro s p q _ hclosed hs _ h
  cases s with
  | leaf g =>
    obtain ⟨rfl, rfl⟩ := Fragment.IsOperand.eq_of_push_eq hf hs h
    exact ⟨rfl, rfl⟩
  | node op left right =>
    refine absurd ?_ (hf.last?_ne_parenthesis (p := p))
    rw [show p.push f = _ from h]
    exact Fragment.last?_operation_enclosed hclosed _ _

theorem peelsClosed_node {op : BinaryOp} {left right : OperatorTree} (hop : op ∈ formulaOperators)
    (hleft : left.Peels) (hright : right.Peels) : PeelsClosed (.node op left right) := by
  intro s p q hencloses hclosed hs hgrouped h
  cases s with
  | leaf g =>
    refine absurd ?_ (Fragment.IsOperand.last?_ne_parenthesis hs (p := q))
    rw [show q.push g = _ from h.symm]
    exact Fragment.last?_operation_enclosed hencloses _ _
  | node other left' right' =>
    obtain ⟨hother, hs, hs'⟩ := hs
    rw [fragment, fragment, Fragment.push_operation_enclosed hencloses,
      Fragment.push_operation_enclosed hclosed] at h
    obtain ⟨rfl, hinside⟩ := hright (Fragment.stops_push_spaced hop hencloses)
      (Fragment.stops_push_spaced hother hclosed) hs' hgrouped.2.1 (Fragment.push_right_cancel h)
    obtain ⟨hoperand, rfl⟩ := Fragment.push_spaced_inj hop hother hinside
    obtain ⟨rfl, hbefore⟩ := hleft Fragment.stops_push_open Fragment.stops_push_open hs hgrouped.1 hoperand
    exact ⟨rfl, Fragment.push_right_cancel hbefore⟩

theorem peels_of_closed (hclosed : t.IsClosed) (hpeels : t.PeelsClosed) : t.Peels := by
  intro s p q hp _ hs hgrouped h
  by_cases hs' : s.IsClosed
  · exact hpeels hclosed hs' hs hgrouped h
  · obtain ⟨op, left, right, rfl, hopen⟩ := exists_of_not_isClosed hs'
    rw [fragment, Fragment.push_operation_open hopen] at h
    obtain ⟨-, hbefore⟩ := hpeels hclosed (hgrouped.2.2 hopen) hs.2.2 hgrouped.2.1 h
    exact absurd hbefore (hp op hs.1 hopen _)

theorem peels_open {op : BinaryOp} {left right : OperatorTree} (hop : op ∈ formulaOperators)
    (hopen : op.encloses = false) (hclosed : right.IsClosed) (hleft : left.Peels) (hright : right.PeelsClosed) :
    Peels (.node op left right) := by
  intro s p q hp hq hs hgrouped h
  rw [fragment, Fragment.push_operation_open hopen] at h
  by_cases hs' : s.IsClosed
  · obtain ⟨-, hbefore⟩ := hright hclosed hs' hs hgrouped h
    exact absurd hbefore.symm (hq op hop hopen _)
  · obtain ⟨other, left', right', rfl, hopen'⟩ := exists_of_not_isClosed hs'
    rw [fragment, Fragment.push_operation_open hopen'] at h
    obtain ⟨rfl, hbefore⟩ := hright hclosed (hgrouped.2.2 hopen') hs.2.2 hgrouped.2.1 h
    obtain ⟨hoperand, rfl⟩ := Fragment.push_spaced_inj hop hs.1 hbefore
    obtain ⟨rfl, rfl⟩ := hleft hp hq hs.2.1 hgrouped.1 hoperand
    exact ⟨rfl, rfl⟩

theorem peels (ht : t.IsFormula) (hgrouped : t.LeftGrouped) : t.PeelsClosed ∧ t.Peels := by
  induction t with
  | leaf f => exact ⟨peelsClosed_leaf ht, peels_of_closed (t := .leaf f) trivial (peelsClosed_leaf ht)⟩
  | node op left right ihl ihr =>
    obtain ⟨hop, hleft, hright⟩ := ht
    have hclosed : PeelsClosed (.node op left right) :=
      peelsClosed_node hop (ihl hleft hgrouped.1).2 (ihr hright hgrouped.2.1).2
    cases hencloses : op.encloses with
    | true => exact ⟨hclosed, peels_of_closed (t := .node op left right) hencloses hclosed⟩
    | false =>
      exact ⟨hclosed, peels_open hop hencloses (hgrouped.2.2 hencloses) (ihl hleft hgrouped.1).2
        (ihr hright hgrouped.2.1).1⟩

theorem eq_of_fragment_eq (hs : s.IsFormula) (ht : t.IsFormula) (hsgrouped : s.LeftGrouped) (htgrouped : t.LeftGrouped)
    (h : s.fragment = t.fragment) : s = t := by
  have hempty : (⟨"", []⟩ : Fragment).Stops := Fragment.stops_of_last? (by simp [Fragment.last?])
  exact ((peels hs hsgrouped).2 hempty hempty ht htgrouped (by rw [h])).1

def graft (op : BinaryOp) (left : OperatorTree) : OperatorTree → OperatorTree
  | .leaf f => .node op left (.leaf f)
  | .node other first last =>
    if other.encloses then .node op left (.node other first last) else .node other (graft op left first) last

/-- The left-grouped tree with the same text. -/
def regroup : OperatorTree → OperatorTree
  | .leaf f => .leaf f
  | .node op left right =>
    if op.encloses then .node op left.regroup right.regroup else graft op left.regroup right.regroup

section Graft

variable {op : BinaryOp} {left right : OperatorTree}

theorem graft_of_isClosed (h : right.IsClosed) : graft op left right = .node op left right := by
  cases right with
  | leaf f => rfl
  | node other first last => exact if_pos h

theorem isFormula_graft (hop : op ∈ formulaOperators) (hl : left.IsFormula) (hr : right.IsFormula) :
    (graft op left right).IsFormula := by
  induction right with
  | leaf f => exact ⟨hop, hl, hr⟩
  | node other first last ih =>
    rw [graft]
    split
    · exact ⟨hop, hl, hr⟩
    · exact ⟨hr.1, ih hr.2.1, hr.2.2⟩

theorem leftGrouped_graft (hl : left.LeftGrouped) (hr : right.LeftGrouped) :
    (graft op left right).LeftGrouped := by
  induction right with
  | leaf f => exact ⟨hl, trivial, fun _ => trivial⟩
  | node other first last ih =>
    rw [graft]
    split
    · rename_i hother
      exact ⟨hl, hr, fun _ => hother⟩
    · exact ⟨ih hr.1, hr.2.1, hr.2.2⟩

theorem fragment_graft (hop : op.encloses = false) :
    (graft op left right).fragment = .operation op left.fragment right.fragment := by
  induction right with
  | leaf f => rfl
  | node other first last ih =>
    rw [graft]
    split
    · rfl
    · rename_i hother
      rw [fragment, ih, fragment]
      simp [Fragment.operation, hop, hother, Fragment.push_assoc]

end Graft

theorem isFormula_regroup (ht : t.IsFormula) : t.regroup.IsFormula := by
  induction t with
  | leaf f => exact ht
  | node op left right ihl ihr =>
    rw [regroup]
    split
    · exact ⟨ht.1, ihl ht.2.1, ihr ht.2.2⟩
    · exact isFormula_graft ht.1 (ihl ht.2.1) (ihr ht.2.2)

theorem leftGrouped_regroup (t : OperatorTree) : t.regroup.LeftGrouped := by
  induction t with
  | leaf f => trivial
  | node op left right ihl ihr =>
    rw [regroup]
    split
    · rename_i hencloses
      refine ⟨ihl, ihr, fun hopen => ?_⟩
      rw [hencloses] at hopen
      cases hopen
    · exact leftGrouped_graft ihl ihr

theorem fragment_regroup (t : OperatorTree) : t.regroup.fragment = t.fragment := by
  induction t with
  | leaf f => rfl
  | node op left right ihl ihr =>
    rw [regroup]
    split
    · rw [fragment, fragment, ihl, ihr]
    · rename_i hopen
      rw [fragment_graft (by simpa using hopen), ihl, ihr, fragment]

theorem regroup_eq_self (ht : t.LeftGrouped) : t.regroup = t := by
  induction t with
  | leaf f => rfl
  | node op left right ihl ihr =>
    rw [regroup, ihl ht.1, ihr ht.2.1]
    split
    · rfl
    · rename_i hopen
      exact graft_of_isClosed (ht.2.2 (by simpa using hopen))

theorem fragment_eq_iff (hs : s.IsFormula) (ht : t.IsFormula) :
    s.fragment = t.fragment ↔ s.regroup = t.regroup := by
  constructor
  · intro h
    rw [← fragment_regroup s, ← fragment_regroup t] at h
    exact eq_of_fragment_eq (isFormula_regroup hs) (isFormula_regroup ht) (leftGrouped_regroup s)
      (leftGrouped_regroup t) h
  · intro h
    rw [← fragment_regroup s, h, fragment_regroup]

end OperatorTree

namespace Expr

def IsFormula : Expr → Prop
  | .column _ => True
  | .value v => v ≠ .null
  | .binary op left right => op ∈ formulaOperators ∧ left.IsFormula ∧ right.IsFormula
  | .adapted _ e => e.IsFormula
  | _ => False

def tree : Expr → Naming OperatorTree
  | .binary op left right => do
    let l ← left.tree
    let r ← right.tree
    return .node op l r
  | .adapted _ e => e.tree
  | e => return .leaf (← e.write)

theorem write_eq_written (e : Expr) : e.write = written e.pieces := rfl

theorem written_operation (op : BinaryOp) (left right : List Piece) :
    written (operation op left right) = do
      let f ← written left
      let g ← written right
      return .operation op f g := by
  have hinner : written (left ++ .text (" " ++ op.text ++ " ") :: right) = do
      let f ← written left
      let g ← written right
      return (f.push (.spaced op)).push g := by
    rw [written, writtenBy_append, writtenBy_text_cons resolve_text]
    simp [written, Fragment.spaced, Fragment.push_assoc]
  unfold operation Fragment.operation
  split
  · rw [written, writtenBy_enclosed resolve_text, ← written, hinner]
    simp
  · exact hinner

theorem write_eq_tree (e : Expr) : e.write = do return (← e.tree).fragment := by
  induction e using tree.induct with
  | case1 op left right ihl ihr =>
    rw [write_eq_written, pieces, written_operation, ← write_eq_written, ← write_eq_written, ihl, ihr]
    simp [tree, OperatorTree.fragment]
  | case2 adapter e ih =>
    rw [tree, ← ih]
    rfl
  | case3 e hbinary hadapted =>
    rw [tree]
    · simp [OperatorTree.fragment]
    · exact hbinary
    · exact hadapted

theorem keeps_qualifier {t : Table} (h : ∀ s ∈ t.qualifier.flatMap Piece.strings, Absent '"' s) :
    Naming.Keeps (Names.Lacks '"') (fun f => ∃ name, Absent '"' name ∧ f = ⟨Text.quoteIdentifier name, []⟩)
      (written t.qualifier) := by
  intro names f names' hnames hf
  unfold Table.qualifier at h hf
  split at h
  · rename_i name halias
    rw [halias] at hf
    cases hf
    refine ⟨⟨name, h name List.mem_cons_self, ?_⟩, hnames⟩
    simp [Fragment.ofChunks, Chunk.sql, Chunk.values]
  · rename_i halias
    rw [halias] at hf
    have hsingle : written [.tableName t.entity] = do
        return ⟨Text.quoteIdentifier (← Naming.table t.entity), []⟩ := by
      simp [written, writtenBy, Piece.resolve, Fragment.ofChunks, Chunk.sql, Chunk.values]
    rw [hsingle] at hf
    obtain ⟨name, between, hname, hquoted⟩ := Naming.bind_eq_ok.mp hf
    cases hquoted
    obtain ⟨hlacks, hnames'⟩ := Names.lacks_table (by decide) hnames (h _ List.mem_cons_self) hname
    exact ⟨⟨name, hlacks, rfl⟩, hnames'⟩

theorem keeps_columnName {c : Column} (h : Absent '"' c.givenName) :
    Naming.Keeps (Names.Lacks '"') (fun f => ∃ name, Absent '"' name ∧ f = ⟨Text.quoteIdentifier name, []⟩)
      (written [.columnName c]) := by
  have hsingle : written [.columnName c] = do return ⟨Text.quoteIdentifier (← Naming.column c), []⟩ := by
    simp [written, writtenBy, Piece.resolve, Fragment.ofChunks, Chunk.sql, Chunk.values]
  intro names f names' hnames hf
  rw [hsingle] at hf
  cases hf
  obtain ⟨hlacks, hnames'⟩ := Names.lacks_column (by decide) hnames h
  exact ⟨⟨_, hlacks, rfl⟩, hnames'⟩

theorem keeps_column {c : Column} (h : ∀ s ∈ (column c).pieces.flatMap Piece.strings, Absent '"' s) :
    Naming.Keeps (Names.Lacks '"') Fragment.IsOperand (column c).write := by
  simp only [pieces, List.flatMap_append, List.forall_mem_append] at h
  rw [write_eq_written, pieces, written, writtenBy_append, writtenBy_text_cons resolve_text]
  refine Naming.keeps_bind (keeps_qualifier h.1) ?_
  rintro _ ⟨table, htable, rfl⟩
  rw [bind_assoc]
  refine Naming.keeps_bind (keeps_columnName (h.2 _ (by simp [Piece.strings]))) ?_
  rintro _ ⟨name, hname, rfl⟩
  refine Naming.keeps_pure ?_
  have hqualified := Fragment.IsOperand.column htable hname
  simpa [Fragment.push, String.append_assoc] using hqualified

theorem keeps_value {v : Value} (h : v ≠ .null) :
    Naming.Keeps (Names.Lacks '"') Fragment.IsOperand (value v).write := by
  have hbound : (value v).write = pure ⟨parameterMark, [v]⟩ := by
    cases v with
    | null => exact absurd rfl h
    | _ => rfl
  rw [hbound]
  exact Naming.keeps_pure (.bound v)

theorem strings_operation (op : BinaryOp) (left right : List Piece) :
    (operation op left right).flatMap Piece.strings
      = left.flatMap Piece.strings ++ right.flatMap Piece.strings := by
  unfold operation
  split <;> simp [enclosed]

theorem keeps_tree {e : Expr} (he : e.IsFormula) (hstrings : ∀ s ∈ e.pieces.flatMap Piece.strings, Absent '"' s) :
    Naming.Keeps (Names.Lacks '"') OperatorTree.IsFormula e.tree := by
  induction e using tree.induct with
  | case1 op left right ihl ihr =>
    rw [pieces, strings_operation, List.forall_mem_append] at hstrings
    rw [tree]
    refine Naming.keeps_bind (ihl he.2.1 hstrings.1) fun l hl => ?_
    refine Naming.keeps_bind (ihr he.2.2 hstrings.2) fun r hr => ?_
    exact Naming.keeps_pure ⟨he.1, hl, hr⟩
  | case2 adapter e ih => exact ih he hstrings
  | case3 e hbinary hadapted =>
    have hleaf : Naming.Keeps (Names.Lacks '"') Fragment.IsOperand e.write := by
      unfold IsFormula at he
      split at he
      · exact keeps_column hstrings
      · exact keeps_value he
      · exact absurd rfl (hbinary _ _ _)
      · exact absurd rfl (hadapted _ _)
      · exact he.elim
    rw [tree]
    · exact Naming.keeps_bind hleaf fun f hf => Naming.keeps_pure hf
    · exact hbinary
    · exact hadapted

theorem write_eq_iff_regroup {a b : Expr} (ha : a.IsFormula) (hb : b.IsFormula)
    (hstrings : ∀ s ∈ a.pieces.flatMap Piece.strings ++ b.pieces.flatMap Piece.strings, Absent '"' s)
    {names names' other other' : Names} (hnames : names.Lacks '"') (hother : other.Lacks '"') {f g : Fragment}
    (hf : a.write names = (.ok f, names')) (hg : b.write other = (.ok g, other')) :
    ∃ s t, a.tree names = (.ok s, names') ∧ b.tree other = (.ok t, other')
      ∧ (f = g ↔ s.regroup = t.regroup)
      ∧ (s.LeftGrouped → t.LeftGrouped → f = g → s = t) := by
  rw [write_eq_tree] at hf hg
  obtain ⟨s, _, hs, hsf⟩ := Naming.bind_eq_ok.mp hf
  obtain ⟨t, _, ht, htg⟩ := Naming.bind_eq_ok.mp hg
  cases hsf
  cases htg
  rw [List.forall_mem_append] at hstrings
  have hsformula := (keeps_tree ha hstrings.1 _ _ _ hnames hs).1
  have htformula := (keeps_tree hb hstrings.2 _ _ _ hother ht).1
  have hiff := OperatorTree.fragment_eq_iff hsformula htformula
  refine ⟨s, t, hs, ht, hiff, fun hsgrouped htgrouped h => ?_⟩
  calc
    s = s.regroup := (OperatorTree.regroup_eq_self hsgrouped).symm
    _ = t.regroup := hiff.mp h
    _ = t := OperatorTree.regroup_eq_self htgrouped

end Expr

def track : Entity := Entity.ofFields "app::Track" "Track" none
  [{ name := "payload", label := "Jsonb", holds := .column (.required .jsonb) },
    { name := "patch", label := "Jsonb", holds := .column (.required .jsonb) }]

def trackPayload : Expr := .column (track.table.column "payload")

def trackPatch : Expr := .column (track.table.column "patch")

theorem Expr.write_eq_iff_regroup_adapted :
    let a := (trackPayload.concat trackPatch).jsonGet (.text "speed")
    let b := (trackPayload.concat trackPatch.notNull).nullable.jsonGet (.text "speed")
    ∃ s f names', a.write {} = (.ok f, names') ∧ b.write {} = (.ok f, names')
      ∧ a.tree {} = (.ok s, names') ∧ b.tree {} = (.ok s, names') := by
  intro a b
  have ha : a.IsFormula := ⟨by decide, ⟨by decide, trivial, trivial⟩, nofun⟩
  have hb : b.IsFormula := ⟨by decide, ⟨by decide, trivial, trivial⟩, nofun⟩
  have hstrings : ∀ s ∈ a.pieces.flatMap Piece.strings ++ b.pieces.flatMap Piece.strings, Absent '"' s := by
    decide +kernel
  obtain ⟨s, t, hs, ht, -, heq⟩ := Expr.write_eq_iff_regroup ha hb hstrings Names.lacks_empty Names.lacks_empty rfl rfl
  have hgrouped : s.LeftGrouped := by
    cases hs
    simp [OperatorTree.LeftGrouped, OperatorTree.IsClosed]
  have hgrouped' : t.LeftGrouped := by
    cases ht
    simp [OperatorTree.LeftGrouped, OperatorTree.IsClosed]
  obtain rfl := heq hgrouped hgrouped' rfl
  exact ⟨s, _, _, rfl, rfl, hs, ht⟩

theorem Expr.write_grouped_right :
    let a := trackPayload.concat (trackPatch.jsonGet (.text "speed"))
    let b := (trackPayload.concat trackPatch).jsonGet (.text "speed")
    a.IsFormula ∧ b.IsFormula ∧ ∃ s t names',
      a.write {} = (.ok ⟨"\"track\".\"payload\" || \"track\".\"patch\" -> ?", [.text "speed"]⟩, names')
        ∧ b.write {} = (.ok ⟨"\"track\".\"payload\" || \"track\".\"patch\" -> ?", [.text "speed"]⟩, names')
        ∧ a.tree {} = (.ok s, names') ∧ b.tree {} = (.ok t, names') ∧ s ≠ t := by
  refine ⟨⟨by decide, trivial, by decide, trivial, nofun⟩, ⟨by decide, ⟨by decide, trivial, trivial⟩, nofun⟩,
    _, _, _, rfl, rfl, rfl, rfl, fun h => ?_⟩
  cases h

end RelationalMapping
