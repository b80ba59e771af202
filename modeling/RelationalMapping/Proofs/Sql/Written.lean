import RelationalMapping.Proofs.Entity.Construction
import RelationalMapping.Proofs.Sql.Memo

namespace RelationalMapping

namespace Fragment

theorem ofChunks_append (chunks others : List Chunk) :
    ofChunks (chunks ++ others) = (ofChunks chunks).push (.ofChunks others) := by
  simp [ofChunks, push]

theorem push_assoc (f g h : Fragment) : (f.push g).push h = f.push (g.push h) := by
  simp [push, String.append_assoc]

theorem join_cons_cons (separator : String) (f g : Fragment) (fragments : List Fragment) :
    join separator (f :: g :: fragments)
      = f.push (push ⟨separator, []⟩ (join separator (g :: fragments))) := by
  simp [join, push, String.intercalate_cons_cons, String.append_assoc]

theorem join_single (separator : String) (f : Fragment) : join separator [f] = f := by
  simp [join]

end Fragment

section Parts

variable {m : Type → Type} [Monad m] [LawfulMonad m]

def writtenBy (write : Piece → m Chunk) (pieces : List Piece) : m Fragment :=
  return .ofChunks (← pieces.mapM write)

variable {write : Piece → m Chunk}

theorem writtenBy_append (pieces others : List Piece) :
    writtenBy write (pieces ++ others) = do
      let f ← writtenBy write pieces
      let g ← writtenBy write others
      return f.push g := by
  simp only [writtenBy, List.mapM_append, bind_assoc, pure_bind, Fragment.ofChunks_append]

theorem writtenBy_text_cons (htext : ∀ s, write (.text s) = pure (.text s)) (s : String) (pieces : List Piece) :
    writtenBy write (.text s :: pieces) = do return Fragment.push ⟨s, []⟩ (← writtenBy write pieces) := by
  simp [writtenBy, htext, Fragment.ofChunks, Fragment.push, Chunk.sql, Chunk.values]

theorem writtenBy_text (htext : ∀ s, write (.text s) = pure (.text s)) (s : String) :
    writtenBy write [.text s] = pure ⟨s, []⟩ := by
  simp [writtenBy, htext, Fragment.ofChunks, Chunk.sql, Chunk.values]

theorem writtenBy_enclosed (htext : ∀ s, write (.text s) = pure (.text s)) (pieces : List Piece) :
    writtenBy write (enclosed pieces) = do
      return (Fragment.push ⟨"(", []⟩ (← writtenBy write pieces)).push ⟨")", []⟩ := by
  rw [enclosed, List.cons_append, writtenBy_text_cons htext, writtenBy_append, writtenBy_text htext]
  simp [Fragment.push_assoc]

theorem writtenBy_separated (htext : ∀ s, write (.text s) = pure (.text s)) (separator : String)
    (lists : List (List Piece)) :
    writtenBy write (separated (.text separator) lists) = do
      return Fragment.join separator (← lists.mapM (writtenBy write)) := by
  induction lists with
  | nil => simp [writtenBy, separated, Fragment.ofChunks, Fragment.join]
  | cons items rest ih =>
    cases rest with
    | nil => simp [separated, Fragment.join_single]
    | cons others rest =>
      rw [separated, writtenBy_append, writtenBy_text_cons htext, ih]
      · simp [Fragment.join_cons_cons]
      · simp

end Parts

def written (pieces : List Piece) : Naming Fragment := writtenBy Piece.resolve pieces

theorem resolve_text (s : String) : Piece.resolve (.text s) = pure (.text s) := rfl

theorem resolve_eq_pure {pieces : List Piece} (h : ∀ p ∈ pieces, ∃ c, p.resolve = pure c) :
    ∃ chunks, resolve pieces = pure chunks := by
  induction pieces with
  | nil => exact ⟨[], rfl⟩
  | cons p rest ih =>
    obtain ⟨c, hc⟩ := h p List.mem_cons_self
    obtain ⟨chunks, hchunks⟩ := ih fun q hq => h q (List.mem_cons_of_mem _ hq)
    refine ⟨c :: chunks, ?_⟩
    rw [resolve, List.mapM_cons, hc, ← resolve, hchunks, pure_bind, pure_bind]

def Piece.Within (among : Entity → Prop) : Piece → Prop
  | .tableName e => among e
  | .columnName c => among c.table.entity
  | .marker _ into => among into.column.table.entity
  | _ => True

instance (among : Entity → Prop) [DecidablePred among] : (p : Piece) → Decidable (p.Within among)
  | .tableName e => inferInstanceAs (Decidable (among e))
  | .columnName c => inferInstanceAs (Decidable (among c.table.entity))
  | .marker _ into => inferInstanceAs (Decidable (among into.column.table.entity))
  | .text _ | .verbatim _ | .identifier _ | .literal _ | .bound _ | .failure _ => .isTrue trivial

def Piece.ownChunk : Piece → Except Error Chunk
  | .text s | .verbatim s => return .text s
  | .identifier name => return .text (Text.quoteIdentifier name)
  | .literal s => return .text (Text.quoteLiteral s)
  | .bound v => return .bound v
  | .tableName e => return .text (Text.quoteIdentifier (← e.ownTableName))
  | .columnName c => return .text (Text.quoteIdentifier c.ownName)
  | .marker edge into => return .text ("NULL AS " ++ Text.quoteIdentifier (into.ownLabel edge))
  | .failure e => throw e

def ownWritten (pieces : List Piece) : Except Error Fragment := writtenBy Piece.ownChunk pieces

theorem ownChunk_text (s : String) : Piece.ownChunk (.text s) = pure (.text s) := rfl

theorem ownWritten_separated (separator : String) {lists : List (List Piece)} {fragments : List Fragment}
    (h : List.Forall₂ (fun pieces f => ownWritten pieces = .ok f) lists fragments) :
    ownWritten (separated (.text separator) lists) = .ok (.join separator fragments) := by
  have hfragments : lists.mapM (writtenBy Piece.ownChunk) = .ok fragments := mapM_eq_ok_iff.mpr h
  rw [ownWritten, writtenBy_separated ownChunk_text, hfragments]
  rfl

variable {among : Entity → Prop}

theorem Naming.Yields.keeps {α : Type} {kept : Names → Prop} {post : α → Prop} {x : Naming α} {a : α}
    (h : Naming.Yields kept x a) (ha : post a) : Naming.Keeps kept post x := by
  intro names b names' hnames hb
  obtain ⟨after, hafter, hkept⟩ := h names hnames
  rw [hafter] at hb
  cases hb
  exact ⟨ha, hkept⟩

theorem keeps_table (hamong : Unconfused among) {e : Entity} (he : among e) :
    Naming.Keeps (Names.Faithful among) (fun name => e.ownTableName = .ok name) (Naming.table e) := by
  intro names name names' hnames h
  rw [Naming.table_apply] at h
  have hfound := h
  unfold Names.table at hfound
  split at hfound
  · cases hfound
  · rename_i htype
    have hown : ∃ own, e.ownTableName = .ok own := by
      split at hfound
      · rename_i known hknown
        exact ⟨known, hnames.tables e he known hknown⟩
      · split at hfound
        · rename_i own hown
          exact ⟨own, hown⟩
        · cases hfound
    obtain ⟨own, hown⟩ := hown
    obtain ⟨hname, hafter⟩ := Names.table_faithful hamong hnames he (by simpa using htype) hown
    rw [h] at hname hafter
    cases hname
    exact ⟨hown, hafter⟩

theorem Piece.keeps_ownChunk (hamong : Unconfused among) {p : Piece} (hp : p.Within among) :
    Naming.Keeps (Names.Faithful among) (fun chunk => p.ownChunk = .ok chunk) p.resolve := by
  cases p with
  | text | verbatim | identifier | literal | bound => exact Naming.keeps_pure rfl
  | tableName e =>
    refine Naming.keeps_bind (keeps_table hamong hp) fun name hname => Naming.keeps_pure ?_
    rw [Piece.ownChunk, hname]
    rfl
  | columnName c =>
    exact Naming.Yields.keeps (Naming.yields_bind (Naming.yields_column hamong hp) (Naming.yields_pure _)) rfl
  | marker edge into =>
    exact Naming.Yields.keeps (Naming.yields_bind (Naming.yields_marker hamong edge hp) (Naming.yields_pure _)) rfl
  | failure fault => exact Naming.keeps_throw _ fault

theorem keeps_resolve (hamong : Unconfused among) {pieces : List Piece} (h : ∀ p ∈ pieces, p.Within among) :
    Naming.Keeps (Names.Faithful among) (fun chunks => pieces.mapM Piece.ownChunk = .ok chunks) (resolve pieces) := by
  simp only [mapM_eq_ok_iff]
  exact Naming.keeps_mapM fun p hp => p.keeps_ownChunk hamong (h p hp)

theorem keeps_written (hamong : Unconfused among) {pieces : List Piece} (h : ∀ p ∈ pieces, p.Within among) :
    Naming.Keeps (Names.Faithful among) (fun f => ownWritten pieces = .ok f) (written pieces) := by
  refine Naming.keeps_bind (keeps_resolve hamong h) fun chunks hchunks => Naming.keeps_pure ?_
  rw [ownWritten, writtenBy, hchunks]
  rfl

theorem Piece.yields_ownChunk (hamong : Unconfused among) {p : Piece} (hp : p.Within among)
    (htype : ∀ e, p = .tableName e → e.typeName.isEmpty = false) {chunk : Chunk} (h : p.ownChunk = .ok chunk) :
    Naming.Yields (Names.Faithful among) p.resolve chunk := by
  cases p with
  | text | verbatim | identifier | literal | bound =>
    cases h
    exact Naming.yields_pure _
  | tableName e =>
    obtain ⟨name, hname, hchunk⟩ := bind_eq_ok_iff.mp h
    cases hchunk
    exact Naming.yields_bind (Naming.yields_table hamong hp (htype e rfl) hname) (Naming.yields_pure _)
  | columnName c =>
    cases h
    exact Naming.yields_bind (Naming.yields_column hamong hp) (Naming.yields_pure _)
  | marker edge into =>
    cases h
    exact Naming.yields_bind (Naming.yields_marker hamong edge hp) (Naming.yields_pure _)
  | failure fault => cases h

theorem yields_resolve (hamong : Unconfused among) {pieces : List Piece} (h : ∀ p ∈ pieces, p.Within among)
    (htypes : ∀ e, .tableName e ∈ pieces → e.typeName.isEmpty = false) {chunks : List Chunk}
    (hchunks : pieces.mapM Piece.ownChunk = .ok chunks) : Naming.Yields (Names.Faithful among) (resolve pieces) chunks := by
  have hparts := mapM_eq_ok_iff.mp hchunks
  clear hchunks
  induction hparts with
  | nil => exact Naming.yields_pure []
  | @cons p chunk rest chunks hp _ ih =>
    rw [List.forall_mem_cons] at h
    rw [resolve, List.mapM_cons]
    have hfirst : Naming.Yields (Names.Faithful among) p.resolve chunk :=
      p.yields_ownChunk hamong h.1 (fun e he => htypes e (he ▸ List.mem_cons_self)) hp
    have hrest := ih h.2 fun e he => htypes e (List.mem_cons_of_mem _ he)
    exact Naming.yields_bind hfirst (Naming.yields_bind hrest (Naming.yields_pure _))

theorem yields_written (hamong : Unconfused among) {pieces : List Piece} (h : ∀ p ∈ pieces, p.Within among)
    (htypes : ∀ e, .tableName e ∈ pieces → e.typeName.isEmpty = false) {f : Fragment} (hf : ownWritten pieces = .ok f) :
    Naming.Yields (Names.Faithful among) (written pieces) f := by
  obtain ⟨chunks, hchunks, hfragment⟩ := bind_eq_ok_iff.mp hf
  cases hfragment
  exact Naming.yields_bind (yields_resolve hamong h htypes hchunks) (Naming.yields_pure _)

end RelationalMapping
