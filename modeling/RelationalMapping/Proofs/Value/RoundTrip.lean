import RelationalMapping.Mapping.Context
import RelationalMapping.Entity.Document
import RelationalMapping.Proofs.Number.Rounding

namespace RelationalMapping

namespace ElementType

def Keeps (t : ElementType) (v : Value) : Prop := ∃ x, t.decode v = .ok x ∧ t.encode x = v

theorem keeps_of_decode? {t : ElementType} {v : Value} {x : t.Carrier} (h : t.decode? v = some x)
    (hx : t.encode x = v) : t.Keeps v := ⟨x, by rw [decode, h], hx⟩

theorem fitsWord_int16 (n : Int16) : fitsWord 16 n.toInt64.toInt = true := by
  have hlow := n.le_toInt
  have hhigh := n.toInt_lt
  simp [fitsWord]
  omega

theorem fitsWord_int32 (n : Int32) : fitsWord 32 n.toInt64.toInt = true := by
  have hlow := n.le_toInt
  have hhigh := n.toInt_lt
  simp [fitsWord]
  omega

theorem keeps_encode (t : ElementType) (x : t.Carrier) : t.Keeps (t.encode x) := by
  cases t with
  | int16 =>
    refine keeps_of_decode? (x := x) ?_ rfl
    change (if fitsWord 16 (Int16.toInt64 x).toInt then some (Int16.toInt64 x).toInt16 else none) = some x
    rw [if_pos (fitsWord_int16 x), Int16.toInt16_toInt64]
  | int32 =>
    refine keeps_of_decode? (x := x) ?_ rfl
    change (if fitsWord 32 (Int32.toInt64 x).toInt then some (Int32.toInt64 x).toInt32 else none) = some x
    rw [if_pos (fitsWord_int32 x), Int32.toInt32_toInt64]
  | float32 =>
    have hwide := Binary32.widen_narrow_widen x
    exact keeps_of_decode? rfl (congrArg Value.float hwide)
  | _ => exact keeps_of_decode? (x := x) rfl rfl

end ElementType

namespace BaseType

theorem mapM_decode_encode (t : ElementType) (items : List t.Carrier) :
    ∃ kept, (items.map t.encode).mapM t.decode = .ok kept ∧ kept.map t.encode = items.map t.encode := by
  induction items with
  | nil => exact ⟨[], rfl, rfl⟩
  | cons x rest ih =>
    obtain ⟨y, hy, hencode⟩ := t.keeps_encode x
    obtain ⟨kept, hkept, hrest⟩ := ih
    refine ⟨y :: kept, ?_, by simp [hencode, hrest]⟩
    simp only [List.map_cons, List.mapM_cons, hy, hkept]
    rfl

theorem find?_variant (e : Enumeration) (variant : Fin e.variants.length) :
    ∃ found, e.find? (e.variants.get variant) = some found
      ∧ e.variants.get found = e.variants.get variant := by
  have hmem : e.variants.get variant ∈ e.variants := List.get_mem _ _
  rcases hfound : e.find? (e.variants.get variant) with _ | found
  · exact absurd hmem (List.finIdxOf?_eq_none_iff.mp hfound)
  · exact ⟨found, rfl, (List.finIdxOf?_eq_some_iff.mp hfound).1⟩

theorem keeps_encode (t : BaseType) (x : t.Carrier) :
    ∃ y, t.decode (t.encode x) = .ok y ∧ t.encode y = t.encode x := by
  cases t with
  | element t => exact t.keeps_encode x
  | enumeration e =>
    obtain ⟨found, hfound, hname⟩ := find?_variant e x
    refine ⟨found, ?_, congrArg Value.text hname⟩
    change Enumeration.decode e (.text (e.variants.get x)) = .ok found
    rw [Enumeration.decode, hfound]
  | list t =>
    obtain ⟨kept, hkept, hencode⟩ := mapM_decode_encode t x
    exact ⟨kept, hkept, congrArg (Value.array t.sqlName) hencode⟩
  | _ => exact ⟨x, rfl, rfl⟩

end BaseType

namespace FieldType

theorem hold_encode (t : FieldType) (x : t.Carrier) : t.hold (t.encode x) = .ok (t.encode x) := by
  obtain ⟨base, optional⟩ := t
  cases optional with
  | false =>
    obtain ⟨y, hy, hencode⟩ := base.keeps_encode x
    change (base.decode (base.encode x)).map base.encode = .ok (base.encode x)
    rw [hy]
    exact congrArg Except.ok hencode
  | true =>
    cases x with
    | none => rfl
    | some x =>
      obtain ⟨y, hy, hencode⟩ := base.keeps_encode x
      change (decode ⟨base, true⟩ (base.encode x)).map (encode ⟨base, true⟩) = .ok (base.encode x)
      by_cases hnull : base.encode x = .null
      · rw [hnull]
        rfl
      · rw [decode]
        · rw [hy]
          exact congrArg Except.ok hencode
        · exact hnull

end FieldType

theorem held?_column (types : TypeNames) (label : String) :
    types.held? label false = (FieldType.ofLabel? types.enumerations label).map .column := rfl

theorem jsonOfText_encode {t : FieldType} (h : t.base = .json ∨ t.base = .jsonb) (x : t.Carrier) :
    Codec.jsonOfText (t.encode x) = .ok (t.encode x) := by
  obtain ⟨base, optional⟩ := t
  rcases h with rfl | rfl <;> cases optional <;> first | rfl | (cases x <;> rfl)

theorem codec_decode {types : TypeNames} {label : String} {t : FieldType}
    (h : types.held? label false = some (.column t)) (x : t.Carrier) :
    (MappingContext.standard.codec label).decode (some (t.encode x)) = .ok (t.encode x) := by
  rw [held?_column] at h
  obtain ⟨spelled, hspelled, heq⟩ := Option.map_eq_some_iff.mp h
  cases heq
  change ((Codecs.standard.entries.lookup label).getD .passThrough).decode _ = _
  rcases hcodec : Codecs.standard.entries.lookup label with _ | codec
  · rfl
  · obtain ⟨before, after, hentries, -⟩ := List.lookup_eq_some_iff.mp hcodec
    have hmem : (label, codec) ∈ Codecs.standard.entries := hentries ▸ by simp
    simp only [Codecs.standard, List.map_cons, List.map_nil, List.mem_cons, Prod.mk.injEq,
      List.not_mem_nil, or_false] at hmem
    have hjson : codec = .json ∧ (t.base = .json ∨ t.base = .jsonb) := by
      rcases hmem with ⟨rfl, rfl⟩ | ⟨rfl, rfl⟩ | ⟨rfl, rfl⟩ | ⟨rfl, rfl⟩ <;> cases hspelled <;>
        simp [FieldType.required, FieldType.nullable]
    rw [Option.getD_some, hjson.1]
    exact jsonOfText_encode hjson.2 x

end RelationalMapping
