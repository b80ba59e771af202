import Mathlib.Algebra.Group.Int.Defs
import Mathlib.Data.List.Forall2
import Mathlib.Data.List.Nodup
import Mathlib.Data.Option.Basic
import RelationalMapping.Proofs.Value.RoundTrip

namespace RelationalMapping

theorem Binary32.eq_or_nan_of_widen_eq {x y : Binary32} (h : x.widen = y.widen) :
    x = y ∨ x.read = .nan ∧ y.read = .nan := by
  have hnan : ∀ z : Binary32, z.read = .nan → z.widen.narrow.read = .nan := by
    intro z hz
    rw [widen, hz]
    decide
  by_cases hx : x.read = .nan
  · refine .inr ⟨hx, ?_⟩
    by_contra hy
    exact hy (narrow_widen hy ▸ h ▸ hnan x hx)
  · by_cases hy : y.read = .nan
    · exact absurd (narrow_widen hx ▸ h.symm ▸ hnan y hy) hx
    · exact .inl (by rw [← narrow_widen hx, h, narrow_widen hy])

namespace ElementType

def Agree : (t : ElementType) → t.Carrier → t.Carrier → Prop
  | .float32, x, y => x = y ∨ x.read = .nan ∧ y.read = .nan
  | _, x, y => x = y

theorem agree_of_encode_eq {t : ElementType} {x y : t.Carrier} (h : t.encode x = t.encode y) : t.Agree x y := by
  cases t with
  | int16 =>
    have hword := congrArg Int64.toInt16 (Value.int.inj h)
    rw [Int16.toInt16_toInt64, Int16.toInt16_toInt64] at hword
    exact hword
  | int32 =>
    have hword := congrArg Int64.toInt32 (Value.int.inj h)
    rw [Int32.toInt32_toInt64, Int32.toInt32_toInt64] at hword
    exact hword
  | float32 => exact Binary32.eq_or_nan_of_widen_eq (Value.float.inj h)
  | bool => exact Value.bool.inj h
  | int64 => exact Value.int.inj h
  | float64 => exact Value.float.inj h
  | text => exact Value.text.inj h
  | uuid => exact Value.uuid.inj h
  | timestamp => exact Value.timestamp.inj h

theorem encode_ne_null (t : ElementType) (x : t.Carrier) : t.encode x ≠ .null := by
  cases t <;> nofun

end ElementType

namespace BaseType

/-- A native value is told from its encoding. Equal names of variants are not told apart, and of a field of any
value `NULL` is not told from absence. -/
def IsRecoverable : BaseType → Prop
  | .any => False
  | .enumeration e => e.variants.Nodup
  | _ => True

def Agree : (t : BaseType) → t.Carrier → t.Carrier → Prop
  | .element t, x, y => t.Agree x y
  | .list t, xs, ys => List.Forall₂ t.Agree xs ys
  | _, x, y => x = y

theorem forall₂_agree_of_encode_eq {t : ElementType} {xs ys : List t.Carrier}
    (h : xs.map t.encode = ys.map t.encode) : List.Forall₂ t.Agree xs ys := by
  induction xs generalizing ys with
  | nil =>
    cases ys with
    | nil => exact .nil
    | cons y ys => cases h
  | cons x xs ih =>
    cases ys with
    | nil => cases h
    | cons y ys =>
      obtain ⟨hhead, htail⟩ := List.cons_eq_cons.mp h
      exact .cons (ElementType.agree_of_encode_eq hhead) (ih htail)

theorem agree_of_encode_eq {t : BaseType} (ht : t.IsRecoverable) {x y : t.Carrier} (h : t.encode x = t.encode y) :
    t.Agree x y := by
  cases t with
  | element t => exact ElementType.agree_of_encode_eq h
  | list t => exact forall₂_agree_of_encode_eq (Value.array.inj h).2
  | enumeration e => exact List.nodup_iff_injective_get.mp ht (Value.text.inj h)
  | bytes => exact Value.blob.inj h
  | json => exact Value.json.inj h
  | jsonb => exact Value.json.inj h
  | geometry => exact Value.text.inj h
  | interval => exact Value.text.inj h
  | any => exact ht.elim

theorem encode_ne_null {t : BaseType} (ht : t.IsRecoverable) (x : t.Carrier) : t.encode x ≠ .null := by
  cases t with
  | element t => exact t.encode_ne_null x
  | any => exact ht.elim
  | _ => nofun

end BaseType

namespace FieldType

def Agree : (t : FieldType) → t.Carrier → t.Carrier → Prop
  | ⟨base, false⟩, x, y => base.Agree x y
  | ⟨base, true⟩, x, y => Option.Rel base.Agree x y

theorem agree_of_encode_eq {t : FieldType} (ht : t.base.IsRecoverable) {x y : t.Carrier} (h : t.encode x = t.encode y) :
    t.Agree x y := by
  obtain ⟨base, optional⟩ := t
  cases optional with
  | false => exact BaseType.agree_of_encode_eq ht h
  | true =>
    cases x with
    | none =>
      cases y with
      | none => exact .none
      | some y => exact absurd h.symm (BaseType.encode_ne_null ht y)
    | some x =>
      cases y with
      | none => exact absurd h (BaseType.encode_ne_null ht x)
      | some y => exact .some (BaseType.agree_of_encode_eq ht h)

theorem exists_decode_encode {t : FieldType} (ht : t.base.IsRecoverable) (x : t.Carrier) :
    ∃ y, t.decode (t.encode x) = .ok y ∧ t.Agree x y := by
  have hheld := t.hold_encode x
  rw [hold] at hheld
  rcases hdecoded : t.decode (t.encode x) with fault | y <;> rw [hdecoded] at hheld
  · cases hheld
  · exact ⟨y, rfl, agree_of_encode_eq ht (Except.ok.inj hheld).symm⟩

end FieldType

theorem fitsWord_iff {width : Nat} {n : Int} :
    fitsWord width n = true ↔ -2 ^ (width - 1) ≤ n ∧ n < 2 ^ (width - 1) := by
  simp [fitsWord, Nat.shiftLeft_eq]

namespace ElementType

def width? : ElementType → Option Nat
  | .int16 => some 16
  | .int32 => some 32
  | .int64 => some 64
  | _ => none

theorem decode_eq_ok_iff {t : ElementType} {v : Value} {x : t.Carrier} :
    t.decode v = .ok x ↔ t.decode? v = some x := by
  unfold decode
  cases t.decode? v <;> simp

theorem decode_int_iff {t : ElementType} {width : Nat} (ht : t.width? = some width) (n : Int64) :
    (∃ x, t.decode (.int n) = .ok x) ↔ -2 ^ (width - 1) ≤ n.toInt ∧ n.toInt < 2 ^ (width - 1) := by
  rw [← fitsWord_iff]
  simp only [decode_eq_ok_iff]
  cases t with
  | int16 =>
    cases ht
    simp [decode?]
  | int32 =>
    cases ht
    simp [decode?]
  | int64 =>
    cases ht
    exact iff_of_true ⟨n, rfl⟩ (fitsWord_iff.mpr ⟨n.le_toInt, n.toInt_lt⟩)
  | _ => cases ht

end ElementType

theorem FieldType.decode_int_iff {t : FieldType} {item : ElementType} {width : Nat} (ht : t.base = .element item)
    (hitem : item.width? = some width) (n : Int64) :
    (∃ x, t.decode (.int n) = .ok x) ↔ -2 ^ (width - 1) ≤ n.toInt ∧ n.toInt < 2 ^ (width - 1) := by
  obtain ⟨base, optional⟩ := t
  cases ht
  rw [← ElementType.decode_int_iff hitem]
  cases optional with
  | false => rfl
  | true =>
    change (∃ x, (item.decode (.int n)).map some = .ok x) ↔ _
    rcases item.decode (.int n) with fault | x <;> simp [Except.map]

namespace ElementType

/-- What decodes as this type is the encoding of one native value: no number is rounded and no text is read. -/
def IsLossless : ElementType → Prop
  | .bool | .int16 | .int32 | .int64 | .text => True
  | .float32 | .float64 | .uuid | .timestamp => False

theorem toInt64_toInt16 {n : Int64} (h : fitsWord 16 n.toInt = true) : n.toInt16.toInt64 = n := by
  obtain ⟨hlow, hhigh⟩ := fitsWord_iff.mp h
  apply Int64.toInt_inj.mp
  rw [Int16.toInt_toInt64, Int64.toInt_toInt16, Int.bmod_def]
  omega

theorem toInt64_toInt32 {n : Int64} (h : fitsWord 32 n.toInt = true) : n.toInt32.toInt64 = n := by
  obtain ⟨hlow, hhigh⟩ := fitsWord_iff.mp h
  apply Int64.toInt_inj.mp
  rw [Int32.toInt_toInt64, Int64.toInt_toInt32, Int.bmod_def]
  omega

theorem encode_of_decode {t : ElementType} (ht : t.IsLossless) {v : Value} {x : t.Carrier}
    (h : t.decode v = .ok x) : t.encode x = v := by
  rw [decode_eq_ok_iff] at h
  cases t with
  | bool =>
    cases v <;> cases h
    rfl
  | int16 =>
    cases v with
    | int n =>
      obtain ⟨hfits, hx⟩ := Option.ite_none_right_eq_some.mp h
      cases hx
      exact congrArg Value.int (toInt64_toInt16 hfits)
    | _ => cases h
  | int32 =>
    cases v with
    | int n =>
      obtain ⟨hfits, hx⟩ := Option.ite_none_right_eq_some.mp h
      cases hx
      exact congrArg Value.int (toInt64_toInt32 hfits)
    | _ => cases h
  | int64 =>
    cases v <;> cases h
    rfl
  | text =>
    cases v <;> cases h
    rfl
  | _ => exact ht.elim

end ElementType

namespace BaseType

def IsLossless : BaseType → Prop
  | .element t | .list t => t.IsLossless
  | .bytes => True
  | _ => False

def retype : BaseType → Value → Value
  | .list t, .array _ items => .array t.sqlName items
  | _, v => v

theorem encode_of_mapM_decode {t : ElementType} (ht : t.IsLossless) {items : List Value} {xs : List t.Carrier}
    (h : items.mapM t.decode = .ok xs) : xs.map t.encode = items := by
  induction items generalizing xs with
  | nil =>
    cases h
    rfl
  | cons v rest ih =>
    rw [List.mapM_cons] at h
    rcases hv : t.decode v with fault | x
    · rw [hv] at h
      cases h
    · rcases hrest : rest.mapM t.decode with fault | ys
      · rw [hv, hrest] at h
        cases h
      · rw [hv, hrest] at h
        cases h
        rw [List.map_cons, ElementType.encode_of_decode ht hv, ih hrest]

theorem encode_of_decode {t : BaseType} (ht : t.IsLossless) {v : Value} {x : t.Carrier}
    (h : t.decode v = .ok x) : t.encode x = t.retype v := by
  cases t with
  | element t => exact ElementType.encode_of_decode ht h
  | bytes =>
    cases v <;> cases h
    rfl
  | list t =>
    cases v with
    | array _ items => exact congrArg (Value.array t.sqlName) (encode_of_mapM_decode ht h)
    | _ => cases h
  | _ => exact ht.elim

end BaseType

namespace FieldType

theorem encode_of_decode {t : FieldType} (ht : t.base.IsLossless) {v : Value} {x : t.Carrier}
    (h : t.decode v = .ok x) : t.encode x = t.base.retype v := by
  obtain ⟨base, optional⟩ := t
  cases optional with
  | false => exact BaseType.encode_of_decode ht h
  | true =>
    by_cases hnull : v = .null
    · subst hnull
      cases h
      cases base <;> rfl
    · rw [decode] at h
      · rcases hbase : base.decode v with fault | y <;> rw [hbase] at h <;> cases h
        exact BaseType.encode_of_decode ht hbase
      · exact hnull

theorem decode_encode (t : FieldType) :
    (t.base.IsRecoverable → ∀ x, ∃ y, t.decode (t.encode x) = .ok y ∧ t.Agree x y)
      ∧ (∀ item width, t.base = .element item → item.width? = some width → ∀ n : Int64,
          (∃ x, t.decode (.int n) = .ok x) ↔ -2 ^ (width - 1) ≤ n.toInt ∧ n.toInt < 2 ^ (width - 1))
      ∧ (t.base.IsLossless → ∀ v x, t.decode v = .ok x → t.encode x = t.base.retype v) :=
  ⟨exists_decode_encode, fun _ _ => decode_int_iff, fun ht _ _ => encode_of_decode ht⟩

theorem decode_encode_columns :
    let status := nullable (.enumeration ⟨"Status", "Status", ["Active", "Suspended"]⟩)
    let word := required (.element .int16)
    let tags := required (.list .text)
    let v := Value.array "varchar" [.text "north"]
    status.base.IsRecoverable ∧ (∃ y, status.decode (status.encode (some 1)) = .ok y ∧ status.Agree (some 1) y)
      ∧ word.base = .element .int16 ∧ ElementType.int16.width? = some 16
      ∧ ((∃ x, word.decode (.int 32768) = .ok x)
        ↔ -2 ^ (16 - 1) ≤ (32768 : Int64).toInt ∧ (32768 : Int64).toInt < 2 ^ (16 - 1))
      ∧ tags.base.IsLossless ∧ tags.decode v = .ok ["north"]
      ∧ tags.encode ["north"] = .array "text" [.text "north"] := by
  intro status word tags v
  have hstatus : status.base.IsRecoverable := by
    change ["Active", "Suspended"].Nodup
    decide
  have htags : tags.decode v = .ok ["north"] := rfl
  exact ⟨hstatus, (decode_encode status).1 hstatus (some 1), rfl, rfl,
    (decode_encode word).2.1 .int16 16 rfl rfl 32768, trivial, htags,
    (decode_encode tags).2.2 trivial v ["north"] htags⟩

end FieldType

end RelationalMapping
