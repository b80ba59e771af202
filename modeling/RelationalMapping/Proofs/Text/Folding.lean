import Mathlib.Data.List.Basic
import RelationalMapping.Mapping.Matcher
import RelationalMapping.Proofs.Text.Sign

namespace RelationalMapping

namespace Text

theorem toNat_toLower (c : Char) :
    c.toLower.toNat = if 65 ≤ c.toNat ∧ c.toNat ≤ 90 then c.toNat + 32 else c.toNat := by
  unfold Char.toLower
  split
  · rename_i h
    have hlow := UInt32.le_iff_toNat_le.mp h.1
    have hhigh := UInt32.le_iff_toNat_le.mp h.2
    simp only [Char.toNat, UInt32.toNat_add] at *
    simp at hlow hhigh
    rw [if_pos ⟨hlow, hhigh⟩]
    simp
    omega
  · rename_i h
    rw [if_neg]
    rintro ⟨hlow, hhigh⟩
    exact h ⟨UInt32.le_iff_toNat_le.mpr hlow, UInt32.le_iff_toNat_le.mpr hhigh⟩

theorem toLower_toLower (c : Char) : c.toLower.toLower = c.toLower := by
  apply Char.toNat_inj.mp
  rw [toNat_toLower c.toLower, toNat_toLower c]
  by_cases h : 65 ≤ c.toNat ∧ c.toNat ≤ 90
  · rw [if_pos h, if_neg (by omega)]
  · rw [if_neg h, if_neg h]

theorem toLower_eq_underscore {c : Char} : c.toLower = '_' ↔ c = '_' :=
  ⟨eq_of_toLower_eq (by decide), by rintro rfl; rfl⟩

def IsAscii (s : String) : Prop := ∀ c ∈ s.toList, c.toNat < 0x80

instance (s : String) : Decidable (IsAscii s) :=
  decidable_of_iff (s.toList.all (·.toNat < 0x80) = true) (by simp [IsAscii])

theorem lowerChar_of_ascii {c : Char} (h : c.toNat < 0x80) : lowerChar c = [c.toLower] := by
  rw [lowerChar, if_pos h]

theorem lowerAfter_of_ascii {before cs : List Char} (h : ∀ c ∈ cs, c.toNat < 0x80) :
    lowerAfter before cs = cs.map Char.toLower := by
  induction cs generalizing before with
  | nil => rfl
  | cons c rest ih =>
    simp only [List.mem_cons, forall_eq_or_imp] at h
    have hsigma : c ≠ capitalSigma := by
      rintro rfl
      exact absurd h.1 (by decide)
    rw [lowerAfter, if_neg hsigma, lowerChar_of_ascii h.1, ih h.2]
    rfl

theorem toList_lowercase_of_ascii {s : String} (h : IsAscii s) :
    (lowercase s).toList = s.toList.map Char.toLower := by
  rw [lowercase, String.toList_ofList, lowerAfter_of_ascii h]

end Text

def folded (s : String) : List Char := (withoutUnderscores s).map Char.toLower

def foldChars (cs : List Char) : List Char := (cs.map Char.toLower).filter (· != '_')

@[simp] theorem foldChars_append (as bs : List Char) : foldChars (as ++ bs) = foldChars as ++ foldChars bs := by
  simp [foldChars]

theorem foldChars_eq_flatMap (cs : List Char) : foldChars cs = cs.flatMap fun c => foldChars [c] := by
  induction cs with
  | nil => rfl
  | cons c rest ih => rw [List.flatMap_cons, ← ih, ← foldChars_append, List.singleton_append]

theorem sameFolded_iff {as bs : List Char} :
    sameFolded as bs = true ↔ as.map Char.toLower = bs.map Char.toLower := by
  induction as generalizing bs with
  | nil => cases bs <;> simp [sameFolded]
  | cons a as ih =>
    cases bs with
    | nil => simp [sameFolded]
    | cons b bs => simp [sameFolded, Text.asciiFolds, ih]

theorem folded_eq_foldChars (s : String) : folded s = foldChars s.toList := by
  rw [folded, withoutUnderscores, foldChars, List.filter_map]
  congr 1
  apply List.filter_congr
  intro c _
  by_cases hc : c = '_'
  · simp [hc]
  · have hlower : c.toLower ≠ '_' := fun h => hc (Text.toLower_eq_underscore.mp h)
    change (c != '_') = (c.toLower != '_')
    rw [bne_iff_ne.mpr hc, bne_iff_ne.mpr hlower]

theorem foldChars_underscored (afterLower : Bool) (cs : List Char) :
    foldChars (Text.underscored afterLower cs) = cs.flatMap fun c => foldChars (Text.lowerChar c) := by
  induction cs generalizing afterLower with
  | nil => rfl
  | cons c rest ih =>
    have hmark : foldChars (if afterLower && c.isUpper then ['_'] else []) = [] := by
      split <;> rfl
    rw [Text.underscored, foldChars_append, foldChars_append, hmark, ih, List.nil_append, List.flatMap_cons]

theorem folded_underscore_eq (s : String) :
    folded (Text.underscore s) = s.toList.flatMap fun c => foldChars (Text.lowerChar c) := by
  rw [folded_eq_foldChars, Text.underscore, String.toList_ofList, foldChars_underscored]

theorem foldChars_lowerChar_of_ascii {c : Char} (h : c.toNat < 0x80) :
    foldChars (Text.lowerChar c) = foldChars [c] := by
  rw [Text.lowerChar_of_ascii h, foldChars, foldChars, List.map_singleton, List.map_singleton,
    Text.toLower_toLower]

theorem folded_underscore {s : String} (h : Text.IsAscii s) : folded (Text.underscore s) = folded s := by
  rw [folded_underscore_eq, folded_eq_foldChars, foldChars_eq_flatMap]
  exact List.flatMap_congr fun c hc => foldChars_lowerChar_of_ascii (h c hc)

theorem isAscii_underscore {s : String} (h : Text.IsAscii s) : Text.IsAscii (Text.underscore s) := by
  have hchars : ∀ (cs : List Char) (afterLower : Bool), (∀ c ∈ cs, c.toNat < 0x80) →
      ∀ c ∈ Text.underscored afterLower cs, c.toNat < 0x80 := by
    intro cs
    induction cs with
    | nil => simp [Text.underscored]
    | cons c rest ih =>
      intro afterLower hcs d hd
      simp only [List.mem_cons, forall_eq_or_imp] at hcs
      rw [Text.underscored, Text.lowerChar_of_ascii hcs.1] at hd
      simp only [List.mem_append, List.mem_singleton] at hd
      rcases hd with (hd | rfl) | hd
      · split at hd
        · rw [List.mem_singleton.mp hd]
          decide
        · simp at hd
      · rw [Text.toNat_toLower]
        split <;> omega
      · exact ih _ hcs.2 d hd
  intro c hc
  rw [Text.underscore, String.toList_ofList] at hc
  exact hchars s.toList false h c hc

theorem folded_eq_of_lowercase_eq {s t : String} (hs : Text.IsAscii s) (ht : Text.IsAscii t)
    (h : Text.lowercase s = Text.lowercase t) : folded s = folded t := by
  rw [folded_eq_foldChars, folded_eq_foldChars, foldChars, foldChars, ← Text.toList_lowercase_of_ascii hs, h,
    Text.toList_lowercase_of_ascii ht]

end RelationalMapping
