import RelationalMapping.Text.Quoted
import RelationalMapping.Text.Underscore

namespace RelationalMapping.Text

def IsSign (d : Char) : Prop := 0x20 ≤ d.toNat ∧ d.toNat < 0x41

instance (d : Char) : Decidable (IsSign d) := inferInstanceAs (Decidable (_ ∧ _))

def IsCaseless (d : Char) : Prop := IsSign d ∨ (0x5B ≤ d.toNat ∧ d.toNat < 0x61)

instance (d : Char) : Decidable (IsCaseless d) := inferInstanceAs (Decidable (_ ∨ _))

theorem IsSign.isCaseless {d : Char} (h : IsSign d) : IsCaseless d := .inl h

theorem lowerRuns_above_caseless : ∀ r ∈ lowerRuns, 0x61 ≤ (r.first : Int) + r.delta := by
  decide +kernel

theorem not_isCaseless_ofNat {n : Nat} (h : 0x61 ≤ n) : ¬ IsCaseless (Char.ofNat n) := by
  unfold IsCaseless IsSign
  by_cases hn : n.isValidChar
  · have hnat : (Char.ofNat n).toNat = n := by
      rw [Char.ofNat, dif_pos hn]
      rfl
    omega
  · have hnat : (Char.ofNat n).toNat = 0 := by
      rw [Char.ofNat, dif_neg hn]
      rfl
    omega

theorem eq_of_toLower_eq {c d : Char} (hd : IsCaseless d) (h : c.toLower = d) : c = d := by
  subst h
  unfold Char.toLower at hd ⊢
  split at hd
  · rename_i hc
    have hlow := UInt32.le_iff_toNat_le.mp hc.1
    have hhigh := UInt32.le_iff_toNat_le.mp hc.2
    simp only [IsCaseless, IsSign, Char.toNat, UInt32.toNat_add] at hd
    simp at hlow hhigh hd
    omega
  · rename_i hc
    rw [dif_neg hc]

theorem eq_of_mem_lowerChar {c d : Char} (hd : IsCaseless d) (h : d ∈ lowerChar c) : d = c := by
  unfold lowerChar at h
  split at h
  · exact (eq_of_toLower_eq hd (List.mem_singleton.mp h).symm).symm
  · split at h
    · rcases List.mem_cons.mp h with rfl | h
      · exact absurd hd (by decide)
      · rw [List.mem_singleton.mp h] at hd
        exact absurd hd (not_isCaseless_ofNat (by decide))
    · split at h
      · rename_i run hrun
        have hlow := lowerRuns_above_caseless run (List.mem_of_find?_eq_some hrun)
        have hholds := List.find?_some hrun
        simp only [CaseRun.holds, Bool.and_eq_true, decide_eq_true_eq] at hholds
        rw [List.mem_singleton.mp h] at hd
        exact absurd hd (not_isCaseless_ofNat (by omega))
      · exact List.mem_singleton.mp h

theorem mem_of_mem_underscored {d : Char} (hd : IsSign d) {afterLower : Bool} {cs : List Char}
    (h : d ∈ underscored afterLower cs) : d ∈ cs := by
  induction cs generalizing afterLower with
  | nil => simp [underscored] at h
  | cons c rest ih =>
    simp only [underscored, List.mem_append] at h
    rcases h with (h | h) | h
    · split at h
      · rw [List.mem_singleton.mp h] at hd
        exact absurd hd.2 (by decide)
      · simp at h
    · rw [eq_of_mem_lowerChar hd.isCaseless h]
      exact List.mem_cons_self
    · exact List.mem_cons_of_mem _ (ih h)

theorem mem_of_mem_underscore {d : Char} (hd : IsSign d) {name : String}
    (h : d ∈ (underscore name).toList) : d ∈ name.toList := by
  rw [underscore, String.toList_ofList] at h
  exact mem_of_mem_underscored hd h

theorem mem_of_mem_doubleQuotes {d : Char} {cs : List Char} (h : d ∈ doubleQuotes cs) : d ∈ cs := by
  induction cs with
  | nil => simp [doubleQuotes] at h
  | cons c rest ih =>
    simp only [doubleQuotes] at h
    split at h
    · rename_i hc
      rcases List.mem_cons.mp h with rfl | h
      · simp [hc]
      · rcases List.mem_cons.mp h with rfl | h
        · simp [hc]
        · exact List.mem_cons_of_mem _ (ih h)
    · rcases List.mem_cons.mp h with rfl | h
      · exact List.mem_cons_self
      · exact List.mem_cons_of_mem _ (ih h)

theorem mem_of_mem_quoteLiteral {d : Char} (hd : d ≠ literalQuote) {text : String}
    (h : d ∈ (quoteLiteral text).toList) : d ∈ text.toList := by
  simp only [quoteLiteral, String.toList_ofList, List.cons_append, List.mem_cons, List.mem_append,
    List.not_mem_nil, or_false, hd, false_or] at h
  exact mem_of_mem_doubleQuotes h

theorem toList_quoteIdentifier (name : String) :
    (quoteIdentifier name).toList = identifierQuote :: name.toList ++ [identifierQuote] := by
  simp [quoteIdentifier]

theorem mem_of_mem_quoteIdentifier {d : Char} (hd : d ≠ identifierQuote) {name : String}
    (h : d ∈ (quoteIdentifier name).toList) : d ∈ name.toList := by
  simpa [toList_quoteIdentifier, hd] using h

end RelationalMapping.Text
