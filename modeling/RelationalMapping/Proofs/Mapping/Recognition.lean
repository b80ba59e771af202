import Mathlib.Data.List.Basic
import RelationalMapping.Proofs.Entity.Columns
import RelationalMapping.Proofs.Mapping.Matching
import RelationalMapping.Proofs.Sql.Memo

namespace RelationalMapping

namespace Text

/-- Whether lower case changes ASCII letters only. -/
def LowersInAscii (s : String) : Prop := ∀ c ∈ s.toList, c.toNat < 0x80 ∨ lowerChar c = [c]

instance (s : String) : Decidable (LowersInAscii s) := List.decidableBAll _ s.toList

theorem toLower_of_not_ascii {c : Char} (h : ¬c.toNat < 0x80) : c.toLower = c := by
  apply Char.toNat_inj.mp
  rw [toNat_toLower, if_neg (by omega)]

theorem toLower_ascii {c : Char} (h : c.toNat < 0x80) : c.toLower.toNat < 0x80 := by
  rw [toNat_toLower]
  split <;> omega

theorem lowerChar_ne_nil (c : Char) : lowerChar c ≠ [] := by
  unfold lowerChar
  split
  · nofun
  · split
    · nofun
    · split <;> nofun

end Text

theorem foldChars_of_notMem {cs : List Char} (h : '_' ∉ cs) : foldChars cs = cs.map Char.toLower := by
  refine List.filter_eq_self.mpr fun d hd => bne_iff_ne.mpr ?_
  obtain ⟨c, hc, rfl⟩ := List.mem_map.mp hd
  exact fun heq => h (Text.toLower_eq_underscore.mp heq ▸ hc)

theorem foldChars_lowerChar_of_not_ascii {c : Char} (h : ¬c.toNat < 0x80) :
    foldChars (Text.lowerChar c) = (Text.lowerChar c).map Char.toLower := by
  refine foldChars_of_notMem fun hmem => h ?_
  rw [← Text.eq_of_mem_lowerChar (by decide) hmem]
  decide

theorem foldChars_singleton_of_not_ascii {c : Char} (h : ¬c.toNat < 0x80) : foldChars [c] = [c] := by
  rw [foldChars_of_notMem, List.map_singleton, Text.toLower_of_not_ascii h]
  rintro hmem
  rw [← List.mem_singleton.mp hmem] at h
  exact h (by decide)

theorem foldChars_lowerChar_iff {c : Char} :
    foldChars (Text.lowerChar c) = foldChars [c] ↔ c.toNat < 0x80 ∨ Text.lowerChar c = [c] := by
  by_cases h : c.toNat < 0x80
  · exact iff_of_true (foldChars_lowerChar_of_ascii h) (.inl h)
  · rw [foldChars_lowerChar_of_not_ascii h, foldChars_singleton_of_not_ascii h, or_iff_right h]
    constructor
    · intro heq
      obtain ⟨d, hd, hlower⟩ := List.map_eq_singleton_iff.mp heq
      have hdc : d = c := by
        by_cases hascii : d.toNat < 0x80
        · exact absurd (hlower ▸ Text.toLower_ascii hascii) h
        · rw [← Text.toLower_of_not_ascii hascii, hlower]
      rw [hd, hdc]
    · intro heq
      rw [heq, List.map_singleton, Text.toLower_of_not_ascii h]

theorem length_foldChars_le (c : Char) : (foldChars [c]).length ≤ (foldChars (Text.lowerChar c)).length := by
  by_cases h : c.toNat < 0x80
  · exact Nat.le_of_eq (congrArg List.length (foldChars_lowerChar_of_ascii h).symm)
  · rw [foldChars_lowerChar_of_not_ascii h, foldChars_singleton_of_not_ascii h, List.length_map]
    exact List.length_pos_of_ne_nil (Text.lowerChar_ne_nil c)

theorem length_flatMap_le {α β : Type} {f g : α → List β} {items : List α}
    (h : ∀ a ∈ items, (g a).length ≤ (f a).length) : (items.flatMap g).length ≤ (items.flatMap f).length := by
  induction items with
  | nil => exact Nat.le_refl _
  | cons a rest ih =>
    rw [List.flatMap_cons, List.flatMap_cons, List.length_append, List.length_append]
    exact Nat.add_le_add (h a List.mem_cons_self) (ih fun b hb => h b (List.mem_cons_of_mem _ hb))

theorem flatMap_eq_iff {α β : Type} {f g : α → List β} {items : List α}
    (h : ∀ a ∈ items, (g a).length ≤ (f a).length) :
    items.flatMap f = items.flatMap g ↔ ∀ a ∈ items, f a = g a := by
  refine ⟨fun heq => ?_, List.flatMap_congr⟩
  induction items with
  | nil => nofun
  | cons a rest ih =>
    have hhead := h a List.mem_cons_self
    have hrest : ∀ b ∈ rest, (g b).length ≤ (f b).length := fun b hb => h b (List.mem_cons_of_mem _ hb)
    have htail := length_flatMap_le hrest
    rw [List.flatMap_cons, List.flatMap_cons] at heq
    have hlength := congrArg List.length heq
    rw [List.length_append, List.length_append] at hlength
    obtain ⟨ha, hflat⟩ := List.append_inj heq (by omega)
    exact List.forall_mem_cons.mpr ⟨ha, ih hrest hflat⟩

theorem folded_underscore_iff {s : String} : folded (Text.underscore s) = folded s ↔ Text.LowersInAscii s := by
  rw [folded_underscore_eq, folded_eq_foldChars, foldChars_eq_flatMap s.toList,
    flatMap_eq_iff fun c _ => length_foldChars_le c]
  exact forall₂_congr fun c _ => foldChars_lowerChar_iff

namespace Entity

variable {e : Entity} {f : FieldRef}

theorem accepts_column_iff (he : e.NamesColumnsOnce) (hf : e.Declares f) {names : Names}
    (hnames : names.Faithful (· = e)) (alias? : Option String) :
    MappingContext.standard.accepts (names.column ⟨⟨e, alias?⟩, f.name⟩).1 f.slotName = true
      ↔ f.override?.isSome ∨ Text.LowersInAscii f.name := by
  have hlabel : (names.column ⟨⟨e, alias?⟩, f.name⟩).1 = f.override?.getD (Text.underscore f.name) := by
    rw [(Names.column_faithful (unconfused_single e) hnames rfl).1, ownName_of_declares he hf]
  rw [hlabel, f.slotName_eq, standard_accepts_iff]
  cases f.override? with
  | some name => exact iff_of_true rfl (.inl rfl)
  | none => simpa using folded_underscore_iff

theorem accepts_column_small :
    let e := Entity.ofFields "Parcel" "Parcel" none
      [{ name := "größteLänge", label := "i32", holds := .column (.required (.element .int32)) }]
    let f := FieldRef.parameter ⟨"größteLänge", none, false, false, false, "i32", .column (.required (.element .int32))⟩
    e.NamesColumnsOnce ∧ e.Declares f ∧ (({} : Names).column ⟨⟨e, none⟩, f.name⟩).1 = "größte_länge"
      ∧ MappingContext.standard.accepts (({} : Names).column ⟨⟨e, none⟩, f.name⟩).1 f.slotName = true := by
  intro e f
  have honce : e.NamesColumnsOnce := namesColumnsOnce_ofFields "Parcel" "Parcel" none (by decide)
  have hdeclared : e.Declares f := by
    simp [e, f, Declares, Entity.ofFields, Field.parameter, HeldType.isOptional, FieldType.required]
  have hlower : Text.LowersInAscii f.name := by decide +kernel
  exact ⟨honce, hdeclared, by decide +kernel,
    (accepts_column_iff honce hdeclared (Names.faithful_empty _) none).mpr (.inr hlower)⟩

theorem accepts_column_capital :
    let e := Entity.ofFields "Stage" "Stage" none
      [{ name := "dateÉmission", label := "String", holds := .column (.required (.element .text)) }]
    let f := FieldRef.parameter ⟨"dateÉmission", none, false, false, false, "String", .column (.required (.element .text))⟩
    e.NamesColumnsOnce ∧ e.Declares f ∧ (({} : Names).column ⟨⟨e, none⟩, f.name⟩).1 = "dateémission"
      ∧ MappingContext.standard.accepts "dateémission" f.slotName = false := by
  intro e f
  have hdeclared : e.Declares f := by
    simp [e, f, Declares, Entity.ofFields, Field.parameter, HeldType.isOptional, FieldType.required]
  exact ⟨namesColumnsOnce_ofFields "Stage" "Stage" none (by decide), hdeclared, by decide +kernel, by decide +kernel⟩

end Entity

end RelationalMapping
