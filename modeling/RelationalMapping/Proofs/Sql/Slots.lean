import Mathlib.Data.List.Forall2
import RelationalMapping.Sql.Statement

namespace RelationalMapping

namespace Text

theorem asciiNumber?_toString (n : Nat) : asciiNumber? (toString n).toList = some n := by
  have hfold : ∀ (cs : List Char) (total : Nat), (∀ c ∈ cs, c.isDigit = true) →
      cs.foldl
        (fun total c =>
          total.bind fun n => if c.isDigit then some (n * 10 + (c.toNat - '0'.toNat)) else none)
        (some total) = some (Nat.ofDigitChars 10 cs total) := by
    intro cs
    induction cs with
    | nil => exact fun _ _ => rfl
    | cons c rest ih =>
      intro total h
      simp only [List.mem_cons, forall_eq_or_imp] at h
      rw [List.foldl_cons, Option.bind_some, if_pos h.1, ih _ h.2, Nat.ofDigitChars_cons, Nat.mul_comm]
  rw [Nat.toString_eq_repr, Nat.toList_repr, asciiNumber?, if_neg (by simp [Nat.toDigits_ne_nil]),
    hfold _ _ fun c hc => Nat.isDigit_of_mem_toDigits (by decide) (by decide) hc,
    Nat.ofDigitChars_ten_toDigits]

theorem afterStart?_append (start text : List Char) : afterStart? start (start ++ text) = some text := by
  induction start with
  | nil => cases text <;> rfl
  | cons c rest ih => rw [List.cons_append, afterStart?, if_pos rfl, ih]

theorem toNat_lt_of_isDigit {c : Char} (h : c.isDigit = true) : c.toNat < 0x80 := by
  have hhigh := UInt32.le_iff_toNat_le.mp (of_decide_eq_true (Bool.and_eq_true_iff.mp h).2)
  change c.toNat ≤ 57 at hhigh
  omega

theorem toNat_lt_of_isAlphanum {c : Char} (h : c.isAlphanum = true) : c.toNat < 0x80 := by
  rcases Bool.or_eq_true_iff.mp h with hletter | hdigit
  · rcases Bool.or_eq_true_iff.mp hletter with hupper | hlower
    · have hhigh := UInt32.le_iff_toNat_le.mp (of_decide_eq_true hupper).2
      change c.toNat ≤ 90 at hhigh
      omega
    · have hhigh := UInt32.le_iff_toNat_le.mp (of_decide_eq_true (Bool.and_eq_true_iff.mp hlower).2)
      change c.toNat ≤ 122 at hhigh
      omega
  · exact toNat_lt_of_isDigit hdigit

theorem isDecimalDigit_of_mem_toString {n : Nat} {c : Char} (h : c ∈ (toString n).toList) :
    isDecimalDigit c = true := by
  rw [Nat.toString_eq_repr, Nat.toList_repr] at h
  have hdigit := Nat.isDigit_of_mem_toDigits (by decide) (by decide) h
  rw [isDecimalDigit, if_pos (toNat_lt_of_isDigit hdigit), hdigit]

end Text

def Apart (text : List Char) : Prop := ∀ c ∈ text.head?, Text.isWordCharacter c = false

def IsWord (name : String) : Prop := name ≠ "" ∧ ∀ c ∈ name.toList, Text.isWordCharacter c = true

instance (name : String) : Decidable (IsWord name) :=
  have : Decidable (∀ c ∈ name.toList, Text.isWordCharacter c = true) := List.decidableBAll _ _
  inferInstanceAs (Decidable (_ ∧ _))

namespace SlotToken

def slots : SlotToken → List Slot
  | .char _ => []
  | .slot s => [s]

def filled (mark : String) : SlotToken → String
  | .char c => c.toString
  | .slot _ => mark

end SlotToken

def Reads (table : List Char) (mark text : String) (slots : List Slot) (filled : String) : Prop :=
  ∃ tokens : List SlotToken, tokens.flatMap (·.slots) = slots ∧ String.join (tokens.map (·.filled mark)) = filled
    ∧ ∀ rest, Apart rest → slotTokens table 0 (text.toList ++ rest) = tokens ++ slotTokens table 0 rest

variable {table : List Char} {mark : String}

theorem read?_of_ne {c : Char} {rest : List Char} (h : c ≠ '#') : Slot.read? table (c :: rest) = none := by
  rw [Slot.read?, Text.afterStart?, if_neg (Ne.symm h)]
  rfl

theorem slotTokens_text_append {text : List Char} (h : '#' ∉ text) (rest : List Char) :
    slotTokens table 0 (text ++ rest) = text.map .char ++ slotTokens table 0 rest := by
  induction text with
  | nil => rfl
  | cons c text ih =>
    simp only [List.mem_cons, not_or] at h
    rw [List.cons_append, slotTokens, read?_of_ne (Ne.symm h.1), List.map_cons, List.cons_append, ih h.2]

theorem filled_chars (text : List Char) :
    String.join ((text.map SlotToken.char).map (·.filled mark)) = String.ofList text := by
  induction text with
  | nil => rfl
  | cons c text ih =>
    rw [List.map_cons, List.map_cons, String.join_cons, ih, SlotToken.filled]
    simp

theorem reads_text {text : String} (h : '#' ∉ text.toList) : Reads table mark text [] text := by
  refine ⟨text.toList.map .char, by simp [List.flatMap_map, SlotToken.slots], ?_, fun rest _ => ?_⟩
  · rw [filled_chars, String.ofList_toList]
  · exact slotTokens_text_append h rest

theorem slotTokens_skip (table text rest : List Char) :
    slotTokens table text.length (text ++ rest) = slotTokens table 0 rest := by
  induction text with
  | nil => rfl
  | cons c text ih => rw [List.length_cons, List.cons_append, slotTokens, ih]

theorem reads_text_append {text other filled : String} {slots : List Slot} (h : '#' ∉ text.toList)
    (hother : Reads table mark other slots filled) : Reads table mark (text ++ other) slots (text ++ filled) := by
  obtain ⟨tokens, rfl, rfl, hread⟩ := hother
  refine ⟨text.toList.map .char ++ tokens, by simp [List.flatMap_map, SlotToken.slots], ?_, fun rest hrest => ?_⟩
  · rw [List.map_append, String.join_append, filled_chars, String.ofList_toList]
  · rw [String.toList_append, List.append_assoc, slotTokens_text_append h, hread rest hrest, List.append_assoc]

theorem reads_append {text other filled filled' : String} {slots slots' : List Slot}
    (h : Reads table mark text slots filled) (hother : Reads table mark other slots' filled')
    (hapart : Apart other.toList) :
    Reads table mark (text ++ other) (slots ++ slots') (filled ++ filled') := by
  obtain ⟨tokens, rfl, rfl, hread⟩ := h
  obtain ⟨tokens', rfl, rfl, hread'⟩ := hother
  refine ⟨tokens ++ tokens', List.flatMap_append, by rw [List.map_append, String.join_append], fun rest hrest => ?_⟩
  have hboth : Apart (other.toList ++ rest) := by
    cases hchars : other.toList with
    | nil => exact hrest
    | cons c chars =>
      rw [hchars] at hapart
      exact hapart
  rw [String.toList_append, List.append_assoc, hread _ hboth, hread' rest hrest, List.append_assoc]

theorem read?_append {digits property rest : List Char} (hrow : digits ≠ []) (hproperty : property ≠ [])
    (hdigits : ∀ c ∈ digits, Text.isDecimalDigit c = true)
    (hword : ∀ c ∈ property, Text.isWordCharacter c = true) (hrest : Apart rest) :
    Slot.read? table ('#' :: table ++ (digits ++ '.' :: (property ++ rest))) = some ⟨digits, property⟩ := by
  have hdot : Text.isDecimalDigit '.' = false := by decide
  have htake : (digits ++ '.' :: (property ++ rest)).takeWhile Text.isDecimalDigit = digits := by
    rw [List.takeWhile_append_of_pos hdigits, List.takeWhile_cons, hdot, if_neg (by decide), List.append_nil]
  have hdrop : (digits ++ '.' :: (property ++ rest)).dropWhile Text.isDecimalDigit
      = '.' :: (property ++ rest) := by
    rw [List.dropWhile_append_of_pos hdigits, List.dropWhile_cons, hdot, if_neg (by decide)]
  have hdotted : Text.afterStart? ['.'] ('.' :: (property ++ rest)) = some (property ++ rest) :=
    Text.afterStart?_append ['.'] _
  have hstop : rest.takeWhile Text.isWordCharacter = [] := by
    cases rest with
    | nil => rfl
    | cons c rest => rw [List.takeWhile_cons, hrest c rfl, if_neg (by decide)]
  have hname : (property ++ rest).takeWhile Text.isWordCharacter = property := by
    rw [List.takeWhile_append_of_pos hword, hstop, List.append_nil]
  rw [Slot.read?, Text.afterStart?_append]
  simp only [Option.bind_eq_bind, Option.bind_some, htake, hdrop, hdotted, hname]
  rw [if_neg (by simp [hrow, hproperty])]

def slotAt (row : Nat) (property : String) : Slot := ⟨(toString row).toList, property.toList⟩

theorem reads_slot (name : String) (row : Nat) {property : String} (h : IsWord property) :
    Reads name.toList mark (slotText name row property) [slotAt row property] mark := by
  refine ⟨[.slot (slotAt row property)], rfl, by simp [SlotToken.filled], fun rest hrest => ?_⟩
  have htext : (slotText name row property).toList ++ rest
      = '#' :: name.toList ++ ((toString row).toList ++ '.' :: (property.toList ++ rest)) := by
    simp [slotText]
  have hrow : (toString row).toList ≠ [] := by
    rw [Nat.toString_eq_repr, Nat.toList_repr]
    exact Nat.toDigits_ne_nil
  have hproperty : property.toList ≠ [] := fun hnil => h.1 (String.toList_eq_nil_iff.mp hnil)
  have hread : Slot.read? name.toList
      ('#' :: name.toList ++ ((toString row).toList ++ '.' :: (property.toList ++ rest)))
        = some (slotAt row property) :=
    read?_append hrow hproperty (fun c hc => Text.isDecimalDigit_of_mem_toString hc) h.2 hrest
  have hlength : (slotAt row property).length name.toList - 1
      = (name.toList ++ ((toString row).toList ++ '.' :: property.toList)).length := by
    simp only [Slot.length, slotAt, List.length_append, List.length_cons]
    omega
  have hskip := slotTokens_skip name.toList
    (name.toList ++ ((toString row).toList ++ '.' :: property.toList)) rest
  rw [htext, List.cons_append, slotTokens, ← List.cons_append, hread]
  simp only [hlength]
  rw [show name.toList ++ ((toString row).toList ++ '.' :: (property.toList ++ rest))
    = name.toList ++ ((toString row).toList ++ '.' :: property.toList) ++ rest by simp, hskip]
  rfl

theorem reads_intercalate {α : Type} {items : List α} {text filled : α → String} {slots : α → List Slot}
    (h : ∀ x ∈ items, Reads table mark (text x) (slots x) (filled x)) :
    Reads table mark (", ".intercalate (items.map text)) (items.flatMap slots)
      (", ".intercalate (items.map filled)) := by
  induction items with
  | nil => exact reads_text (by simp)
  | cons x rest ih =>
    simp only [List.mem_cons, forall_eq_or_imp] at h
    by_cases hrest : rest = []
    · rw [hrest]
      simpa using h.1
    · have hcomma : '#' ∉ (", " : String).toList := by decide
      rw [List.map_cons, List.map_cons, String.intercalate_cons_of_ne_nil (by simpa using hrest),
        String.intercalate_cons_of_ne_nil (by simpa using hrest), String.append_assoc, String.append_assoc,
        List.flatMap_cons]
      refine reads_append h.1 (reads_text_append hcomma (ih h.2)) ?_
      rw [String.toList_append]
      intro c hc
      cases hc
      decide

def insertValues (place : Nat → InsertField → String) (fields : List InsertField) (count : Nat) : String :=
  " VALUES " ++ ", ".intercalate ((List.range count).map fun row =>
    "(" ++ ", ".intercalate (fields.map (place row)) ++ ")")

def rowSlots (fields : List InsertField) (row : Nat) : List Slot :=
  fields.map fun f => slotAt row f.property

theorem reads_row (name mark : String) {fields : List InsertField} (h : ∀ f ∈ fields, IsWord f.property) (row : Nat) :
    Reads name.toList mark ("(" ++ ", ".intercalate (fields.map fun f => slotText name row f.property) ++ ")")
      (rowSlots fields row) ("(" ++ ", ".intercalate (fields.map fun _ => mark) ++ ")") := by
  have hslots : Reads name.toList mark (", ".intercalate (fields.map fun f => slotText name row f.property))
      (fields.flatMap fun f => [slotAt row f.property]) (", ".intercalate (fields.map fun _ => mark)) :=
    reads_intercalate fun f hf => reads_slot name row (h f hf)
  have hclose : Reads name.toList mark ")" [] ")" := reads_text (by decide)
  have hapart : Apart (")" : String).toList := by
    intro c hc
    cases hc
    decide
  have hrow := reads_append hslots hclose hapart
  rw [List.append_nil, ← List.map_eq_flatMap] at hrow
  rw [String.append_assoc, String.append_assoc]
  exact reads_text_append (by decide) hrow

theorem reads_insert (name mark : String) {fields : List InsertField} (h : ∀ f ∈ fields, IsWord f.property)
    {header tail : String} (hheader : '#' ∉ header.toList) (htail : '#' ∉ tail.toList) (hapart : Apart tail.toList)
    (count : Nat) :
    Reads name.toList mark (header ++ (insertValues (fun row f => slotText name row f.property) fields count ++ tail))
      ((List.range count).flatMap (rowSlots fields))
      (header ++ (insertValues (fun _ _ => mark) fields count ++ tail)) := by
  have hrows := reads_append (reads_intercalate fun row (_ : row ∈ List.range count) => reads_row name mark h row)
    (reads_text htail) hapart
  rw [List.append_nil] at hrows
  rw [insertValues, insertValues, String.append_assoc, String.append_assoc]
  exact reads_text_append hheader (reads_text_append (by decide) hrows)

theorem value_slots {e : Entity} {fields : List InsertField} {values : Instance → List Value}
    {rows : List Instance}
    (h : ∀ i ∈ rows, List.Forall₂ (fun f v => e.storedValue? i f.property = some v) fields (values i)) :
    List.Forall₂ (fun s v => Slot.value e rows s = .ok v)
      ((List.range rows.length).flatMap (rowSlots fields)) (rows.flatMap values) := by
  have hfrom : ∀ before after, rows = before ++ after →
      List.Forall₂ (fun s v => Slot.value e rows s = .ok v)
        ((List.range' before.length after.length).flatMap (rowSlots fields)) (after.flatMap values) := by
    intro before after
    induction after generalizing before with
    | nil => exact fun _ => .nil
    | cons i after ih =>
      intro hrows
      have hrow : rows[before.length]? = some i := by simp [hrows]
      have hnext := ih (before ++ [i]) (by simp [hrows])
      rw [List.length_append, List.length_singleton] at hnext
      rw [List.length_cons, List.range'_succ, List.flatMap_cons, List.flatMap_cons]
      refine List.rel_append ?_ hnext
      refine List.forall₂_map_left_iff.mpr ((h i (by simp [hrows])).imp fun f v hvalue => ?_)
      simp only [Slot.value, slotAt, Text.asciiNumber?_toString, Option.bind_some, hrow,
        String.ofList_toList, hvalue]
  have hall := hfrom [] rows rfl
  rwa [List.length_nil, ← List.range_eq_range'] at hall

theorem intercalate_empty (texts : List String) : "".intercalate texts = String.join texts := by
  induction texts with
  | nil => rfl
  | cons s rest ih =>
    by_cases hrest : rest = []
    · simp [hrest]
    · rw [String.intercalate_cons_of_ne_nil hrest, ih, String.join_cons, String.append_empty]

theorem bind_tokens {e : Entity} {rows : List Instance} {tokens : List SlotToken} {values : List Value}
    (h : List.Forall₂ (fun s v => Slot.value e rows s = .ok v) (tokens.flatMap (·.slots)) values) :
    ∃ parts, tokens.mapM (·.bind e mark rows) = .ok parts ∧ parts.flatMap (·.values) = values
      ∧ parts.map (·.sql) = tokens.map (·.filled mark) := by
  induction tokens generalizing values with
  | nil =>
    cases h
    exact ⟨[], rfl, rfl, rfl⟩
  | cons token rest ih =>
    cases token with
    | char c =>
      obtain ⟨parts, hparts, hvalues, hsql⟩ := ih h
      refine ⟨⟨c.toString, []⟩ :: parts, ?_, hvalues, congrArg (c.toString :: ·) hsql⟩
      rw [List.mapM_cons, hparts]
      rfl
    | slot s =>
      cases h with
      | cons hvalue hrest =>
        rename_i v values
        obtain ⟨parts, hparts, hvalues, hsql⟩ := ih hrest
        refine ⟨⟨mark, [v]⟩ :: parts, ?_, congrArg (v :: ·) hvalues, congrArg (mark :: ·) hsql⟩
        rw [List.mapM_cons, SlotToken.bind, hvalue, hparts]
        rfl

theorem InsertStatement.bind_of_tokens {s : InsertStatement} {e : Entity} {tokens : List SlotToken}
    {values : List Value} (htokens : slotTokens s.table.toList 0 s.sql.toList = tokens)
    (hvalues : List.Forall₂ (fun slot v => Slot.value e s.rows slot = .ok v)
      (tokens.flatMap (·.slots)) values) :
    s.bind e = .ok ⟨String.join (tokens.map (·.filled s.mark)), values ++ s.values⟩ := by
  obtain ⟨parts, hparts, rfl, hsql⟩ := bind_tokens hvalues
  have hjoined : (Fragment.join "" parts).push ⟨"", s.values⟩
      = ⟨String.join (tokens.map (·.filled s.mark)), parts.flatMap (·.values) ++ s.values⟩ := by
    rw [Fragment.join, Fragment.push, hsql, intercalate_empty, String.append_empty]
  rw [bind, htokens, hparts, ← hjoined]
  rfl

theorem InsertStatement.bind_reads {s : InsertStatement} {e : Entity} {slots : List Slot} {filled : String}
    {values : List Value} (hreads : Reads s.table.toList s.mark s.sql slots filled)
    (hvalues : List.Forall₂ (fun slot v => Slot.value e s.rows slot = .ok v) slots values) :
    s.bind e = .ok ⟨filled, values ++ s.values⟩ := by
  obtain ⟨tokens, rfl, rfl, hread⟩ := hreads
  have htokens : slotTokens s.table.toList 0 s.sql.toList = tokens := by
    simpa [slotTokens] using hread [] (by simp [Apart])
  exact bind_of_tokens htokens hvalues

end RelationalMapping
