import RelationalMapping.Proofs.Sql.Positional
import RelationalMapping.Proofs.Sql.Segments
import RelationalMapping.Proofs.Sql.Written
import RelationalMapping.Query.Expression

namespace RelationalMapping

def Value.IsVoid : Value → Prop
  | .null | .json .null => True
  | _ => False

namespace Json

def Fits (items : List Json) (item : Json) : Prop :=
  match items with
  | [] | .string _ :: _ => item ≠ .null
  | .integer _ :: _ | .float _ :: _ => item = .null ∨ item.number?.isSome
  | _ => True

def HeldBy (item : Json) (v : Value) : Prop := v.IsVoid ↔ item = .null

def LostIn (item : Json) (v : Value) : Prop := item = .null ∧ v = .text "null" ∨ item ≠ .null ∧ v = .null

variable {item : Json}

theorem heldBy_text_iff : item.HeldBy (jsonItem "text" item) ↔ item ≠ .null := by
  have htext : ¬(jsonItem "text" item).IsVoid := by
    unfold jsonItem
    split
    · split <;> exact id
    · contradiction
  rw [HeldBy, iff_false_left htext]

theorem jsonItem_float8 (item : Json) : jsonItem "float8" item = (item.number?.map Value.float).getD .null := by
  unfold jsonItem
  rw [if_neg (by decide), if_pos rfl]
  cases item.number? <;> rfl

theorem heldBy_float8_iff : item.HeldBy (jsonItem "float8" item) ↔ item = .null ∨ item.number?.isSome := by
  rw [HeldBy, jsonItem_float8]
  cases h : item.number? with
  | some x =>
    have hitem : item ≠ .null := by
      rintro rfl
      cases h
    simp [Value.IsVoid, hitem]
  | none => simp [Value.IsVoid]

theorem heldBy_of_ne {elementType : String} (htext : elementType ≠ "text") (hnumber : elementType ≠ "float8") :
    item.HeldBy (jsonItem elementType item) := by
  unfold HeldBy jsonItem
  rw [if_neg htext, if_neg hnumber]
  cases item <;> simp [Value.IsVoid]

theorem heldBy_jsonItem_iff (items : List Json) (item : Json) :
    item.HeldBy (jsonItem (jsonElementType items) item) ↔ Fits items item := by
  have hjsonb : item.HeldBy (jsonItem "jsonb" item) := heldBy_of_ne (by decide) (by decide)
  cases items with
  | nil => exact heldBy_text_iff
  | cons first rest =>
    cases first with
    | string s => exact heldBy_text_iff
    | integer n => exact heldBy_float8_iff
    | float x => exact heldBy_float8_iff
    | null | bool | array | object => exact iff_of_true hjsonb trivial

theorem heldBy_or_lostIn (elementType : String) (item : Json) :
    item.HeldBy (jsonItem elementType item) ∨ item.LostIn (jsonItem elementType item) := by
  by_cases htext : elementType = "text"
  · subst htext
    by_cases hitem : item = .null
    · subst hitem
      exact .inr (.inl ⟨rfl, rfl⟩)
    · exact .inl (heldBy_text_iff.mpr hitem)
  · by_cases hnumber : elementType = "float8"
    · subst hnumber
      by_cases hheld : item = .null ∨ item.number?.isSome
      · exact .inl (heldBy_float8_iff.mpr hheld)
      · obtain ⟨hitem, hnone⟩ := not_or.mp hheld
        rw [Option.not_isSome_iff_eq_none] at hnone
        refine .inr (.inr ⟨hitem, ?_⟩)
        rw [jsonItem_float8, hnone, Option.map_none, Option.getD_none]
    · exact .inl (heldBy_of_ne htext hnumber)

def IsUniform : Json → Prop
  | .array items => ∀ item ∈ items, Fits items item
  | _ => True

/-- These parameters are null exactly where the document is: null is no parameter, and the items of an array stand in
an array one by one. -/
def KeptIn : Json → List Value → Prop
  | .null, parameters => parameters = []
  | .array items, parameters => ∃ elementType values,
    parameters = [.array elementType values] ∧ List.Forall₂ HeldBy items values
  | _, parameters => ∃ v, parameters = [v] ∧ ¬v.IsVoid

theorem operand_array (items : List Json) :
    ∃ values, (Json.array items).operand = .array (jsonElementType items) values
      ∧ List.Forall₂ (fun item v => (item.HeldBy v ↔ Fits items item) ∧ (item.HeldBy v ∨ item.LostIn v))
        items values := by
  refine ⟨_, rfl, ?_⟩
  rw [List.forall₂_map_right_iff, List.forall₂_same]
  exact fun item _ => ⟨heldBy_jsonItem_iff items item, heldBy_or_lostIn _ item⟩

theorem keptIn_parameters_iff (doc : Json) : doc.KeptIn doc.operand.parameters ↔ doc.IsUniform := by
  cases doc with
  | null => exact iff_of_true rfl trivial
  | bool b => exact iff_of_true ⟨.bool b, rfl, id⟩ trivial
  | integer n =>
    refine iff_of_true ?_ trivial
    rw [operand]
    split
    · exact ⟨.int _, rfl, id⟩
    · exact ⟨.float _, rfl, id⟩
  | float x => exact iff_of_true ⟨.float x, rfl, id⟩ trivial
  | string s => exact iff_of_true ⟨.text s, rfl, id⟩ trivial
  | object entries => exact iff_of_true ⟨.json (.object entries), rfl, id⟩ trivial
  | array items =>
    have hitems : List.Forall₂ HeldBy items (items.map (jsonItem (jsonElementType items)))
        ↔ ∀ item ∈ items, Fits items item := by
      rw [List.forall₂_map_right_iff, List.forall₂_same]
      exact forall₂_congr fun item _ => heldBy_jsonItem_iff items item
    refine Iff.trans ⟨?_, fun h => ⟨_, _, rfl, h⟩⟩ hitems
    rintro ⟨elementType, values, heq, hheld⟩
    cases heq
    exact hheld

end Json

theorem Json.resolve_operand (doc : Json) {p : Piece} (h : p ∈ doc.operand.pieces) : ∃ c, p.resolve = pure c := by
  have hvalue : ∀ v : Value, p ∈ (Expr.value v).pieces → ∃ c, p.resolve = pure c := by
    intro v hv
    rw [Expr.pieces, List.mem_singleton] at hv
    subst hv
    cases v <;> exact ⟨_, rfl⟩
  cases doc with
  | array items =>
    rw [operand, Expr.pieces, List.mem_singleton] at h
    subst h
    exact ⟨_, rfl⟩
  | _ => exact hvalue _ h

theorem Expr.resolve_jsonObject (entries : List (String × Json)) {p : Piece}
    (h : p ∈ (Expr.jsonObject (entries.map fun (key, doc) => ⟨key, doc.operand⟩)).pieces) :
    ∃ c, p.resolve = pure c := by
  rw [Expr.pieces, enclosed, listed, entryPieces_eq] at h
  simp only [List.mem_cons, List.mem_append, List.not_mem_nil, or_false, List.cons_append] at h
  rcases h with rfl | rfl | h | rfl
  · exact ⟨_, rfl⟩
  · exact ⟨_, rfl⟩
  · rcases mem_of_mem_separated h with rfl | ⟨pieces, hpieces, hp⟩
    · exact ⟨_, rfl⟩
    · simp only [List.map_map, List.mem_map, Function.comp_apply] at hpieces
      obtain ⟨⟨key, doc⟩, -, rfl⟩ := hpieces
      simp only [List.mem_cons] at hp
      rcases hp with rfl | rfl | hp
      · exact ⟨_, rfl⟩
      · exact ⟨_, rfl⟩
      · exact doc.resolve_operand hp
  · exact ⟨_, rfl⟩

theorem Expr.concatEntries_write (entries : List (String × Json)) :
    ∃ object : Fragment, (∀ e : Expr, (e.concatEntries entries).write = (·.push object) <$> e.write)
      ∧ object.values = entries.flatMap fun entry => entry.2.operand.parameters := by
  obtain ⟨chunks, hchunks⟩ := resolve_eq_pure fun _ => Expr.resolve_jsonObject entries
  let o := Expr.jsonObject (entries.map fun (key, doc) => ⟨key, doc.operand⟩)
  have hwrite : o.write = pure (Fragment.ofChunks chunks) := by
    rw [Expr.write, Expr.chunks, hchunks, pure_bind]
  refine ⟨Fragment.push ⟨" || ", []⟩ (.ofChunks chunks), fun e => ?_, ?_⟩
  · have hconcat : (e.concatEntries entries).write = do
        let f ← e.write
        let g ← (do return Fragment.push ⟨" || ", []⟩ (← o.write))
        return f.push g := by
      change written (e.pieces ++ .text " || " :: o.pieces) = _
      rw [written, writtenBy_append, writtenBy_text_cons resolve_text]
      rfl
    rw [hconcat, hwrite]
    simp only [pure_bind, map_eq_pure_bind]
  · have hvalues : (Fragment.ofChunks chunks).values = o.parameters := by
      have hok : ((Writable.expr o).write {}).1 = .ok (Fragment.ofChunks chunks) :=
        congrArg (fun x : Naming Fragment => (x {}).1) hwrite
      exact Writable.values_of_write hok
    rw [Fragment.push, List.nil_append, hvalues, Expr.parameters, entryParameters_eq, List.flatMap_map]

theorem Expr.concatEntries_keptIn_iff (items : List Json) (entries : List (String × Json)) :
    (∃ values, (Json.array items).operand = .array (jsonElementType items) values
        ∧ List.Forall₂ (fun item v => (item.HeldBy v ↔ Json.Fits items item) ∧ (item.HeldBy v ∨ item.LostIn v))
          items values)
      ∧ ∃ object : Fragment, (∀ e : Expr, (e.concatEntries entries).write = (·.push object) <$> e.write)
        ∧ object.values = entries.flatMap (fun entry => entry.2.operand.parameters)
        ∧ ∀ entry ∈ entries, entry.2.KeptIn entry.2.operand.parameters ↔ entry.2.IsUniform := by
  refine ⟨Json.operand_array items, ?_⟩
  obtain ⟨object, hwrite, hvalues⟩ := Expr.concatEntries_write entries
  exact ⟨object, hwrite, hvalues, fun entry _ => entry.2.keptIn_parameters_iff⟩

theorem Expr.concatEntries_lost :
    let texts := Json.array [.string "a", .null]
    let numbers := Json.array [.integer 1, .string "a"]
    texts.operand = .array "text" [.text "a", .text "null"]
      ∧ numbers.operand = .array "float8" [.float (Binary64.ofInt 1), .null]
      ∧ ¬texts.KeptIn texts.operand.parameters ∧ ¬numbers.KeptIn numbers.operand.parameters := by
  refine ⟨rfl, rfl, ?_, ?_⟩
  · rw [Json.keptIn_parameters_iff]
    exact fun h => h .null (by simp) rfl
  · rw [Json.keptIn_parameters_iff]
    intro h
    rcases h (.string "a") (by simp) with h | h <;> cases h

end RelationalMapping
