import RelationalMapping.Sql.Statement

namespace RelationalMapping

def isWordingCharacter (c : Char) : Bool :=
  c.isAlphanum || [' ', '(', ')', ',', '.', ':', '*', '/', '%', '^', '+', '-', '=', '<', '>', '!', '@', '&',
    '|', '~', '_'].contains c

def isWording (s : String) : Bool := s.toList.all isWordingCharacter

theorem isWording_append {s t : String} (hs : isWording s = true) (ht : isWording t = true) :
    isWording (s ++ t) = true := by
  simp only [isWording, String.toList_append, List.all_append, Bool.and_eq_true] at *
  exact ⟨hs, ht⟩

theorem isWording_toString (n : Nat) : isWording (toString n) = true := by
  rw [isWording, Nat.toString_eq_ofList_toDigits, String.toList_ofList, List.all_eq_true]
  intro c hc
  have hdigit : c.isDigit = true := Nat.isDigit_of_mem_toDigits (by decide) (by decide) hc
  simp [isWordingCharacter, Char.isAlphanum, hdigit]

def Piece.IsWorded : Piece → Prop
  | .text s => isWording s = true
  | _ => True

def Worded (pieces : List Piece) : Prop := ∀ p ∈ pieces, p.IsWorded

@[simp] theorem worded_nil : Worded [] := by simp [Worded]

@[simp] theorem worded_cons {p : Piece} {pieces : List Piece} :
    Worded (p :: pieces) ↔ p.IsWorded ∧ Worded pieces := by simp [Worded]

@[simp] theorem worded_append {pieces others : List Piece} :
    Worded (pieces ++ others) ↔ Worded pieces ∧ Worded others := by
  simp [Worded, or_imp, forall_and]

@[simp] theorem isWorded_text {s : String} : (Piece.text s).IsWorded ↔ isWording s = true := Iff.rfl

end RelationalMapping
