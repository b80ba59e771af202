import RelationalMapping.Proofs.Text.Sign

namespace RelationalMapping.Text

def IsQuote (c : Char) : Prop := c = literalQuote ∨ c = identifierQuote

instance (c : Char) : Decidable (IsQuote c) := inferInstanceAs (Decidable (_ ∨ _))

def Quoteless (text : String) : Prop := ∀ c ∈ text.toList, ¬ IsQuote c

instance (text : String) : Decidable (Quoteless text) := List.decidableBAll _ text.toList

inductive Lexeme where
  | char (c : Char)
  | quoted (quote : Char) (content : List Char)
  | unended (quote : Char)
  deriving DecidableEq, Repr

/-- Where a scan stands. After a quote inside a token it remains open whether the token has ended. -/
inductive Place where
  | outside
  | inside (quote : Char) (content : List Char)
  | closing (quote : Char) (content : List Char)

def scanFrom : Place → List Char → List Lexeme
  | .outside, [] => []
  | .inside quote _, [] => [.unended quote]
  | .closing quote content, [] => [.quoted quote content]
  | .outside, c :: rest =>
    if IsQuote c then scanFrom (.inside c []) rest else .char c :: scanFrom .outside rest
  | .inside quote content, c :: rest =>
    if c = quote then scanFrom (.closing quote content) rest
    else scanFrom (.inside quote (content ++ [c])) rest
  | .closing quote content, c :: rest =>
    if c = quote then scanFrom (.inside quote (content ++ [quote])) rest
    else .quoted quote content ::
      if IsQuote c then scanFrom (.inside c []) rest else .char c :: scanFrom .outside rest

def scan (text : String) : List Lexeme := scanFrom .outside text.toList

def doubled (quote : Char) (content : List Char) : List Char :=
  content.flatMap fun c => if c = quote then [c, c] else [c]

theorem doubled_cons (quote c : Char) (content : List Char) :
    doubled quote (c :: content) = (if c = quote then [c, c] else [c]) ++ doubled quote content := rfl

theorem doubleQuotes_eq (content : List Char) : doubleQuotes content = doubled literalQuote content := by
  induction content with
  | nil => rfl
  | cons c rest ih =>
    rw [doubleQuotes, doubled_cons, ih]
    split
    · rename_i hc
      rw [hc]
      rfl
    · rfl

theorem doubled_of_not_mem {quote : Char} {content : List Char} (h : quote ∉ content) :
    doubled quote content = content := by
  induction content with
  | nil => rfl
  | cons c rest ih =>
    rw [List.mem_cons, not_or] at h
    rw [doubled_cons, if_neg (Ne.symm h.1), ih h.2, List.singleton_append]

theorem scanFrom_closing {quote : Char} {text : List Char} (h : text.head? ≠ some quote) (content : List Char) :
    scanFrom (.closing quote content) text = .quoted quote content :: scanFrom .outside text := by
  cases text with
  | nil => rfl
  | cons c rest =>
    have hc : c ≠ quote := by simpa using h
    simp only [scanFrom, if_neg hc]

theorem scanFrom_quoteless {text : String} (h : Quoteless text) (rest : List Char) :
    scanFrom .outside (text.toList ++ rest) = text.toList.map .char ++ scanFrom .outside rest := by
  unfold Quoteless at h
  generalize text.toList = cs at h ⊢
  induction cs with
  | nil => rfl
  | cons c cs ih =>
    rw [List.forall_mem_cons] at h
    rw [List.cons_append, scanFrom, if_neg h.1, ih h.2, List.map_cons, List.cons_append]

theorem scanFrom_doubled (quote : Char) (content before rest : List Char) :
    scanFrom (.inside quote before) (doubled quote content ++ rest)
      = scanFrom (.inside quote (before ++ content)) rest := by
  induction content generalizing before with
  | nil => rw [List.append_nil]; rfl
  | cons c content ih =>
    rw [doubled_cons, List.append_assoc]
    by_cases hc : c = quote
    · subst hc
      rw [if_pos rfl, List.cons_append, List.cons_append, scanFrom, if_pos rfl, scanFrom, if_pos rfl,
        List.nil_append, ih, List.append_assoc, List.singleton_append]
    · rw [if_neg hc, List.singleton_append, scanFrom, if_neg hc, ih, List.append_assoc, List.singleton_append]

theorem scanFrom_quoted {quote : Char} (hquote : IsQuote quote) (content : List Char) {rest : List Char}
    (hrest : rest.head? ≠ some quote) :
    scanFrom .outside (quote :: (doubled quote content ++ quote :: rest))
      = .quoted quote content :: scanFrom .outside rest := by
  rw [scanFrom, if_pos hquote, scanFrom_doubled, scanFrom, if_pos rfl, scanFrom_closing hrest, List.nil_append]

theorem scanFrom_quoteLiteral (text : String) {rest : List Char} (hrest : rest.head? ≠ some literalQuote) :
    scanFrom .outside ((quoteLiteral text).toList ++ rest)
      = .quoted literalQuote text.toList :: scanFrom .outside rest := by
  rw [← scanFrom_quoted (.inl rfl) text.toList hrest, quoteLiteral, String.toList_ofList, doubleQuotes_eq]
  simp

theorem scanFrom_quoteIdentifier {name : String} (hname : identifierQuote ∉ name.toList) {rest : List Char}
    (hrest : rest.head? ≠ some identifierQuote) :
    scanFrom .outside ((quoteIdentifier name).toList ++ rest)
      = .quoted identifierQuote name.toList :: scanFrom .outside rest := by
  rw [← scanFrom_quoted (.inr rfl) name.toList hrest, doubled_of_not_mem hname, toList_quoteIdentifier]
  simp

-- the recursion takes two characters where a doubled quote stands for one
theorem exists_of_scanFrom_inside (quote : Char) : (text before : List Char) →
    (∃ content rest, text = doubled quote content ++ quote :: rest ∧ rest.head? ≠ some quote
      ∧ scanFrom (.inside quote before) text = .quoted quote (before ++ content) :: scanFrom .outside rest)
    ∨ scanFrom (.inside quote before) text = [.unended quote]
  | [], before => .inr rfl
  | [c], before => by
    by_cases hc : c = quote
    · refine .inl ⟨[], [], by rw [hc]; rfl, by simp, ?_⟩
      simp only [scanFrom, if_pos hc, List.append_nil]
    · refine .inr ?_
      simp only [scanFrom, if_neg hc]
  | c :: d :: rest, before => by
    by_cases hc : c = quote
    · by_cases hd : d = quote
      · have hscan : scanFrom (.inside quote before) (c :: d :: rest)
            = scanFrom (.inside quote (before ++ [quote])) rest := by
          rw [scanFrom, if_pos hc, scanFrom, if_pos hd]
        rw [hscan]
        rcases exists_of_scanFrom_inside quote rest (before ++ [quote]) with ⟨content, after, htext, hafter, h⟩ | h
        · refine .inl ⟨quote :: content, after, ?_, hafter, ?_⟩
          · rw [doubled_cons, if_pos rfl, htext, hc, hd]
            rfl
          · rw [h, List.append_assoc, List.singleton_append]
        · exact .inr h
      · have hafter : (d :: rest).head? ≠ some quote := by simpa using hd
        have hscan : scanFrom (.inside quote before) (c :: d :: rest)
            = scanFrom (.closing quote before) (d :: rest) := by
          rw [scanFrom, if_pos hc]
        refine .inl ⟨[], d :: rest, by rw [hc]; rfl, hafter, ?_⟩
        rw [hscan, scanFrom_closing hafter, List.append_nil]
    · have hscan : scanFrom (.inside quote before) (c :: d :: rest)
          = scanFrom (.inside quote (before ++ [c])) (d :: rest) := by
        rw [scanFrom, if_neg hc]
      rw [hscan]
      rcases exists_of_scanFrom_inside quote (d :: rest) (before ++ [c]) with ⟨content, after, htext, hafter, h⟩ | h
      · refine .inl ⟨c :: content, after, ?_, hafter, ?_⟩
        · rw [doubled_cons, if_neg hc, htext]
          rfl
        · rw [h, List.append_assoc, List.singleton_append]
      · exact .inr h

-- the quotes in front count how far the doubled text is ahead of the other
theorem append_ne_replicate_doubled {quote : Char} {rest : List Char} (hrest : rest.head? ≠ some quote)
    (content after : List Char) (ahead : Nat) :
    content ++ quote :: rest
      ≠ List.replicate (ahead + 1) quote ++ (doubled quote content ++ quote :: after) := by
  induction content generalizing ahead with
  | nil =>
    intro h
    rw [List.nil_append, List.replicate_succ, List.cons_append, List.cons_inj_right] at h
    cases ahead with
    | zero => simp [h, doubled] at hrest
    | succ ahead => simp [h, List.replicate_succ] at hrest
  | cons c content ih =>
    intro h
    rw [List.cons_append, List.replicate_succ, List.cons_append] at h
    injection h with hc h
    subst hc
    rw [doubled_cons, if_pos rfl] at h
    refine ih (ahead + 1) ?_
    rw [h, List.replicate_succ', List.replicate_succ']
    simp

theorem append_ne_doubled {quote : Char} {rest : List Char} (hrest : rest.head? ≠ some quote) {content : List Char}
    (hcontent : quote ∈ content) (after : List Char) :
    content ++ quote :: rest ≠ doubled quote content ++ quote :: after := by
  induction content with
  | nil => exact absurd hcontent List.not_mem_nil
  | cons c content ih =>
    intro h
    rw [doubled_cons, List.cons_append] at h
    by_cases hc : c = quote
    · subst hc
      rw [if_pos rfl] at h
      injection h with _ h
      exact append_ne_replicate_doubled hrest content after 0 h
    · rw [if_neg hc] at h
      injection h with _ h
      exact ih ((List.mem_cons.mp hcontent).resolve_left (Ne.symm hc)) h

namespace Lexeme

def content? (quote : Char) : Lexeme → Option String
  | .quoted other content => if other = quote then some (String.ofList content) else none
  | .char _ | .unended _ => none

def char? : Lexeme → Option Char
  | .char c => some c
  | .quoted _ _ | .unended _ => none

end Lexeme

def contents (quote : Char) (lexemes : List Lexeme) : List String := lexemes.filterMap (·.content? quote)

def unquoted (lexemes : List Lexeme) : List Char := lexemes.filterMap (·.char?)

def Ended (lexemes : List Lexeme) : Prop := ∀ quote, .unended quote ∉ lexemes

theorem contents_append (quote : Char) (lexemes others : List Lexeme) :
    contents quote (lexemes ++ others) = contents quote lexemes ++ contents quote others := List.filterMap_append

theorem contents_chars (quote : Char) (text : List Char) : contents quote (text.map .char) = [] := by
  simp [contents, Lexeme.content?, List.filterMap_map]

theorem contents_quoted (quote other : Char) (names : List String) :
    contents quote (names.map (.quoted other ·.toList)) = if other = quote then names else [] := by
  induction names with
  | nil => simp [contents]
  | cons name rest ih =>
    rw [contents] at ih
    rw [contents, List.map_cons, List.filterMap_cons, ih, Lexeme.content?]
    by_cases hother : other = quote <;> simp [hother]

theorem unquoted_append (lexemes others : List Lexeme) :
    unquoted (lexemes ++ others) = unquoted lexemes ++ unquoted others := List.filterMap_append

theorem unquoted_chars (text : List Char) : unquoted (text.map .char) = text := by
  induction text with
  | nil => rfl
  | cons c rest ih => rw [List.map_cons, ← List.singleton_append, unquoted_append, ih]; rfl

theorem unquoted_quoted (quote : Char) (names : List String) :
    unquoted (names.map (.quoted quote ·.toList)) = [] := by
  simp [unquoted, Lexeme.char?]

theorem contents_quoteIdentifier_ne {name : String} (hname : identifierQuote ∈ name.toList) {rest : List Char}
    (hrest : rest.head? ≠ some identifierQuote) (others : List String) :
    contents identifierQuote (scanFrom .outside ((quoteIdentifier name).toList ++ rest)) ≠ name :: others := by
  have htext : (quoteIdentifier name).toList ++ rest
      = identifierQuote :: (name.toList ++ identifierQuote :: rest) := by
    rw [toList_quoteIdentifier]
    simp
  rw [htext, scanFrom, if_pos (.inr rfl)]
  rcases exists_of_scanFrom_inside identifierQuote (name.toList ++ identifierQuote :: rest) [] with
    ⟨content, after, hcontent, -, h⟩ | h
  · rw [h]
    simp only [contents, List.filterMap_cons, Lexeme.content?, if_true, List.nil_append, ne_eq, List.cons.injEq,
      not_and]
    rintro rfl
    rw [String.toList_ofList] at hname hcontent
    exact absurd hcontent (append_ne_doubled hrest hname after)
  · rw [h]
    exact List.cons_ne_nil _ _ ∘ Eq.symm

def parenthesis (depth : Nat) (c : Char) : Option Nat :=
  if c = '(' then some (depth + 1)
  else if c = ')' then match depth with
    | 0 => none
    | depth + 1 => some depth
  else some depth

def depthAfter (text : List Char) (depth : Nat) : Option Nat := text.foldlM parenthesis depth

def Balanced (text : String) : Prop := depthAfter text.toList 0 = some 0

instance (text : String) : Decidable (Balanced text) := inferInstanceAs (Decidable (_ = _))

theorem depthAfter_append (text rest : List Char) (depth : Nat) :
    depthAfter (text ++ rest) depth = (depthAfter text depth).bind (depthAfter rest) := List.foldlM_append

theorem depthAfter_of_not_mem {text : List Char} (hopen : '(' ∉ text) (hclose : ')' ∉ text) (depth : Nat) :
    depthAfter text depth = some depth := by
  induction text with
  | nil => rfl
  | cons c text ih =>
    rw [List.mem_cons, not_or] at hopen hclose
    have hstep : parenthesis depth c = some depth := by
      unfold parenthesis
      rw [if_neg (Ne.symm hopen.1), if_neg (Ne.symm hclose.1)]
    rw [depthAfter, List.foldlM_cons, hstep]
    exact ih hopen.2 hclose.2

theorem parenthesis_add {c : Char} {depth after : Nat} (h : parenthesis depth c = some after) (more : Nat) :
    parenthesis (depth + more) c = some (after + more) := by
  unfold parenthesis at h ⊢
  split at h
  · rename_i hc
    cases h
    rw [if_pos hc, Nat.add_right_comm]
  · rename_i hopen
    rw [if_neg hopen]
    split at h
    · rename_i hc
      rw [if_pos hc]
      cases depth with
      | zero => cases h
      | succ depth =>
        cases h
        rw [Nat.add_right_comm]
    · rename_i hclose
      cases h
      rw [if_neg hclose]

theorem depthAfter_add {text : List Char} {depth after : Nat} (h : depthAfter text depth = some after) (more : Nat) :
    depthAfter text (depth + more) = some (after + more) := by
  induction text generalizing depth with
  | nil =>
    cases h
    rfl
  | cons c text ih =>
    obtain ⟨between, hstep, hrest⟩ := Option.bind_eq_some_iff.mp h
    rw [depthAfter, List.foldlM_cons, parenthesis_add hstep more]
    exact ih hrest

end RelationalMapping.Text
