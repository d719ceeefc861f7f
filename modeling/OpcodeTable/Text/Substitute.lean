/-!
# Text/Substitute — finding a word in a text, and putting another text in its place
-/

namespace OpcodeTable.Text

/-- **Occurrence**: `word` stands somewhere in the text. -/
def occurs (word : List Char) : List Char → Bool
  | [] => word.isEmpty
  | c :: rest => word.isPrefixOf (c :: rest) || occurs word rest

theorem occurs_eq_true {word cs : List Char} : occurs word cs = true ↔ word <:+: cs := by
  induction cs with
  | nil => rw [occurs, List.isEmpty_iff, List.infix_nil]
  | cons c rest ih =>
    rw [occurs, Bool.or_eq_true, List.isPrefixOf_iff_prefix, ih, List.infix_cons_iff]

/-- A word with a character that the text has not does not occur in it. -/
theorem occurs_eq_false {word cs : List Char} {c : Char} (hword : c ∈ word) (hcs : c ∉ cs) :
    occurs word cs = false := by
  rw [← Bool.not_eq_true, occurs_eq_true]
  exact fun hoccurs => hcs (hoccurs.subset hword)

/-- **Substitution**: every occurrence of `word` becomes `value`, found from left to right and
without overlap; `value` itself is not searched again.  The word has at least one character. -/
def substitute (word value : List Char) : List Char → List Char
  | [] => []
  | c :: rest =>
    if word.isPrefixOf (c :: rest) then
      value ++ substitute word value (rest.drop (word.length - 1))
    else c :: substitute word value rest
termination_by cs => cs.length
decreasing_by all_goals simp only [List.length_drop, List.length_cons]; omega

@[simp] theorem substitute_nil (word value : List Char) : substitute word value [] = [] := by
  simp [substitute]

variable {word value : List Char}

theorem substitute_cons_of_not_prefix {c : Char} {rest : List Char} (h : ¬ word <+: c :: rest) :
    substitute word value (c :: rest) = c :: substitute word value rest := by
  rw [substitute, if_neg]
  rwa [List.isPrefixOf_iff_prefix]

theorem substitute_append_self (hword : word ≠ []) (rest : List Char) :
    substitute word value (word ++ rest) = value ++ substitute word value rest := by
  obtain ⟨c, tail, rfl⟩ := List.exists_cons_of_ne_nil hword
  have hprefix : (c :: tail).isPrefixOf (c :: (tail ++ rest)) = true :=
    List.isPrefixOf_iff_prefix.2 (List.prefix_append (c :: tail) rest)
  rw [List.cons_append, substitute, if_pos hprefix, List.length_cons, Nat.add_sub_cancel,
    List.drop_left]

/-- **A text without the first character of the word** is passed over. -/
theorem substitute_append_of_notMem {first : Char} {tail : List Char} :
    ∀ {text : List Char}, first ∉ text → ∀ rest,
      substitute (first :: tail) value (text ++ rest)
        = text ++ substitute (first :: tail) value rest := by
  intro text
  induction text with
  | nil => intro _ rest; rfl
  | cons c text ih =>
    intro h rest
    obtain ⟨hne, htext⟩ := List.ne_and_not_mem_of_not_mem_cons h
    have hnot : ¬ first :: tail <+: c :: (text ++ rest) := fun hprefix =>
      hne (List.cons_prefix_cons.1 hprefix).1
    rw [List.cons_append, substitute_cons_of_not_prefix hnot, ih htext, List.cons_append]

end OpcodeTable.Text
