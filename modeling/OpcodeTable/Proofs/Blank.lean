import Mathlib.Data.List.TakeWhile
import OpcodeTable.Text.Blank

/-!
# Proofs/Blank — blanks around a text, and blanks between its characters

Trimming undoes padding (`Padded.trim_eq`), and squeezing undoes any insertion of blanks
(`Spaced.squeeze_eq`); whether a text is trimmed before it is squeezed makes no difference.
-/

namespace OpcodeTable.Text

variable {core text word : List Char}

/-! ## Blanks around a text -/

/-- **A tight text** has a first and a last character, and neither is blank. -/
def Tight (text : List Char) : Prop :=
  (∃ c ∈ text.head?, isBlank c = false) ∧ ∃ c ∈ text.getLast?, isBlank c = false

instance (text : List Char) : Decidable (Tight text) :=
  decidable_of_iff (text.head?.any (!isBlank ·) && text.getLast?.any (!isBlank ·)) <| by
    rw [Bool.and_eq_true, Option.any_eq_true, Option.any_eq_true]
    simp only [Bool.not_eq_true', Tight, Option.mem_def]

/-- A text starts with a character that is not `p` if one in front of it does. -/
theorem exists_head?_append {p : Char → Bool} {front : List Char}
    (h : ∃ c ∈ front.head?, p c = false) (rest : List Char) :
    ∃ c ∈ (front ++ rest).head?, p c = false := by
  obtain ⟨c, hc, hp⟩ := h
  refine ⟨c, ?_, hp⟩
  rw [List.head?_append, hc, Option.some_or]
  rfl

/-- A text is tight if it starts and ends with tight ones. -/
theorem Tight.append {first last : List Char} (hfirst : Tight first) (middle : List Char)
    (hlast : Tight last) : Tight (first ++ middle ++ last) := by
  obtain ⟨-, c, hc, hblank⟩ := hlast
  refine ⟨?_, c, ?_, hblank⟩
  · rw [List.append_assoc]
    exact exists_head?_append hfirst.1 _
  · rw [List.getLast?_append, hc, Option.some_or]
    rfl

/-- A text without blanks is tight unless it is empty. -/
theorem tight_of_forall {text : List Char} (hne : text ≠ [])
    (h : ∀ c ∈ text, isBlank c = false) : Tight text :=
  ⟨⟨_, List.head?_eq_some_head hne, h _ (List.head_mem hne)⟩,
    _, List.getLast?_eq_some_getLast hne, h _ (List.getLast_mem hne)⟩

/-- **A padded text**: the core with any blanks on both sides. -/
def Padded (core text : List Char) : Prop :=
  ∃ before after, (∀ c ∈ before, isBlank c = true) ∧ (∀ c ∈ after, isBlank c = true) ∧
    text = before ++ core ++ after

theorem padded_self (core : List Char) : Padded core core :=
  ⟨[], [], by simp, by simp, by simp⟩

/-- Nothing is dropped where another character stands in front. -/
theorem dropWhile_of_head {p : Char → Bool} {text : List Char}
    (h : ∃ c ∈ text.head?, p c = false) : text.dropWhile p = text := by
  obtain ⟨c, hc, hp⟩ := h
  obtain ⟨later, rfl⟩ := List.head?_eq_some_iff.1 hc
  exact List.dropWhile_cons_of_neg (by rw [hp]; exact Bool.false_ne_true)

/-- A run of `p` characters is dropped up to the first other one. -/
theorem dropWhile_append_of_head {p : Char → Bool} {front rest : List Char}
    (hfront : ∀ c ∈ front, p c = true) (hrest : ∃ c ∈ rest.head?, p c = false) :
    (front ++ rest).dropWhile p = rest := by
  rw [List.dropWhile_append_of_pos hfront, dropWhile_of_head hrest]

/-- A run of `p` characters at the end is dropped up to the last other one. -/
theorem trimEndWhile_append {p : Char → Bool} {rest back : List Char}
    (hback : ∀ c ∈ back, p c = true) (hrest : ∃ c ∈ rest.getLast?, p c = false) :
    trimEndWhile p (rest ++ back) = rest := by
  rw [← List.head?_reverse] at hrest
  rw [trimEndWhile, List.reverse_append, dropWhile_append_of_head _ hrest, List.reverse_reverse]
  exact fun c hc => hback c (List.mem_reverse.1 hc)

/-- What is dropped at the end is a run of `p` characters. -/
theorem exists_trimEndWhile_append (p : Char → Bool) (text : List Char) :
    ∃ back, (∀ c ∈ back, p c = true) ∧ text = trimEndWhile p text ++ back := by
  refine ⟨(text.reverse.takeWhile p).reverse, fun c hc =>
    List.mem_takeWhile_imp (List.mem_reverse.1 hc), ?_⟩
  rw [trimEndWhile, ← List.reverse_append, List.takeWhile_append_dropWhile, List.reverse_reverse]

/-- A trimmed text starts with no blank. -/
theorem not_isBlank_head?_trim (text : List Char) :
    ∀ c ∈ (trim text).head?, isBlank c = false := by
  intro c hc
  obtain ⟨back, -, hparts⟩ := exists_trimEndWhile_append isBlank (text.dropWhile isBlank)
  have hhead := List.head?_dropWhile_not isBlank text
  rw [hparts, ← trim, List.head?_append, Option.mem_def.1 hc] at hhead
  exact hhead

/-- Nothing is taken where another character stands in front. -/
theorem takeWhile_of_head? {p : Char → Bool} {text : List Char}
    (h : ∀ c ∈ text.head?, p c = false) : text.takeWhile p = [] := by
  cases text with
  | nil => rfl
  | cons c text => exact List.takeWhile_cons_of_neg (by simp [h c rfl])

/-- **Characters that are not `p` add nothing** behind a run of those that are. -/
theorem takeWhile_append_of_forall_not {p : Char → Bool} {back : List Char}
    (h : ∀ c ∈ back, p c = false) (front : List Char) :
    (front ++ back).takeWhile p = front.takeWhile p := by
  induction front with
  | nil => exact takeWhile_of_head? fun c hc => h c (List.mem_of_mem_head? hc)
  | cons c front ih => rw [List.cons_append, List.takeWhile_cons, List.takeWhile_cons, ih]

/-- **Trimming undoes padding.** -/
theorem Padded.trim_eq (h : Padded core text) (hcore : Tight core) : trim text = core := by
  obtain ⟨before, after, hbefore, hafter, rfl⟩ := h
  rw [trim, List.append_assoc, dropWhile_append_of_head hbefore (exists_head?_append hcore.1 _),
    trimEndWhile_append hafter hcore.2]

theorem trim_of_tight (h : Tight core) : trim core = core := (padded_self core).trim_eq h

/-- A blank behind a text goes when it is trimmed. -/
theorem trim_concat {c : Char} (hc : isBlank c = true) (text : List Char) :
    trim (text ++ [c]) = trim text := by
  rw [trim, trim, List.dropWhile_append]
  split
  · rename_i hnil
    rw [List.isEmpty_iff.1 hnil, List.dropWhile_cons_of_pos hc, List.dropWhile_nil]
  · rw [trimEndWhile, List.reverse_append, List.reverse_singleton, List.singleton_append,
      List.dropWhile_cons_of_pos hc, ← trimEndWhile]

/-- Padding adds nothing but blanks. -/
theorem Padded.notMem {c : Char} (h : Padded core text) (hcore : c ∉ core)
    (hblank : isBlank c = false) : c ∉ text := by
  obtain ⟨before, after, hbefore, hafter, rfl⟩ := h
  have hmargin : ∀ {margin : List Char}, (∀ d ∈ margin, isBlank d = true) → c ∉ margin :=
    fun hmargin hc => by rw [hmargin c hc] at hblank; cases hblank
  simp only [List.mem_append, hcore, hmargin hbefore, hmargin hafter, or_self, not_false_eq_true]

/-! ## Blanks between the characters -/

/-- **A spaced text**: the word with blanks inserted anywhere. -/
inductive Spaced : List Char → List Char → Prop
  | nil : Spaced [] []
  | blank {c : Char} {word text : List Char} (hblank : isBlank c = true)
      (hlater : Spaced word text) : Spaced word (c :: text)
  | char {c : Char} {word text : List Char} (hlater : Spaced word text) :
      Spaced (c :: word) (c :: text)

/-- Every text spaces what is left of it without its blanks. -/
theorem spaced_of_squeeze_eq (h : squeeze text = word) : Spaced word text := by
  rw [← h]
  clear h
  induction text with
  | nil => exact .nil
  | cons c text ih =>
    by_cases hc : isBlank c = true
    · rw [squeeze, List.filter_cons_of_neg (by simp [hc])]
      exact .blank hc ih
    · rw [squeeze, List.filter_cons_of_pos (by simp [hc])]
      exact .char ih

/-- Spacing adds nothing but blanks. -/
theorem Spaced.notMem {c : Char} (h : Spaced word text) (hblank : isBlank c = false)
    (hword : c ∉ word) : c ∉ text := by
  induction h with
  | nil => exact hword
  | blank hspace _ ih =>
    refine List.not_mem_cons_of_ne_of_not_mem ?_ (ih hword)
    rintro rfl
    rw [hspace] at hblank
    cases hblank
  | char _ ih =>
    obtain ⟨hc, hlater⟩ := List.ne_and_not_mem_of_not_mem_cons hword
    exact List.not_mem_cons_of_ne_of_not_mem hc (ih hlater)

/-- Spacing keeps every character. -/
theorem Spaced.subset (h : Spaced word text) : word ⊆ text := by
  induction h with
  | nil => exact List.Subset.refl _
  | blank _ _ ih => exact List.subset_cons_of_subset _ ih
  | char _ ih => exact List.cons_subset_cons _ ih

/-- **Squeezing undoes spacing.** -/
theorem Spaced.squeeze_eq (h : Spaced word text) (hword : ∀ c ∈ word, isBlank c = false) :
    squeeze text = word := by
  induction h with
  | nil => rfl
  | blank hblank _ ih =>
    rw [squeeze, List.filter_cons_of_neg (by simp [hblank])]
    exact ih hword
  | @char c word text _ ih =>
    obtain ⟨hc, hlater⟩ := List.forall_mem_cons.1 hword
    rw [squeeze, List.filter_cons_of_pos (by simp [hc]), ← squeeze, ih hlater]

theorem squeeze_dropWhile (text : List Char) :
    squeeze (text.dropWhile isBlank) = squeeze text := by
  have hfront : (text.takeWhile isBlank).filter (!isBlank ·) = [] :=
    List.filter_eq_nil_iff.2 fun c hc => by simp [List.mem_takeWhile_imp hc]
  have hparts := congrArg squeeze (List.takeWhile_append_dropWhile (p := isBlank) (l := text))
  rwa [squeeze, List.filter_append, hfront, List.nil_append] at hparts

/-- **Blanks at the ends are deleted anyway**: trimming first changes nothing. -/
theorem squeeze_trim (text : List Char) : squeeze (trim text) = squeeze text := by
  have hreverse : ∀ cs : List Char, squeeze cs.reverse = (squeeze cs).reverse := fun cs =>
    List.filter_reverse
  rw [trim, trimEndWhile, hreverse, squeeze_dropWhile, hreverse, List.reverse_reverse,
    squeeze_dropWhile]

end OpcodeTable.Text
