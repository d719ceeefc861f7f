import OpcodeTable.Html.Select
import OpcodeTable.Text.Blank

/-!
# Proofs/Words — the words of a text, however it is set

A run of blanks only parts words, so it may be replaced by any other and left out at both ends
(`words_append_blanks`, `words_padded`).  The words of a forest are those of its text; markup and
comments may be put around its texts and between them without a change (`Reset.words_eq`).
-/

namespace OpcodeTable

/-! ## Words and blanks -/

namespace Text

variable {before after blanks : List Char}

/-- **A blank parts the words** on its two sides. -/
theorem words_append_blank {c : Char} (hc : isBlank c = true) (before after : List Char) :
    words (before ++ c :: after) = words before ++ words after := by
  rw [words, List.splitOnP_append_cons before after hc, List.filter_append, ← words, ← words]

/-- Blanks in front belong to no word. -/
theorem words_blanks_append : ∀ {blanks : List Char}, (∀ c ∈ blanks, isBlank c = true) →
    ∀ text, words (blanks ++ text) = words text := by
  intro blanks
  induction blanks with
  | nil => intro _ text; rfl
  | cons c blanks ih =>
    intro h text
    obtain ⟨hc, hblanks⟩ := List.forall_mem_cons.1 h
    rw [← ih hblanks text]
    exact words_append_blank hc [] (blanks ++ text)

/-- **A run of blanks parts words** like one of them. -/
theorem words_append_blanks (hne : blanks ≠ []) (h : ∀ c ∈ blanks, isBlank c = true)
    (before after : List Char) :
    words (before ++ (blanks ++ after)) = words before ++ words after := by
  obtain ⟨c, rest, rfl⟩ := List.exists_cons_of_ne_nil hne
  obtain ⟨hc, hrest⟩ := List.forall_mem_cons.1 h
  rw [List.cons_append, words_append_blank hc, words_blanks_append hrest]

/-- **Blanks at the ends** belong to no word. -/
theorem words_padded (hbefore : ∀ c ∈ before, isBlank c = true)
    (hafter : ∀ c ∈ after, isBlank c = true) (text : List Char) :
    words (before ++ (text ++ after)) = words text := by
  rw [words_blanks_append hbefore]
  cases after with
  | nil => rw [List.append_nil]
  | cons c after =>
    have hparts := words_append_blanks (List.cons_ne_nil c after) hafter text []
    rw [List.append_nil] at hparts
    rw [hparts]
    exact List.append_nil _

end Text

/-! ## Settings of a text -/

namespace Html

/-- **An inline element** makes no table, row or cell, and is no named anchor. -/
def Element.Inline (e : Element) : Prop :=
  e.name ∉ ["table", "tr", "td", "th"] ∧ (e.name = "a" → e.attribute? "name" = none)

instance (e : Element) : Decidable e.Inline := instDecidableAnd

namespace Forest

/-- One forest's nodes with those of another behind them. -/
def append : Forest → Forest → Forest
  | nil, later => later
  | text s next, later => text s (next.append later)
  | comment s next, later => comment s (next.append later)
  | fragment content next, later => fragment content (next.append later)
  | element e content next, later => element e content (next.append later)

/-- **An inline forest** has inline elements only, at any depth. -/
def Inline : Forest → Prop
  | nil => True
  | text _ next | comment _ next => next.Inline
  | fragment content next => content.Inline ∧ next.Inline
  | element e content next => e.Inline ∧ content.Inline ∧ next.Inline

variable {f g : Forest}

theorem textContent_append (f later : Forest) :
    (f.append later).textContent = f.textContent ++ later.textContent := by
  induction f with
  | nil => rfl
  | text s next ih => simp only [append, textContent, ih, List.append_assoc]
  | comment s next ih => simp only [append, textContent, ih]
  | element e content next _ ih | fragment content next _ ih =>
    simp only [append, textContent, ih, List.append_assoc]

theorem inline_append (f later : Forest) : (f.append later).Inline ↔ f.Inline ∧ later.Inline := by
  induction f with
  | nil => simp [append, Inline]
  | text s next ih | comment s next ih => simpa only [append, Inline] using ih
  | element e content next _ ih | fragment content next _ ih =>
    simp only [append, Inline, ih, and_assoc]

/-- **The same words set in another way**: inline elements are put around nodes or taken away,
comments are put in or left out, a text is cut in two or joined, and a run of blanks becomes another
one, at any depth and as often as one likes. -/
inductive Reset : Forest → Forest → Prop
  | refl (f : Forest) : Reset f f
  | symm {f g : Forest} (h : Reset f g) : Reset g f
  | trans {f g h : Forest} (hfirst : Reset f g) (hnext : Reset g h) : Reset f h
  | text {next next' : Forest} (s : String) (hnext : Reset next next') :
      Reset (text s next) (text s next')
  | element {content content' next next' : Forest} (e : Element)
      (hcontent : Reset content content') (hnext : Reset next next') :
      Reset (element e content next) (element e content' next')
  | fragment {content content' next next' : Forest} (hcontent : Reset content content')
      (hnext : Reset next next') : Reset (fragment content next) (fragment content' next')
  | wrap {e : Element} (he : e.Inline) (content next : Forest) :
      Reset (content.append next) (element e content next)
  | note (s : String) (next : Forest) : Reset next (comment s next)
  | cut (s t : String) (next : Forest) : Reset (text (s ++ t) next) (text s (text t next))
  | blanks {s t : String} (hs : s ≠ "") (ht : t ≠ "")
      (hsblank : Text.isAllBlank s.toList = true) (htblank : Text.isAllBlank t.toList = true)
      (next : Forest) : Reset (text s next) (text t next)

/-- **A setting has the same words** in whatever text it stands. -/
theorem Reset.words_eq (h : Reset f g) : ∀ before after,
    Text.words (before ++ (f.textContent ++ after))
      = Text.words (before ++ (g.textContent ++ after)) := by
  induction h with
  | refl => exact fun _ _ => rfl
  | symm _ ih => exact fun before after => (ih before after).symm
  | trans _ _ ih ih' => exact fun before after => (ih before after).trans (ih' before after)
  | text s _ ih =>
    intro before after
    simp only [textContent, List.append_assoc]
    rw [← List.append_assoc, ih, List.append_assoc]
  | element e _ _ ih ih' | fragment _ _ ih ih' =>
    intro before after
    simp only [textContent, List.append_assoc]
    rw [ih, ← List.append_assoc, ih', List.append_assoc]
  | wrap he content next =>
    intro before after
    rw [textContent_append, textContent]
  | note s next => exact fun _ _ => rfl
  | cut s t next =>
    intro before after
    simp only [textContent, String.toList_append, List.append_assoc]
  | @blanks s t hs ht hsblank htblank next =>
    intro before after
    simp only [textContent, List.append_assoc]
    rw [Text.words_append_blanks (by simpa using hs) (by simpa [Text.isAllBlank] using hsblank),
      Text.words_append_blanks (by simpa using ht) (by simpa [Text.isAllBlank] using htblank)]

/-- A setting of an inline forest is inline. -/
theorem Reset.inline_iff (h : Reset f g) : f.Inline ↔ g.Inline := by
  induction h with
  | refl => exact Iff.rfl
  | symm _ ih => exact ih.symm
  | trans _ _ ih ih' => exact ih.trans ih'
  | text _ _ ih => exact ih
  | element e _ _ ih ih' => exact and_congr_right fun _ => and_congr ih ih'
  | fragment _ _ ih ih' => exact and_congr ih ih'
  | wrap he content next => exact (inline_append content next).trans (and_iff_right he).symm
  | note | cut | blanks => exact Iff.rfl

/-- A forest with a text in front and one behind. -/
def padded (before : String) (f : Forest) (after : String) : Forest :=
  text before (f.append (text after nil))

theorem words_padded {before after : String} (hbefore : Text.isAllBlank before.toList = true)
    (hafter : Text.isAllBlank after.toList = true) (f : Forest) :
    Text.words (f.padded before after).textContent = Text.words f.textContent := by
  rw [padded, textContent, textContent_append, textContent, textContent, List.append_nil]
  exact Text.words_padded (List.all_eq_true.1 hbefore) (List.all_eq_true.1 hafter) _

theorem inline_padded (before after : String) (f : Forest) :
    (f.padded before after).Inline ↔ f.Inline := by
  rw [padded, Inline, inline_append]
  exact and_iff_left trivial

end Forest

end Html

end OpcodeTable
