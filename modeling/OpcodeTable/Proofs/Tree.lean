import Mathlib.Data.List.Forall2
import OpcodeTable.Html.Document
import OpcodeTable.Proofs.Words

/-!
# Proofs/Tree — the page of a tree, and trees alike but for the setting of their cells

A tree makes a page of its elements, each before what it holds (`Document.ofTree`).  Trees are alike
if they differ only in inline cells, and there not in the words (`Alike`).  Then their tables and rows
are alike (`Alike.named`), their cells have the same words (`Alike.cellWords_eq`), and what is no
inline element stands at the same places (`Alike.filterMap_placed`).  Setting the words of a cell in
another way leaves a tree alike (`Edit.alike`).
-/

namespace OpcodeTable.Html

/-! ## Elements in the order of the tree -/

namespace Forest

/-- **The elements of a forest**, each before what it holds, below the given ones. -/
def placed (around : List Element) : Forest → List Placed
  | nil => []
  | text _ next | comment _ next => next.placed around
  | fragment content next => content.placed [] ++ next.placed around
  | element e content next =>
    ⟨e, around, content⟩ :: (content.placed (e :: around) ++ next.placed around)

variable {f g : Forest} {names : List String}

/-- Elements are found by name with or without their places. -/
theorem named_eq_placed (name : String) (f : Forest) : ∀ around,
    f.named [name] = ((f.placed around).filter (·.element.name == name)).map (·.content) := by
  induction f with
  | nil => exact fun _ => rfl
  | text s next ih | comment s next ih => exact ih
  | fragment content next ih ih' =>
    intro around
    rw [named, placed, List.filter_append, List.map_append, ← ih, ← ih']
  | element e content next ih ih' =>
    intro around
    rw [named, placed, List.filter_cons, ih (e :: around), ih' around, ← List.map_append,
      ← List.filter_append, List.contains_cons, List.contains_nil, Bool.or_false]
    by_cases hname : (e.name == name) = true
    · rw [if_pos hname, if_pos hname, List.map_cons]
    · rw [if_neg hname, if_neg hname]

end Forest

/-- **The page of a tree.** -/
def Document.ofTree (tree : Forest) : Document := ⟨tree.placed []⟩

namespace Forest

/-! ## Inline forests -/

/-- An inline forest has no tables, rows or cells. -/
theorem Inline.named_eq_nil (hnames : names ⊆ ["table", "tr", "td", "th"]) :
    ∀ {f : Forest}, f.Inline → f.named names = [] := by
  intro f
  induction f with
  | nil => exact fun _ => rfl
  | text s next ih | comment s next ih => exact ih
  | fragment content next ih ih' =>
    rintro ⟨hcontent, hnext⟩
    rw [named, ih hcontent, ih' hnext]
    rfl
  | element e content next ih ih' =>
    rintro ⟨he, hcontent, hnext⟩
    have hname : names.contains e.name = false := by
      simpa using fun hmem => he.1 (hnames hmem)
    rw [named, ih hcontent, ih' hnext, hname]
    rfl

/-- An inline forest has inline elements only. -/
theorem Inline.element_inline : ∀ {f : Forest}, f.Inline → ∀ (around : List Element),
    ∀ placed ∈ f.placed around, placed.element.Inline := by
  intro f
  induction f with
  | nil => simp [placed]
  | text s next ih | comment s next ih => exact ih
  | fragment content next ih ih' =>
    rintro ⟨hcontent, hnext⟩ around placed hplaced
    exact (List.mem_append.1 hplaced).elim (ih hcontent _ placed) (ih' hnext _ placed)
  | element e content next ih ih' =>
    rintro ⟨he, hcontent, hnext⟩ around placed hplaced
    rcases List.mem_cons.1 hplaced with rfl | hbelow
    · exact he
    · exact (List.mem_append.1 hbelow).elim (ih hcontent _ placed) (ih' hnext _ placed)

/-! ## Trees alike -/

/-- **Forests alike** differ only in inline cells, and have the same words there. -/
inductive Alike : Forest → Forest → Prop
  | refl (f : Forest) : Alike f f
  | text {next next' : Forest} (s : String) (hnext : Alike next next') :
      Alike (text s next) (text s next')
  | comment {next next' : Forest} (s : String) (hnext : Alike next next') :
      Alike (comment s next) (comment s next')
  | fragment {content content' next next' : Forest} (hcontent : Alike content content')
      (hnext : Alike next next') : Alike (fragment content next) (fragment content' next')
  | element {e : Element} {content content' next next' : Forest} (he : e.name ∉ ["td", "th"])
      (hcontent : Alike content content') (hnext : Alike next next') :
      Alike (element e content next) (element e content' next')
  | cell {e : Element} {content content' next next' : Forest} (he : e.name ∈ ["td", "th"])
      (hcontent : content.Inline) (hcontent' : content'.Inline)
      (hwords : Text.words content.textContent = Text.words content'.textContent)
      (hnext : Alike next next') : Alike (element e content next) (element e content' next')

/-- The words of the cells below. -/
def cellWords (f : Forest) : List (List (List Char)) :=
  (f.named ["td", "th"]).map fun cell => Text.words cell.textContent

namespace Alike

/-- **Their tables and rows are alike.** -/
theorem named {name : String} (hname : name ∈ ["table", "tr"]) (h : Alike f g) :
    List.Forall₂ Alike (f.named [name]) (g.named [name]) := by
  induction h with
  | refl f => exact List.forall₂_same.2 fun content _ => .refl content
  | text s _ ih | comment s _ ih => exact ih
  | fragment _ _ ih ih' => exact List.rel_append ih ih'
  | @element e content content' next next' _ hcontent _ ih ih' =>
    rw [Forest.named, Forest.named]
    by_cases he : [name].contains e.name = true
    · rw [if_pos he, if_pos he]
      exact .cons hcontent (List.rel_append ih ih')
    · rw [if_neg he, if_neg he]
      exact List.rel_append ih ih'
  | @cell e content content' next next' he hcontent hcontent' _ _ ih =>
    have hnames : [name] ⊆ ["table", "tr", "td", "th"] := by
      simp only [List.mem_cons, List.not_mem_nil, or_false] at hname
      rcases hname with rfl | rfl <;> simp
    have hother : [name].contains e.name = false := by
      simp only [List.mem_cons, List.not_mem_nil, or_false] at hname he
      rcases hname with rfl | rfl <;> rcases he with he | he <;> simp [he]
    rw [Forest.named, Forest.named, hcontent.named_eq_nil hnames, hcontent'.named_eq_nil hnames,
      hother]
    exact ih

/-- **Their cells have the same words.** -/
theorem cellWords_eq (h : Alike f g) : f.cellWords = g.cellWords := by
  induction h with
  | refl f => rfl
  | text s _ ih | comment s _ ih => exact ih
  | fragment _ _ ih ih' =>
    rw [cellWords, cellWords, Forest.named, Forest.named, List.map_append, List.map_append]
    exact congrArg₂ (· ++ ·) ih ih'
  | @element e content content' next next' he _ _ ih ih' =>
    have hother : ["td", "th"].contains e.name = false := by simpa using he
    rw [cellWords, cellWords, Forest.named, Forest.named, hother]
    simp only [Bool.false_eq_true, if_false, List.map_append]
    exact congrArg₂ (· ++ ·) ih ih'
  | @cell e content content' next next' he hcontent hcontent' hwords _ ih =>
    have hcell : ["td", "th"].contains e.name = true := by simpa using he
    have hnames : ["td", "th"] ⊆ ["table", "tr", "td", "th"] := by simp
    rw [cellWords, cellWords, Forest.named, Forest.named, hcell, hcontent.named_eq_nil hnames,
      hcontent'.named_eq_nil hnames]
    exact congrArg₂ List.cons hwords ih

/-- **What is no inline element** stands at the same places. -/
theorem filterMap_placed {β : Type} {select : Placed → Option β}
    (hinline : ∀ placed, placed.element.Inline → select placed = none)
    (hcontent : ∀ e around content content',
      select ⟨e, around, content⟩ = select ⟨e, around, content'⟩) (h : Alike f g) :
    ∀ around, (f.placed around).filterMap select = (g.placed around).filterMap select := by
  have hnone : ∀ {f : Forest}, f.Inline → ∀ around, (f.placed around).filterMap select = [] :=
    fun hf around => List.filterMap_eq_nil_iff.2 fun placed hplaced =>
      hinline placed (hf.element_inline around placed hplaced)
  induction h with
  | refl f => exact fun _ => rfl
  | text s _ ih | comment s _ ih => exact ih
  | fragment _ _ ih ih' =>
    intro around
    rw [placed, placed, List.filterMap_append, List.filterMap_append, ih, ih']
  | element _ _ _ ih ih' =>
    intro around
    rw [placed, placed, List.filterMap_cons, List.filterMap_cons, List.filterMap_append,
      List.filterMap_append, ih, ih', hcontent]
  | cell _ hinside hinside' _ _ ih =>
    intro around
    rw [placed, placed, List.filterMap_cons, List.filterMap_cons, List.filterMap_append,
      List.filterMap_append, hnone hinside, hnone hinside', ih, hcontent]

end Alike

/-! ## Edits of a cell -/

/-- **An edit of a cell**: its words are set in another way, or blanks are put around them. -/
inductive Edit (content : Forest) : Forest → Prop
  | reset {content' : Forest} (h : Reset content content') : Edit content content'
  | pad {before after : String} (hbefore : Text.isAllBlank before.toList = true)
      (hafter : Text.isAllBlank after.toList = true) : Edit content (content.padded before after)

/-- **Edits leave a tree alike.** -/
theorem Edit.alike {e : Element} {content content' : Forest} (he : e.name ∈ ["td", "th"])
    (hinline : content.Inline) (h : content.Edit content') (next : Forest) :
    (element e content next).Alike (element e content' next) := by
  cases h with
  | reset hreset =>
    have hwords := hreset.words_eq [] []
    simp only [List.nil_append, List.append_nil] at hwords
    exact .cell he hinline (hreset.inline_iff.1 hinline) hwords (.refl next)
  | pad hbefore hafter =>
    exact .cell he hinline ((inline_padded _ _ content).2 hinline)
      (words_padded hbefore hafter content).symm (.refl next)

end Forest

end OpcodeTable.Html
