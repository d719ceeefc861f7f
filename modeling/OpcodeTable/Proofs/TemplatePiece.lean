import OpcodeTable.Proofs.Separator
import OpcodeTable.Proofs.Template

/-!
# Proofs/TemplatePiece — a template in pieces

A template is texts with places for values between them.  If none of its texts can be mistaken for
the start of a placeholder, and no value has an opening brace, then filling in puts each value in
its place and does nothing else (`fill_append_of_pieces`).  Unlike the one pass of
`Templates.instantiate` this takes values in lower-case letters, and closing braces in them.
-/

namespace OpcodeTable.Templates

open Text (substitute)

variable {key other value template : String} {values : List (String × String)}

/-! ## Texts and placeholders that are passed over -/

/-- **An inert text**: behind each of its opening braces stands a character that no placeholder has
there, so none starts in the text, whatever follows. -/
def Inert : List Char → Prop
  | [] => True
  | c :: rest =>
    (c = openBrace → (rest.head?.any fun d => !d.isLower && d != closeBrace) = true) ∧ Inert rest

instance decidableInert : DecidablePred Inert
  | [] => isTrue trivial
  | _ :: rest =>
    have := decidableInert rest
    inferInstanceAs (Decidable (_ ∧ _))

theorem inert_of_notMem {text : List Char} (h : openBrace ∉ text) : Inert text := by
  induction text with
  | nil => trivial
  | cons c text ih =>
    obtain ⟨hc, htext⟩ := List.ne_and_not_mem_of_not_mem_cons h
    exact ⟨fun hopen => absurd hopen.symm hc, ih htext⟩

/-- No placeholder starts in an inert text: its brace stands in front of no letter and no other
brace. -/
theorem Inert.not_prefix (hkey : IsKey key) {c : Char} {text : List Char} (h : Inert (c :: text))
    (rest : List Char) : ¬ placeholder key <+: c :: (text ++ rest) := by
  rw [placeholder_eq, List.cons_prefix_cons]
  rintro ⟨hopen, hname⟩
  have hnext := h.1 hopen.symm
  cases text with
  | nil => cases hnext
  | cons d text =>
    obtain ⟨hlower, hclose⟩ : d.isLower = false ∧ d ≠ closeBrace := by simpa using hnext
    cases hletters : key.toList with
    | nil =>
      rw [hletters, List.nil_append, List.cons_append, List.cons_prefix_cons] at hname
      exact hclose hname.1.symm
    | cons letter letters =>
      rw [hletters, List.cons_append, List.cons_append, List.cons_prefix_cons] at hname
      have hletter := hkey letter (hletters ▸ List.mem_cons_self)
      rw [hname.1, hlower] at hletter
      cases hletter

/-- An inert text is passed over. -/
theorem substitute_inert_append (hkey : IsKey key) : ∀ {text : List Char}, Inert text → ∀ rest,
    substitute (placeholder key) value.toList (text ++ rest)
      = text ++ substitute (placeholder key) value.toList rest := by
  intro text
  induction text with
  | nil => intro _ rest; rfl
  | cons c text ih =>
    intro h rest
    rw [List.cons_append, Text.substitute_cons_of_not_prefix (h.not_prefix hkey rest), ih h.2,
      List.cons_append]

/-- The placeholder of another key is passed over. -/
theorem substitute_placeholder_append (hkey : IsKey key) (hother : IsKey other) (hne : key ≠ other)
    (rest : List Char) : substitute (placeholder key) value.toList (placeholder other ++ rest)
      = placeholder other ++ substitute (placeholder key) value.toList rest := by
  have hnot : ¬ placeholder key <+: openBrace :: (other.toList ++ [closeBrace] ++ rest) := by
    rw [placeholder_eq, List.cons_prefix_cons, List.append_assoc, List.singleton_append]
    rintro ⟨-, later, hlater⟩
    rw [List.append_assoc, List.singleton_append] at hlater
    have hname := (Text.append_cons_inj hkey.close_notMem hother.close_notMem hlater).1
    exact hne (String.toList_inj.1 hname)
  rw [placeholder_eq other, List.cons_append, Text.substitute_cons_of_not_prefix hnot,
    placeholder_eq key, Text.substitute_append_of_notMem hother.open_notMem_append,
    List.cons_append]

/-! ## Pieces -/

/-- **A piece of a template**: a text that stays, or the place for the value of a key. -/
inductive Piece where
  | text (cs : List Char)
  | slot (key : String)
  deriving DecidableEq

namespace Piece

/-- The piece as templates write it. -/
def write : Piece → List Char
  | text cs => cs
  | slot key => placeholder key

/-- The piece with the value of one key put in. -/
def put (pair : String × String) : Piece → Piece
  | text cs => text cs
  | slot key => if key = pair.1 then text pair.2.toList else slot key

/-- The piece filled in: the value of its key, if it has one. -/
def filled (values : List (String × String)) : Piece → List Char
  | text cs => cs
  | slot key => ((values.lookup key).map String.toList).getD (placeholder key)

/-- **A sound piece** is not mistaken for others: its text is inert, its key in letters. -/
def Sound : Piece → Prop
  | text cs => Inert cs
  | slot key => IsKey key

instance : DecidablePred Sound
  | text cs => inferInstanceAs (Decidable (Inert cs))
  | slot key => inferInstanceAs (Decidable (IsKey key))

variable {piece : Piece} {pieces : List Piece} {pair : String × String}

theorem Sound.put (h : piece.Sound) (hvalue : Inert pair.2.toList) : (piece.put pair).Sound := by
  cases piece with
  | text cs => exact h
  | slot key =>
    rw [Piece.put]
    split
    · exact hvalue
    · exact h

/-- To put in one value first changes nothing. -/
theorem filled_put (piece : Piece) :
    (piece.put pair).filled values = piece.filled (pair :: values) := by
  cases piece with
  | text cs => rfl
  | slot key =>
    obtain ⟨name, value⟩ := pair
    by_cases h : key = name
    · simp [Piece.put, filled, h]
    · simp [Piece.put, filled, h, List.lookup_cons, beq_eq_false_iff_ne.2 h]

/-- **One pass over the pieces** fills in the places of its key. -/
theorem substitute_write (hkey : IsKey key) (hpieces : ∀ piece ∈ pieces, piece.Sound) :
    substitute (placeholder key) value.toList (pieces.flatMap write)
      = (pieces.map (Piece.put (key, value))).flatMap write := by
  induction pieces with
  | nil => rw [List.flatMap_nil, Text.substitute_nil]; rfl
  | cons piece pieces ih =>
    obtain ⟨hpiece, hlater⟩ := List.forall_mem_cons.1 hpieces
    rw [List.flatMap_cons, List.map_cons, List.flatMap_cons, ← ih hlater]
    cases piece with
    | text cs => exact substitute_inert_append hkey hpiece _
    | slot other =>
      by_cases hsame : other = key
      · rw [Piece.put, if_pos hsame, hsame]
        exact Text.substitute_append_self (placeholder_ne_nil key) _
      · rw [Piece.put, if_neg hsame]
        exact substitute_placeholder_append hkey hpiece (Ne.symm hsame) _

end Piece

/-- **A template in sound pieces is filled in piece by piece**, if no value has an opening brace. -/
theorem toList_fill_of_pieces {pieces : List Piece} (hkeys : ∀ pair ∈ values, IsKey pair.1)
    (hvalues : ∀ pair ∈ values, openBrace ∉ pair.2.toList)
    (hpieces : ∀ piece ∈ pieces, piece.Sound)
    (htemplate : template.toList = pieces.flatMap Piece.write) :
    (fill template values).toList = pieces.flatMap (Piece.filled values) := by
  rw [fill, String.toList_ofList, htemplate]
  clear htemplate
  induction values generalizing pieces with
  | nil =>
    refine List.flatMap_congr fun piece _ => ?_
    cases piece <;> rfl
  | cons pair values ih =>
    obtain ⟨hkey, hkeys⟩ := List.forall_mem_cons.1 hkeys
    obtain ⟨hvalue, hvalues⟩ := List.forall_mem_cons.1 hvalues
    have hput : ∀ piece ∈ pieces.map (Piece.put pair), piece.Sound :=
      List.forall_mem_map.2 fun piece hpiece => (hpieces piece hpiece).put (inert_of_notMem hvalue)
    rw [List.foldl_cons, Piece.substitute_write hkey hpieces, ih hkeys hvalues hput,
      List.flatMap_map]
    exact List.flatMap_congr fun piece _ => piece.filled_put

/-- The same with a text behind the template. -/
theorem fill_append_of_pieces {pieces : List Piece} (hkeys : ∀ pair ∈ values, IsKey pair.1)
    (hvalues : ∀ pair ∈ values, openBrace ∉ pair.2.toList)
    (hpieces : ∀ piece ∈ pieces, piece.Sound)
    (htemplate : template.toList = pieces.flatMap Piece.write) (rest : List Char) :
    (fill template values).toList ++ rest
      = pieces.foldr (fun piece later => piece.filled values ++ later) rest := by
  rw [toList_fill_of_pieces hkeys hvalues hpieces htemplate]
  clear hpieces htemplate
  induction pieces with
  | nil => rfl
  | cons piece pieces ih => rw [List.flatMap_cons, List.append_assoc, ih, List.foldr_cons]

end OpcodeTable.Templates
