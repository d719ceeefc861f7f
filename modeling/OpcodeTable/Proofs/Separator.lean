import Mathlib.Data.List.Forall2

/-!
# Proofs/Separator — texts that can be told apart

Two fields behind each other are told apart where a character that one of them has not stands
between them (`append_cons_inj`, `append_cons_inj_last`).  Items written one behind the other are
told apart if each can be told from what follows it (`flatMap_append_inj_iff`).
-/

namespace OpcodeTable.Text

variable {c : Char} {front front' back back' : List Char}

/-- **The text in front of the first** `c`, and what stands behind it. -/
theorem append_cons_inj (hfront : c ∉ front) (hfront' : c ∉ front')
    (h : front ++ c :: back = front' ++ c :: back') : front = front' ∧ back = back' := by
  -- if the fronts differ in length, the longer one has the other's `c` in it
  rcases List.append_eq_append_iff.1 h with ⟨gap, rfl, hgap⟩ | ⟨gap, rfl, hgap⟩
  all_goals
    rcases List.cons_eq_append_iff.1 hgap with ⟨rfl, hback⟩ | ⟨gap, rfl, hback⟩
  · exact ⟨(List.append_nil _).symm, (List.cons.inj hback).2.symm⟩
  · exact absurd (List.mem_append_right _ List.mem_cons_self) hfront'
  · exact ⟨List.append_nil _, (List.cons.inj hback).2⟩
  · exact absurd (List.mem_append_right _ List.mem_cons_self) hfront

/-- **The text behind the last** `c`, and what stands in front of it. -/
theorem append_cons_inj_last (hback : c ∉ back) (hback' : c ∉ back')
    (h : front ++ c :: back = front' ++ c :: back') : front = front' ∧ back = back' := by
  -- read from the right, the last `c` is the first
  have hreverse := congrArg List.reverse h
  simp only [List.reverse_append, List.reverse_cons, List.append_assoc, List.singleton_append]
    at hreverse
  obtain ⟨hlast, hfirst⟩ :=
    append_cons_inj (mt List.mem_reverse.1 hback) (mt List.mem_reverse.1 hback') hreverse
  exact ⟨List.reverse_inj.1 hfirst, List.reverse_inj.1 hlast⟩

/-- **Items written one behind the other** are told apart one by one, if each of them can be told
from what follows and none starts like the text behind the last. -/
theorem flatMap_append_inj_iff {α : Type} {write : α → List Char} {valid : α → Prop}
    {alike : α → α → Prop} {stop stop' : List Char}
    (hitem : ∀ {item item' rest rest'}, valid item → valid item' →
      (write item ++ rest = write item' ++ rest' ↔ alike item item' ∧ rest = rest'))
    (hstop : ∀ {item rest}, valid item → write item ++ rest ≠ stop)
    (hstop' : ∀ {item rest}, valid item → write item ++ rest ≠ stop') :
    ∀ {items items'}, (∀ item ∈ items, valid item) → (∀ item ∈ items', valid item) →
      (items.flatMap write ++ stop = items'.flatMap write ++ stop' ↔
        List.Forall₂ alike items items' ∧ stop = stop') := by
  intro items
  induction items with
  | nil =>
    intro items' _ hvalid'
    cases items' with
    | nil => rw [List.flatMap_nil, List.nil_append, List.nil_append, and_iff_right .nil]
    | cons item' items' =>
      have hitem' := hvalid' item' List.mem_cons_self
      rw [List.flatMap_nil, List.nil_append, List.flatMap_cons, List.append_assoc]
      exact iff_of_false (hstop hitem').symm (by rintro ⟨⟨⟩, -⟩)
  | cons item items ih =>
    intro items' hvalid hvalid'
    obtain ⟨hfirst, hitems⟩ := List.forall_mem_cons.1 hvalid
    rw [List.flatMap_cons, List.append_assoc]
    cases items' with
    | nil => exact iff_of_false (hstop' hfirst) (by rintro ⟨⟨⟩, -⟩)
    | cons item' items' =>
      obtain ⟨hfirst', hitems'⟩ := List.forall_mem_cons.1 hvalid'
      rw [List.flatMap_cons, List.append_assoc, hitem hfirst hfirst', ih hitems hitems',
        List.forall₂_cons, and_assoc]

end OpcodeTable.Text
