import OpcodeTable.Text.Line

/-!
# Proofs/Line — a text in lines

A text is made of lines by putting a line end of either kind behind each of them; only the last line
may go without.  Such a text is split into the very lines again, whichever line ends were chosen
(`Lined.lines_eq`).  What stands between the line feeds of any text are its lines, up to a carriage
return at their ends (`lines_text_append`).
-/

namespace OpcodeTable.Text

/-- **A text in lines.**  No line has a line feed in it; in front of a bare line feed none ends in a
carriage return, which would belong to the line end; and without a line end a line is not empty. -/
inductive Lined : List (List Char) → List Char → Prop
  | nil : Lined [] []
  | last {line : List Char} (hfeed : '\n' ∉ line) (hne : line ≠ []) : Lined [line] line
  | lineFeed {line text : List Char} {later : List (List Char)} (hfeed : '\n' ∉ line)
      (hreturn : line.getLast? ≠ some '\r') (hlater : Lined later text) :
      Lined (line :: later) (line ++ '\n' :: text)
  | returnLineFeed {line text : List Char} {later : List (List Char)} (hfeed : '\n' ∉ line)
      (hlater : Lined later text) : Lined (line :: later) (line ++ '\r' :: '\n' :: text)

/-- Lines that have no line end of their own make a text with a line feed behind each of them. -/
theorem lined_flatMap : ∀ {ls : List (List Char)},
    (∀ line ∈ ls, '\n' ∉ line ∧ line.getLast? ≠ some '\r') →
      Lined ls (ls.flatMap (· ++ ['\n'])) := by
  intro ls
  induction ls with
  | nil => intro _; exact .nil
  | cons line ls ih =>
    intro h
    obtain ⟨⟨hfeed, hreturn⟩, hlater⟩ := List.forall_mem_cons.1 h
    rw [List.flatMap_cons, List.append_assoc]
    exact .lineFeed hfeed hreturn (ih hlater)

variable {c : Char} {line rest : List Char}

theorem lines_returnLineFeed (rest : List Char) :
    lines ('\r' :: '\n' :: rest) = [] :: lines rest := by
  simp [lines]

/-- A character that starts no line end belongs to the first line. -/
theorem lines_cons (hfeed : c ≠ '\n') (hreturn : c = '\r' → rest.head? ≠ some '\n') :
    lines (c :: rest) = consLine c (lines rest) := by
  refine lines.eq_4 c rest hfeed fun later hc hrest => ?_
  exact hreturn hc (by rw [hrest, List.head?_cons])

/-- **Characters without a line end** all belong to the first line. -/
theorem lines_append : ∀ {line : List Char}, '\n' ∉ line →
    (line.getLast? = some '\r' → rest.head? ≠ some '\n') →
      lines (line ++ rest) = line.foldr consLine (lines rest) := by
  intro line
  induction line with
  | nil => intro _ _; rfl
  | cons c line ih =>
    intro hfeed hreturn
    obtain ⟨hc, hline⟩ := List.ne_and_not_mem_of_not_mem_cons hfeed
    have hlater : line.getLast? = some '\r' → rest.head? ≠ some '\n' := fun hlast =>
      hreturn (by rw [List.getLast?_cons, hlast, Option.getD_some])
    rw [List.cons_append, lines_cons hc.symm, ih hline hlater, List.foldr_cons]
    -- a line feed behind `c` would be the next character of the line, or follow it
    intro hcr hhead
    cases line with
    | nil => exact hreturn (by rw [hcr, List.getLast?_singleton]) hhead
    | cons d line =>
      rw [List.cons_append, List.head?_cons, Option.some.injEq] at hhead
      exact hline (hhead ▸ List.mem_cons_self)

theorem foldr_consLine_cons (line first : List Char) (later : List (List Char)) :
    line.foldr consLine (first :: later) = (line ++ first) :: later := by
  induction line with
  | nil => rfl
  | cons c line ih => rw [List.foldr_cons, ih, consLine_cons, List.cons_append]

theorem foldr_consLine_nil (hne : line ≠ []) : line.foldr consLine [] = [line] := by
  obtain ⟨before, c, rfl⟩ := (List.eq_nil_or_concat line).resolve_left hne
  rw [List.concat_eq_append, List.foldr_append, List.foldr_cons, List.foldr_nil, consLine_nil,
    foldr_consLine_cons]

/-! ## Lines that end -/

/-- **A line less one carriage return** at its end, which a line feed behind it would take along. -/
def withoutReturn (line : List Char) : List Char :=
  if line.getLast? = some '\r' then line.dropLast else line

@[simp] theorem withoutReturn_concat (line : List Char) :
    withoutReturn (line ++ ['\r']) = line := by
  rw [withoutReturn, if_pos List.getLast?_concat, List.dropLast_concat]

theorem withoutReturn_of_ne (h : line.getLast? ≠ some '\r') : withoutReturn line = line := if_neg h

/-- A line has no carriage return at its end, or has one behind what is left without it. -/
theorem withoutReturn_cases (line : List Char) :
    line.getLast? ≠ some '\r' ∧ withoutReturn line = line ∨
      line = withoutReturn line ++ ['\r'] := by
  by_cases hlast : line.getLast? = some '\r'
  · obtain ⟨before, rfl⟩ := List.getLast?_eq_some_iff.1 hlast
    exact .inr (by rw [withoutReturn_concat])
  · exact .inl ⟨hlast, withoutReturn_of_ne hlast⟩

theorem withoutReturn_eq_self : withoutReturn line = line ↔ line.getLast? ≠ some '\r' := by
  refine ⟨fun h => ?_, withoutReturn_of_ne⟩
  rcases withoutReturn_cases line with ⟨hlast, -⟩ | hline
  · exact hlast
  · rw [h] at hline
    simpa using congrArg List.length hline

theorem withoutReturn_prefix (line : List Char) : withoutReturn line <+: line := by
  rcases withoutReturn_cases line with ⟨-, h⟩ | h
  · exact ⟨[], (List.append_nil _).trans h⟩
  · exact ⟨['\r'], h.symm⟩

/-- A carriage return at the end is one of the last part. -/
theorem withoutReturn_append {front : List Char} (h : front.getLast? ≠ some '\r')
    (line : List Char) : withoutReturn (front ++ line) = front ++ withoutReturn line := by
  rcases withoutReturn_cases line with ⟨hlast, hline⟩ | hline
  · rw [hline, withoutReturn_of_ne]
    rw [List.getLast?_append, ne_eq, Option.or_eq_some_iff]
    exact not_or.2 ⟨hlast, fun hfront => h hfront.2⟩
  · have hwhole : front ++ line = front ++ withoutReturn line ++ ['\r'] := by
      rw [List.append_assoc, ← hline]
    rw [hwhole, withoutReturn_concat]

/-- **A line feed ends a line**, together with a carriage return in front of it. -/
theorem lines_append_lineFeed (hfeed : '\n' ∉ line) (rest : List Char) :
    lines (line ++ '\n' :: rest) = withoutReturn line :: lines rest := by
  by_cases hlast : line.getLast? = some '\r'
  · obtain ⟨before, rfl⟩ := List.getLast?_eq_some_iff.1 hlast
    have hbefore : '\n' ∉ before := fun hmem => hfeed (List.mem_append_left _ hmem)
    rw [withoutReturn_concat, List.append_assoc, List.singleton_append,
      lines_append hbefore fun _ => by simp, lines_returnLineFeed, foldr_consLine_cons,
      List.append_nil]
  · rw [withoutReturn_of_ne hlast, lines_append hfeed fun hreturn => absurd hreturn hlast,
      lines_lineFeed, foldr_consLine_cons, List.append_nil]

/-- **Lines with a line feed behind each** are the first lines of a text. -/
theorem lines_flatMap_append : ∀ {ls : List (List Char)}, (∀ line ∈ ls, '\n' ∉ line) → ∀ rest,
    lines (ls.flatMap (· ++ ['\n']) ++ rest) = ls.map withoutReturn ++ lines rest := by
  intro ls
  induction ls with
  | nil => intro _ rest; rfl
  | cons line ls ih =>
    intro h rest
    obtain ⟨hline, hls⟩ := List.forall_mem_cons.1 h
    rw [List.flatMap_cons, List.append_assoc, List.append_assoc, List.singleton_append,
      lines_append_lineFeed hline, ih hls, List.map_cons, List.cons_append]

/-- **A text in lines is split into them.** -/
theorem Lined.lines_eq {ls : List (List Char)} {text : List Char} (h : Lined ls text) :
    lines text = ls := by
  induction h with
  | nil => rfl
  | @last line hfeed hne =>
    have hsplit : lines (line ++ []) = line.foldr consLine (lines []) :=
      lines_append hfeed fun _ => by simp
    rwa [List.append_nil, lines_nil, foldr_consLine_nil hne] at hsplit
  | lineFeed hfeed hreturn _ ih =>
    rw [lines_append_lineFeed hfeed, withoutReturn_of_ne hreturn, ih]
  | @returnLineFeed line text _ hfeed _ ih =>
    have hline : '\n' ∉ line ++ ['\r'] := by simpa using hfeed
    rw [List.append_cons, lines_append_lineFeed hline, withoutReturn_concat, ih]

/-- No line has a line feed in it. -/
theorem lineFeed_notMem_of_mem_lines (text : List Char) : ∀ line ∈ lines text, '\n' ∉ line := by
  fun_induction lines text with
  | case1 => exact fun line hline => absurd hline List.not_mem_nil
  | case2 rest ih => exact List.forall_mem_cons.2 ⟨List.not_mem_nil, ih⟩
  | case3 rest ih => exact List.forall_mem_cons.2 ⟨List.not_mem_nil, ih⟩
  | case4 c rest hfeed _ ih =>
    have hc : '\n' ≠ c := Ne.symm hfeed
    cases hlines : lines rest with
    | nil => exact List.forall_mem_singleton.2 (by simpa using hc)
    | cons first later =>
      rw [hlines] at ih
      obtain ⟨hfirst, hlater⟩ := List.forall_mem_cons.1 ih
      exact List.forall_mem_cons.2 ⟨List.not_mem_cons_of_ne_of_not_mem hc hfirst, hlater⟩

/-! ## Pieces between line feeds -/

/-- The pieces of a text between the characters it is split at have none of them left. -/
theorem notMem_of_mem_splitOn {c : Char} : ∀ {text piece : List Char},
    piece ∈ text.splitOn c → c ∉ piece := by
  intro text
  induction text with
  | nil => intro piece h; simp_all
  | cons d text ih =>
    intro piece h
    rw [List.splitOn_cons_eq_if_modifyHead] at h
    split at h
    · rcases List.mem_cons.1 h with rfl | h
      · exact List.not_mem_nil
      · exact ih h
    · rename_i hd
      obtain ⟨first, others, hsplit⟩ := List.exists_cons_of_ne_nil (List.splitOn_ne_nil c text)
      rw [hsplit, List.modifyHead_cons] at h
      rcases List.mem_cons.1 h with rfl | h
      · have hne : c ≠ d := fun heq => hd (by simp [heq])
        exact fun hmem => ih (hsplit ▸ List.mem_cons_self)
          ((List.mem_cons.1 hmem).resolve_left hne)
      · exact ih (hsplit ▸ List.mem_cons_of_mem _ h)

theorem joinLines_splitOn (text : List Char) : joinLines (text.splitOn '\n') = text :=
  List.intercalate_splitOn '\n'

/-- The joined lines with one more line feed: then each line has one behind it. -/
theorem joinLines_append_lineFeed : ∀ {ls : List (List Char)}, ls ≠ [] →
    joinLines ls ++ ['\n'] = ls.flatMap (· ++ ['\n']) := by
  intro ls
  induction ls with
  | nil => intro h; exact absurd rfl h
  | cons line ls ih =>
    intro _
    cases ls with
    | nil => rw [joinLines, List.intercalate_singleton, List.flatMap_singleton]
    | cons next later =>
      rw [List.flatMap_cons, ← ih (List.cons_ne_nil _ _), joinLines, List.intercalate_cons_cons,
        List.append_assoc, List.append_assoc, ← joinLines, List.append_assoc]

/-- **The lines of a text with a line feed behind it** are its pieces between line feeds, less a
carriage return at the end of each. -/
theorem lines_text_append (text rest : List Char) :
    lines (text ++ '\n' :: rest) = (text.splitOn '\n').map withoutReturn ++ lines rest := by
  have htext : text ++ ['\n'] = (text.splitOn '\n').flatMap (· ++ ['\n']) := by
    rw [← joinLines_append_lineFeed (List.splitOn_ne_nil _ _), joinLines_splitOn]
  rw [List.append_cons, htext, lines_flatMap_append fun _ => notMem_of_mem_splitOn]

end OpcodeTable.Text
