import Entitlement.Text.Split

-- The pieces of a text and the text itself: where it is cut, and what no piece holds.
namespace Entitlement.Text

variable {separator : Char}

theorem split_ne_nil (separator : Char) (cs : List Char) : split separator cs ≠ [] := by
  cases cs with
  | nil => exact List.cons_ne_nil _ _
  | cons c rest =>
    unfold split
    split
    · exact List.cons_ne_nil _ _
    · split <;> exact List.cons_ne_nil _ _

-- The pieces of a text that does not start with the separator: the character joins the first of the others.
theorem split_cons_of_ne {c : Char} (other : c ≠ separator) (rest : List Char) :
    ∃ piece pieces, split separator rest = piece :: pieces ∧
      split separator (c :: rest) = (c :: piece) :: pieces := by
  obtain ⟨piece,pieces,parts⟩ := List.exists_cons_of_ne_nil (split_ne_nil separator rest)
  exact ⟨piece,pieces,parts,by simp only [split,if_neg other,parts]⟩

-- The pieces are those of the standard library, whose laws of cutting and joining apply.
theorem split_eq_splitOn (separator : Char) (cs : List Char) : split separator cs = cs.splitOn separator := by
  induction cs with
  | nil => rw [List.splitOn_nil]; rfl
  | cons c rest ih =>
    rw [List.splitOn_cons_eq_if_modifyHead,← ih]
    by_cases same : c = separator
    · simp [split,same]
    · obtain ⟨piece,pieces,parts,whole⟩ := split_cons_of_ne same rest
      simp [same,parts,whole]

theorem split_append (first second : List Char) :
    split separator (first ++ separator :: second) = split separator first ++ split separator second := by
  simp only [split_eq_splitOn]
  apply List.splitOn_append_cons_self

theorem split_of_not_mem {cs : List Char} (free : separator ∉ cs) : split separator cs = [cs] := by
  rw [split_eq_splitOn]
  apply List.splitOn_eq_singleton free

theorem intercalate_split (separator : Char) (cs : List Char) : [separator].intercalate (split separator cs) = cs := by
  rw [split_eq_splitOn]
  apply List.intercalate_splitOn

theorem split_intercalate {pieces : List (List Char)} (filled : pieces ≠ [])
    (free : ∀ piece ∈ pieces, separator ∉ piece) : split separator ([separator].intercalate pieces) = pieces := by
  rw [split_eq_splitOn]
  apply List.splitOn_intercalate separator free filled

theorem not_mem_piece {cs piece : List Char} (member : piece ∈ split separator cs) : separator ∉ piece := by
  induction cs generalizing piece with
  | nil =>
    rw [List.mem_singleton.mp member]
    exact List.not_mem_nil
  | cons c rest ih =>
    by_cases same : c = separator
    · simp only [split,if_pos same,List.mem_cons] at member
      rcases member with rfl | later
      · exact List.not_mem_nil
      · exact ih later
    · obtain ⟨first,pieces,parts,whole⟩ := split_cons_of_ne same rest
      rw [whole] at member
      rcases List.mem_cons.mp member with rfl | later
      · have free : separator ∉ first := ih (parts ▸ List.mem_cons_self)
        exact List.not_mem_cons_of_ne_of_not_mem (Ne.symm same) free
      · exact ih (parts ▸ List.mem_cons_of_mem first later)

theorem lines_append {line : List Char} (free : '\n' ∉ line) (rest : List Char) :
    lines (line ++ '\n' :: rest) = dropReturn line :: lines rest := by
  rw [lines,lines,split_append,split_of_not_mem free]
  obtain ⟨piece,pieces,parts⟩ := List.exists_cons_of_ne_nil (split_ne_nil '\n' rest)
  rw [parts]
  rfl

theorem mem_linesOfPieces {pieces : List (List Char)} {line : List Char} (member : line ∈ linesOfPieces pieces) :
    ∃ piece ∈ pieces, line ⊆ piece := by
  induction pieces using linesOfPieces.induct with
  | case1 => cases member
  | case2 last empty => simp only [linesOfPieces,if_pos empty] at member; cases member
  | case3 last some =>
    simp only [linesOfPieces,if_neg some] at member
    exact ⟨last,List.mem_cons_self,(List.mem_singleton.mp member) ▸ List.Subset.refl _⟩
  | case4 piece pieces more ih =>
    rw [linesOfPieces] at member
    · rcases List.mem_cons.mp member with rfl | later
      · refine ⟨piece,List.mem_cons_self,?_⟩
        unfold dropReturn
        split
        · exact List.dropLast_subset piece
        · exact List.Subset.refl piece
      · obtain ⟨other,found,part⟩ := ih later
        exact ⟨other,List.mem_cons_of_mem _ found,part⟩
    · exact more

theorem not_mem_line {cs line : List Char} (member : line ∈ lines cs) : '\n' ∉ line := by
  obtain ⟨piece,found,part⟩ := mem_linesOfPieces member
  exact fun feed => not_mem_piece found (part feed)

theorem splitFirst_append {first : List Char} (free : separator ∉ first) (second : List Char) :
    splitFirst separator (first ++ separator :: second) = some (first,second) := by
  induction first with
  | nil => simp [splitFirst]
  | cons c rest ih =>
    obtain ⟨other,later⟩ := List.ne_and_not_mem_of_not_mem_cons free
    simp [splitFirst,Ne.symm other,ih later]

theorem splitFirst_eq_some {cs : List Char} {parts : List Char × List Char}
    (cut : splitFirst separator cs = some parts) : cs = parts.1 ++ separator :: parts.2 := by
  induction cs generalizing parts with
  | nil => cases cut
  | cons c rest ih =>
    by_cases same : c = separator
    · simp only [splitFirst,if_pos same,Option.some.injEq] at cut
      rw [← cut,same]
      rfl
    · simp only [splitFirst,if_neg same,Option.map_eq_some_iff] at cut
      obtain ⟨later,found,rfl⟩ := cut
      rw [ih found]
      rfl

theorem contains_iff {part cs : List Char} : contains part cs = true ↔ part <:+: cs := by
  induction cs with
  | nil => rw [contains,List.isEmpty_iff,List.infix_nil]
  | cons c rest ih => rw [contains,Bool.or_eq_true,List.isPrefixOf_iff_prefix,ih,List.infix_cons_iff]

end Entitlement.Text
