import Mathlib.Data.List.DropRight
import Entitlement.Text.Blank

-- What is left when blanks are trimmed: a part of the text that has none at either end, so that trimming again
-- changes nothing.
namespace Entitlement.Text

theorem dropEnd_eq_rdropWhile (p : Char → Bool) (cs : List Char) : dropEnd p cs = cs.rdropWhile p := rfl

theorem trimmed_subset (cs : List Char) : trimmed cs ⊆ cs := by
  have prefixed : trimmed cs <+: dropBlanks cs := List.rdropWhile_prefix isBlank (dropBlanks cs)
  exact List.Subset.trans prefixed.subset (List.dropWhile_subset isBlank)

theorem last_trimmed {cs : List Char} (some : trimmed cs ≠ []) : isBlank ((trimmed cs).getLast some) = false := by
  have last := List.rdropWhile_last_not isBlank (dropBlanks cs) some
  exact Bool.eq_false_iff.mpr last

theorem head_trimmed {cs : List Char} (some : trimmed cs ≠ []) : isBlank ((trimmed cs).head some) = false := by
  have prefixed : trimmed cs <+: dropBlanks cs := List.rdropWhile_prefix isBlank (dropBlanks cs)
  have present : dropBlanks cs ≠ [] := fun none => some (List.prefix_nil.mp (none ▸ prefixed))
  rw [prefixed.head some]
  exact List.head_dropWhile_not isBlank present

theorem trimmed_trimmed (cs : List Char) : trimmed (trimmed cs) = trimmed cs := by
  by_cases none : trimmed cs = []
  · rw [none]; rfl
  have start : dropBlanks (trimmed cs) = trimmed cs := by
    have head := head_trimmed none
    cases kept : trimmed cs with
    | nil => exact absurd kept none
    | cons c rest =>
      simp only [kept,List.head_cons] at head
      exact List.dropWhile_cons_of_neg (by simp [head])
  rw [trimmed,start,dropEnd_eq_rdropWhile,List.rdropWhile_eq_self_iff]
  intro some
  rw [last_trimmed some]
  exact Bool.false_ne_true

end Entitlement.Text
