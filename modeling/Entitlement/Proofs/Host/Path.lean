import Mathlib.Data.List.DropRight
import Entitlement.Host.Path
import Entitlement.Proofs.Text.Split

-- A path and its pieces. The directory above a path is a row of names at its beginning: the last name that says
-- something is cut off, with all that says nothing around it.
namespace Entitlement.Path

theorem joinNames_cons_cons (first second : List Char) (rest : List (List Char)) :
    joinNames (first :: second :: rest) = first ++ '/' :: joinNames (second :: rest) := by
  simp [joinNames]

theorem joinNames_eq (names : List (List Char)) : joinNames names = ['/'].intercalate names := by
  induction names with
  | nil => rfl
  | cons first others ih =>
    cases others with
    | nil => simp [joinNames]
    | cons second rest =>
      rw [joinNames_cons_cons,ih,List.intercalate_cons_cons]
      simp

theorem joinNames_split (cs : List Char) : joinNames (Text.split '/' cs) = cs := by
  rw [joinNames_eq]
  apply Text.intercalate_split

variable {directory path : String}

theorem joinNames_append (first : List Char) (front back : List (List Char)) :
    joinNames (first :: (front ++ back)) = joinNames (first :: front) ++ back.flatMap ('/' :: ·) := by
  simp [joinNames]

theorem split_joinNames {first : List Char} {rest : List (List Char)} (single : ∀ name ∈ first :: rest, '/' ∉ name) :
    Text.split '/' (joinNames (first :: rest)) = first :: rest := by
  rw [joinNames_eq]
  apply Text.split_intercalate (List.cons_ne_nil first rest) single

-- A directory above a path, which goes on behind it.
structure Above (directory path : String) : Prop where
  begins : directory.toList <+: path.toList
  start : isAbsolute directory = isAbsolute path
  pieces : ∃ front back, Text.split '/' path.toList = front ++ back ∧ back ≠ [] ∧
    (Text.split '/' directory.toList = front ∨ directory = "/")

-- The names before the last one that says something.
theorem names_eq {names : List (List Char)} (filled : dropIdleEnd names ≠ []) :
    ∃ back, back ≠ [] ∧ names = dropIdleEnd (dropIdleEnd names).dropLast ++ back := by
  obtain ⟨idle,whole⟩ := List.rdropWhile_prefix isIdle (l := names)
  obtain ⟨between,part⟩ := List.rdropWhile_prefix isIdle (l := (dropIdleEnd names).dropLast)
  have last := List.dropLast_append_getLast filled
  refine ⟨between ++ (dropIdleEnd names).getLast filled :: idle,by simp,?_⟩
  calc names
    _ = dropIdleEnd names ++ idle := whole.symm
    _ = (dropIdleEnd names).dropLast ++ (dropIdleEnd names).getLast filled :: idle := by rw [List.append_cons,last]
    _ = _ := by
      rw [← List.append_assoc]
      exact congrArg (· ++ _) part.symm

theorem above_absolute {front back : List (List Char)} (parts : Text.split '/' path.toList = [] :: (front ++ back))
    (more : back ≠ []) : Above ("/" ++ String.ofList (joinNames front)) path := by
  have again := joinNames_split path.toList
  have single : ∀ name ∈ [] :: front, '/' ∉ name := by
    intro name member
    refine @Text.not_mem_piece '/' path.toList name ?_
    rw [parts,← List.cons_append]
    exact List.mem_append_left back member
  have slash : ('/' :: joinNames front) = joinNames ([] :: front) ∨ front = [] := by
    cases front with
    | nil => exact .inr rfl
    | cons name others => exact .inl (joinNames_cons_cons [] name others).symm
  have directory : ("/" ++ String.ofList (joinNames front)).toList = '/' :: joinNames front := by simp
  rw [parts,joinNames_append] at again
  have starts : ∃ rest, path.toList = '/' :: rest := by
    obtain ⟨name,others,rfl⟩ := List.exists_cons_of_ne_nil more
    rw [← again]
    cases front with
    | nil => exact ⟨_,rfl⟩
    | cons first rest => exact ⟨_,rfl⟩
  obtain ⟨rest,start⟩ := starts
  refine ⟨?_,?_,[] :: front,back,parts,more,?_⟩
  · rw [directory]
    rcases slash with same | rfl
    · exact ⟨_,by rw [same]; exact again⟩
    · exact ⟨rest,start.symm⟩
  · simp [isAbsolute,start]
  · rw [directory]
    rcases slash with same | rfl
    · exact .inl (by rw [same]; exact split_joinNames single)
    · exact .inr (by simp [joinNames])

theorem above_relative {first : List Char} {front back : List (List Char)} (relative : isAbsolute path = false)
    (parts : Text.split '/' path.toList = first :: (front ++ back)) (more : back ≠ []) :
    Above (String.ofList (joinNames (first :: front))) path := by
  have again := joinNames_split path.toList
  have single : ∀ name ∈ first :: front, '/' ∉ name := by
    intro name member
    refine @Text.not_mem_piece '/' path.toList name ?_
    rw [parts,← List.cons_append]
    exact List.mem_append_left back member
  rw [parts,joinNames_append] at again
  refine ⟨?_,?_,first :: front,back,parts,more,.inl ?_⟩
  · rw [String.toList_ofList]
    exact ⟨_,again⟩
  · rw [relative]
    cases text : joinNames (first :: front) with
    | nil =>
      obtain ⟨name,others,rfl⟩ := List.exists_cons_of_ne_nil more
      rw [text] at again
      simp [isAbsolute,← again] at relative
    | cons c rest =>
      rw [text] at again
      simpa [isAbsolute,← again] using relative
  · rw [String.toList_ofList]
    exact split_joinNames single

theorem above_of_parent? (found : parent? path = some directory) : directory = "" ∨ Above directory path := by
  unfold parent? at found
  cases absolute : isAbsolute path with
  | true =>
    obtain ⟨rest,start⟩ : ∃ rest, path.toList = '/' :: rest := by
      cases cs : path.toList with
      | nil => simp [isAbsolute,cs] at absolute
      | cons c rest => simp only [isAbsolute,cs,List.head?_cons,Option.some.injEq,decide_eq_true_eq] at absolute; exact ⟨rest,by rw [absolute]⟩
    have parts : Text.split '/' path.toList = [] :: Text.split '/' rest := by rw [start]; simp [Text.split]
    rw [if_pos absolute,parts,List.drop_succ_cons,List.drop_zero] at found
    split at found
    · cases found
    rename_i filled
    cases found
    obtain ⟨back,more,whole⟩ := names_eq filled
    exact .inr (above_absolute (parts.trans (congrArg _ whole)) more)
  | false =>
    rw [absolute] at found
    simp only [Bool.false_eq_true,if_false] at found
    split at found
    · cases found
    · rename_i first rest _ parts
      split at found
      · cases found
        exact .inl rfl
      rename_i filled
      cases found
      obtain ⟨back,more,whole⟩ := names_eq filled
      exact .inr (above_relative absolute (parts.trans (congrArg _ whole)) more)
    · cases found

-- Paths behind a directory.

-- A relative path stands at the end of what it is joined to.
theorem join_toList (directory : String) (relative : isAbsolute path = false) :
    ∃ front, (join directory path).toList = front ++ path.toList := by
  unfold join
  rw [relative]
  simp only [Bool.false_eq_true,if_false]
  split
  · exact ⟨[],rfl⟩
  · exact ⟨directory.toList,String.toList_append⟩
  · exact ⟨directory.toList ++ ['/'],by simp⟩

theorem join_of_last {c : Char} (relative : isAbsolute path = false)
    (last : directory.toList.getLast? = some c) (other : c ≠ '/') : join directory path = directory ++ "/" ++ path := by
  unfold join
  rw [relative,last]
  simp only [Bool.false_eq_true,if_false]

end Entitlement.Path
