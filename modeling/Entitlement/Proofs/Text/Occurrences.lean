import Entitlement.Proofs.Text.Split

-- How often a text occurs in another one. Occurrences are counted from the left and do not overlap; no other choice of
-- places has more of them.
namespace Entitlement.Text

-- So many characters still belong to the last occurrence.
def occurrencesFrom (part : List Char) : Nat → List Char → Nat
  | _, [] => 0
  | passed + 1, _ :: rest => occurrencesFrom part passed rest
  | 0, c :: rest =>
    if part <+: c :: rest then occurrencesFrom part (part.length - 1) rest + 1 else occurrencesFrom part 0 rest

def occurrences (part cs : List Char) : Nat := occurrencesFrom part 0 cs

-- So many places where a part stands, none of them over another one.
inductive Holds (part : List Char) : List Char → Nat → Prop
  | none (cs : List Char) : Holds part cs 0
  | next (before : List Char) {rest : List Char} {n : Nat} (holds : Holds part rest n) :
      Holds part (before ++ (part ++ rest)) (n + 1)

variable {part before cs rest : List Char} {c : Char} {n : Nat}

theorem Holds.behind (holds : Holds part cs n) (before : List Char) : Holds part (before ++ cs) n := by
  cases holds with
  | none => exact .none _
  | next further holds => simpa only [List.append_assoc] using Holds.next (before ++ further) holds

theorem Holds.length_le (holds : Holds part cs (n + 1)) : part.length ≤ cs.length := by
  cases holds with
  | next before holds =>
    simp only [List.length_append]
    omega

-- Whoever drops the length of a part loses the first place at most.
theorem Holds.drop (holds : Holds part cs (n + 1)) : Holds part (cs.drop part.length) n := by
  cases holds with
  | @next before rest _ holds =>
    have within : part.length ≤ (before ++ part).length := by
      rw [List.length_append]
      omega
    rw [← List.append_assoc,List.drop_append_of_le_length within]
    exact holds.behind _

theorem Holds.tail (holds : Holds part (c :: rest) n) (differs : ¬ part <+: c :: rest) : Holds part rest n := by
  generalize same : c :: rest = cs at holds
  cases holds with
  | none => exact .none _
  | next before holds =>
    cases before with
    | nil => exact absurd ⟨_,same.symm⟩ differs
    | cons first before =>
      cases same
      exact .next before holds

theorem occurrencesFrom_eq (passed : Nat) : occurrencesFrom part passed cs = occurrences part (cs.drop passed) := by
  induction cs generalizing passed with
  | nil =>
    rw [List.drop_nil]
    cases passed <;> rfl
  | cons c rest ih =>
    cases passed with
    | zero => rfl
    | succ passed => exact ih passed

theorem occurrences_passing (differs : ¬ part <+: c :: rest) :
    occurrences part (c :: rest) = occurrences part rest := if_neg differs

section Filled

variable (filled : part ≠ [])
include filled

theorem occurrences_starting (starts : part <+: c :: rest) :
    occurrences part (c :: rest) = occurrences part ((c :: rest).drop part.length) + 1 := by
  have length : part.length = part.length - 1 + 1 := (Nat.sub_add_cancel (List.length_pos_iff.mpr filled)).symm
  rw [occurrences,occurrencesFrom,if_pos starts,occurrencesFrom_eq,length,List.drop_succ_cons,Nat.add_sub_cancel]

theorem length_drop_lt : ((c :: rest).drop part.length).length < (c :: rest).length := by
  have positive := List.length_pos_iff.mpr filled
  rw [List.length_drop,List.length_cons]
  omega

theorem holds_occurrences (cs : List Char) : Holds part cs (occurrences part cs) := by
  induction length : cs.length using Nat.strongRecOn generalizing cs with
  | ind length ih =>
    subst length
    cases cs with
    | nil => exact .none _
    | cons c rest =>
      by_cases starts : part <+: c :: rest
      · obtain ⟨after,same⟩ := id starts
        have later := ih _ (length_drop_lt filled) _ rfl
        rw [occurrences_starting filled starts]
        rw [← same,List.drop_left] at later ⊢
        exact .next [] later
      · rw [occurrences_passing starts]
        exact (ih _ (Nat.lt_succ_self _) rest rfl).behind [c]

theorem Holds.le_occurrences (holds : Holds part cs n) : n ≤ occurrences part cs := by
  induction length : cs.length using Nat.strongRecOn generalizing cs n with
  | ind length ih =>
    subst length
    cases n with
    | zero => exact Nat.zero_le _
    | succ n =>
      cases cs with
      | nil => exact absurd (List.length_eq_zero_iff.mp (Nat.le_zero.mp holds.length_le)) filled
      | cons c rest =>
        by_cases starts : part <+: c :: rest
        · rw [occurrences_starting filled starts]
          exact Nat.succ_le_succ (ih _ (length_drop_lt filled) holds.drop rfl)
        · rw [occurrences_passing starts]
          exact ih _ (Nat.lt_succ_self _) (holds.tail starts) rfl

-- What stands at the end of a text, and nowhere before it, occurs once.
theorem occurrences_last (absent : ¬ part <:+: before) : occurrences part (before ++ part) = 1 := by
  have once : 1 ≤ occurrences part (before ++ part) := by
    refine Holds.le_occurrences filled ?_
    simpa only [List.append_nil] using Holds.next before (.none [])
  refine Nat.le_antisymm (Nat.not_lt.mp fun more => absent ?_) once
  have holds := holds_occurrences filled (before ++ part)
  obtain ⟨n,twice⟩ : ∃ n, occurrences part (before ++ part) = n + 2 := Nat.exists_eq_add_of_le' more
  rw [twice] at holds
  generalize same : before ++ part = cs at holds
  cases holds with
  | @next first rest _ holds =>
    -- The second place takes a whole length behind the first one, which is therefore over before the end begins.
    have length := holds.length_le
    have lengths := congrArg List.length same
    simp only [List.length_append] at lengths
    have starts : first ++ part <+: before :=
      List.prefix_of_prefix_length_le ⟨rest,by rw [same,List.append_assoc]⟩ (List.prefix_append before part) (by
        rw [List.length_append]
        omega)
    exact (List.suffix_append first part).isInfix.trans starts.isInfix

end Filled

end Entitlement.Text
