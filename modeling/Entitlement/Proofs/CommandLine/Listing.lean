import Entitlement.CommandLine.Lines

-- What people read in the list of migrations. Numbers stand at the start of a line and the products of a path below its
-- number, so that what is read under a number are the products of one path, which is available.
namespace Entitlement.CommandLine

open Registration

def heading (number : Nat) : String := toString number ++ " |"

def productLine (plan : MigrationPlan) (p : Product) : String :=
  "  " ++ p.displayName ++ (if plan.isInstalled p then " (already installed)" else "")

def isIndented (line : String) : Bool := line.toList.take 2 = [' ',' ']

-- The indented lines that follow a number.
def linesUnder (number : Nat) (lines : List String) : List String :=
  ((lines.dropWhile (· ≠ heading number)).drop 1).takeWhile isIndented

theorem toString_injective {n k : Nat} (same : toString n = toString k) : n = k := by
  have digits := congrArg String.toList same
  rw [Nat.toString_eq_repr,Nat.toString_eq_repr,Nat.toList_repr,Nat.toList_repr] at digits
  rw [← @Nat.ofDigitChars_ten_toDigits n,digits,Nat.ofDigitChars_ten_toDigits]

theorem heading_injective {n k : Nat} (same : heading n = heading k) : n = k := by
  have texts := congrArg String.toList same
  simp only [heading,String.toList_append] at texts
  exact toString_injective (String.toList_inj.mp (List.append_cancel_right texts))

theorem isIndented_productLine (plan : MigrationPlan) (p : Product) : isIndented (productLine plan p) = true := by
  simp [isIndented,productLine]

-- A number starts with a digit.
theorem isIndented_heading (number : Nat) : isIndented (heading number) = false := by
  obtain ⟨c,rest,digits⟩ := List.exists_cons_of_ne_nil (@Nat.toDigits_ne_nil number 10)
  have digit : c.isDigit := Nat.isDigit_of_mem_toDigits (by decide) (by decide) (digits ▸ List.mem_cons_self)
  have text : (heading number).toList = c :: (rest ++ [' ','|']) := by
    rw [heading,String.toList_append,Nat.toString_eq_repr,Nat.toList_repr,digits]
    rfl
  have first : c ≠ ' ' := by
    intro blank
    rw [blank] at digit
    cases digit
  simp [isIndented,text,first]

theorem productLine_ne_heading (plan : MigrationPlan) (p : Product) (number : Nat) :
    productLine plan p ≠ heading number := by
  intro same
  have indented := isIndented_productLine plan p
  rw [same,isIndented_heading] at indented
  cases indented

variable {plan : MigrationPlan}

theorem pathLines_eq (number : Nat) (path : MigrationPath) :
    pathLines plan number path = heading number :: path.map (productLine plan) := rfl

-- What follows the products of a path: the next number, or what stands below the list.
theorem takeWhile_products {path : MigrationPath} {after : List String}
    (ends : ∀ line ∈ after.head?, isIndented line = false) :
    (path.map (productLine plan) ++ after).takeWhile isIndented = path.map (productLine plan) := by
  have all : ∀ line ∈ path.map (productLine plan), isIndented line = true := by
    intro line member
    obtain ⟨p,_,rfl⟩ := List.mem_map.mp member
    exact isIndented_productLine plan p
  rw [List.takeWhile_append_of_pos all]
  cases after with
  | nil => simp
  | cons line more =>
    rw [List.takeWhile_cons_of_neg (by simp [ends line (by simp)]),List.append_nil]

theorem linesUnder_numbered {paths : List MigrationPath} {after : List String}
    (ends : ∀ line ∈ after.head?, isIndented line = false) {path : MigrationPath} {index : Nat}
    (found : paths[index]? = some path) (first : Nat) :
    linesUnder (first + index) (numberedLines plan first paths ++ after) = path.map (productLine plan) := by
  induction paths generalizing index first with
  | nil => cases found
  | cons head rest ih =>
    rw [numberedLines,pathLines_eq,List.append_assoc,List.cons_append]
    cases index with
    | zero =>
      cases found
      have next : ∀ line ∈ (numberedLines plan (first + 1) rest ++ after).head?, isIndented line = false := by
        cases rest with
        | nil => exact ends
        | cons other others =>
          intro line member
          cases member
          exact isIndented_heading (first + 1)
      rw [linesUnder,Nat.add_zero,List.dropWhile_cons_of_neg (by simp),List.drop_one,List.tail_cons,
        takeWhile_products next]
    | succ index =>
      have different : heading first ≠ heading (first + (index + 1)) := by
        intro same
        have := heading_injective same
        omega
      have passed : ∀ line ∈ head.map (productLine plan), decide (line ≠ heading (first + (index + 1))) = true := by
        intro line member
        obtain ⟨p,_,rfl⟩ := List.mem_map.mp member
        exact decide_eq_true (productLine_ne_heading plan p _)
      have later := ih (List.getElem?_cons_succ ▸ found) (first + 1)
      rw [linesUnder,List.dropWhile_cons_of_pos (by simpa using different),List.dropWhile_append_of_pos passed]
      rwa [Nat.add_assoc,Nat.add_comm 1 index] at later

-- Each number of the list stands for the path of that number.
theorem linesUnder_migrationLines {path : MigrationPath} {number : Nat} (positive : 1 ≤ number)
    (found : plan.available[number - 1]? = some path) :
    linesUnder number (migrationLines plan) = path.map (productLine plan) := by
  have present : plan.available.isEmpty = false := by
    cases listed : plan.available with
    | nil => rw [listed] at found; cases found
    | cons => rfl
  have ends : ∀ line ∈ (if plan.unavailable.isEmpty then []
      else "" :: "Unavailable migrations:" :: plan.unavailable.map unavailableLine).head?, isIndented line = false := by
    intro line member
    split at member
    · cases member
    · cases member
      rfl
  have under : linesUnder (1 + (number - 1)) (numberedLines plan 1 plan.available ++ _) = _ :=
    linesUnder_numbered ends found 1
  rw [Nat.add_sub_cancel' positive] at under
  rw [migrationLines,present]
  exact under

end Entitlement.CommandLine
