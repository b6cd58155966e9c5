import Entitlement.CommandLine.Choice
import Entitlement.Proofs.Host.Input

-- Asking for the number of a migration. Each line of the input is looked at in turn; the first one that says something
-- settles the choice, and the lines before it only make the question come again.
namespace Entitlement.CommandLine

open Host
open Text (wholeLines encodeChars)

inductive Verdict where
  | quit
  | number (n : Nat)
deriving DecidableEq

-- What a line says, blanks around it aside.
def verdict? (available : Nat) (line : List Char) : Option Verdict :=
  let word := Text.trimmed line
  if word = ['q'] ∨ word = ['Q'] then some .quit
  else (Text.natural? limit64 word).bind fun n => if 1 ≤ n ∧ n ≤ available then some (.number n) else none

-- The index that a verdict comes to.
def Verdict.index : Verdict → Option Nat
  | quit => none
  | number n => some (n - 1)

theorem toLower_eq_q {c : Char} : c.toLower = 'q' ↔ c = 'q' ∨ c = 'Q' := by
  constructor
  · intro same
    unfold Char.toLower at same
    split at same
    · right
      have value : c.val + 32 = 113 := congrArg Char.val same
      have letter : c.val = 81 := (UInt32.add_sub_cancel c.val 32).symm.trans (congrArg (· - 32) value)
      exact Char.ext letter
    · exact .inl same
  · intro either
    rcases either with rfl | rfl <;> rfl

theorem map_toLower_eq_q {word : List Char} : word.map Char.toLower = ['q'] ↔ word = ['q'] ∨ word = ['Q'] := by
  rcases word with _ | ⟨c,_ | ⟨d,rest⟩⟩
  · simp
  · simp [toLower_eq_q]
  · simp

theorem migrationIndex_inside {n available : Nat} (inside : 1 ≤ n ∧ n ≤ available) :
    migrationIndex n available = .ok (n - 1) := by
  have fits : ¬ (n = 0 || available < n) := by simp; omega
  rw [migrationIndex,if_neg fits]

theorem migrationIndex_outside {n available : Nat} (outside : ¬ (1 ≤ n ∧ n ≤ available)) :
    ∃ text, migrationIndex n available = .error (.message text) := by
  have misses : (n = 0 || available < n) := by simp; omega
  exact ⟨_,by rw [migrationIndex,if_pos misses]⟩

-- What an answer chooses is what its line says.
theorem ofAnswer_eq (available : Nat) (line : List Char) :
    Choice.ofAnswer (String.ofList line) available =
      match verdict? available line with
      | none => .invalid
      | some .quit => .quit
      | some (.number n) => .selected (n - 1) := by
  unfold Choice.ofAnswer verdict?
  simp only [String.toList_ofList]
  by_cases quits : (Text.trimmed line).map Char.toLower = ['q']
  · rw [if_pos quits,if_pos (map_toLower_eq_q.mp quits)]
  rw [if_neg quits,if_neg fun word => quits (map_toLower_eq_q.mpr word)]
  cases Text.natural? limit64 (Text.trimmed line) with
  | none => rfl
  | some n =>
    by_cases inside : 1 ≤ n ∧ n ≤ available
    · simp [migrationIndex_inside inside,inside]
    · obtain ⟨_,refused⟩ := migrationIndex_outside inside
      simp [refused,inside]

-- The rows of calls of an attempt.

theorem ran_print_bind {text : String} {next : Unit → Attempt α} :
    Ran (ExceptT.lift (Host.print text) >>= next) events result ↔
      ∃ rest, events = ⟨.print text,()⟩ :: rest ∧ Ran (next ()) rest result := by
  refine ran_lift_bind.trans ⟨?_,?_⟩
  · intro parts
    obtain ⟨_,_,rest,rfl,printed,later⟩ := parts
    cases Program.runs_question.mp printed
    exact ⟨rest,rfl,later⟩
  · intro parts
    obtain ⟨rest,rfl,later⟩ := parts
    exact ⟨[_],(),rest,rfl,Program.runs_question.mpr rfl,later⟩

theorem ran_ask_bind {q : Question} {next : q.Answer → Attempt α} :
    Ran (@bind Attempt _ (no_index q.Answer) α (ExceptT.lift (ask q)) next) events result ↔
      ∃ answer rest, events = ⟨q,answer⟩ :: rest ∧ Ran (next answer) rest result := by
  refine ran_lift_bind.trans ⟨?_,?_⟩
  · intro parts
    obtain ⟨_,answer,rest,rfl,asked,later⟩ := parts
    cases Program.runs_question.mp asked
    exact ⟨answer,rest,rfl,later⟩
  · intro parts
    obtain ⟨answer,rest,rfl,later⟩ := parts
    exact ⟨[_],answer,rest,rfl,Program.runs_question.mpr rfl,later⟩

def promptEvent : Event := ⟨.print "[num/q]: ",()⟩

def lineEvent (line : List Char) : Event := ⟨.readLine,.ok (String.ofList line)⟩

def hintEvent (available : Nat) : Event :=
  ⟨.print ("Enter a number between 1 and " ++ toString available ++ ", or q to quit." ++ "\n"),()⟩

def unanswered : Failure := .message "no migration selected"

-- How the lines of an input are gone through. One that says nothing is followed by a hint, and the question comes again.
inductive Asked (available : Nat) : List (List Char) → List Event → Except Failure (Option Nat) → Prop where
  | ended : Asked available [] [promptEvent,lineEvent []] (.error unanswered)
  | settled : verdict? available line = some verdict →
      Asked available (line :: later) [promptEvent,lineEvent line] (.ok verdict.index)
  | again : verdict? available line = none → Asked available later events result →
      Asked available (line :: later) (promptEvent :: lineEvent line :: hintEvent available :: events) result

theorem asked_of_ran {available attempts : Nat} {cs : List Char} {rest : Bytes}
    {result : Except Failure (Option Nat)} (enough : (wholeLines cs).length < attempts)
    (ran : Ran (askForMigration available attempts) events result) (hears : Hears (encodeChars cs) events rest) :
    Asked available (wholeLines cs) events result := by
  induction attempts generalizing cs events with
  | zero => omega
  | succ attempts ih =>
    obtain ⟨_,rfl,reading⟩ := ran_print_bind.mp ran
    obtain ⟨_,events,rfl,answered⟩ := ran_ask_bind.mp reading
    obtain ⟨rfl,left⟩ := hears_line (hears_deaf hears ⟨nofun,nofun⟩)
    cases whole : wholeLines cs with
    | nil =>
      cases cs with
      | cons c more => exact absurd whole Text.wholeLines_ne_nil
      | nil =>
        obtain ⟨rfl,rfl⟩ := ran_throw.mp answered
        exact .ended
    | cons line lines =>
      obtain ⟨later,reply,same⟩ := lineReply_line whole
      have present : (String.ofList line).isEmpty = false := by
        have letters := Text.line_ne_nil (whole ▸ List.mem_cons_self)
        rw [← Bool.not_eq_true,String.isEmpty_iff]
        simpa using letters
      rw [reply] at answered left ⊢
      simp only [present,ofAnswer_eq] at answered
      cases said : verdict? available line with
      | some verdict =>
        cases verdict with
        | quit =>
          simp only [said] at answered
          obtain ⟨rfl,rfl⟩ := ran_pure.mp answered
          exact .settled said
        | number n =>
          simp only [said] at answered
          obtain ⟨rfl,rfl⟩ := ran_pure.mp answered
          exact .settled said
      | none =>
        simp only [said] at answered
        obtain ⟨_,rfl,others⟩ := ran_print_bind.mp answered
        have fewer : (wholeLines later).length < attempts := by
          rw [whole,List.length_cons] at enough
          rw [same]
          omega
        have rest := ih fewer others (hears_deaf left ⟨nofun,nofun⟩)
        rw [same] at rest
        exact .again said rest

end Entitlement.CommandLine
