import Entitlement.Proofs.CommandLine.Desk
import Entitlement.Proofs.CommandLine.Listing
import Entitlement.Proofs.Registration.Planning
import Entitlement.Proofs.Registration.Reach

-- Which migration is applied. The options, the number of available paths and the input settle it; the path that is
-- applied is the one that people read under the number, and without a number nothing but talk happens.
namespace Entitlement.CommandLine

open Host (Event Hears Machine Surroundings transcript)
open Registration (MigrationPlan applyMigration planMigrations)
open Text (wholeLines encodeChars)

inductive Fate where
  | nothingAvailable
  | applied (number : Nat)
  | refused
  | quit
  | unanswered
deriving DecidableEq

def Fate.ofVerdict : Option Verdict → Fate
  | some (.number n) => applied n
  | some .quit => quit
  | none => unanswered

-- What is to become of a plan, for the text that people type.
def fate (o : MigrateOptions) (available : Nat) (text : String) : Fate :=
  if available = 0 then .nothingAvailable
  else match o.migration with
    | some number => if 1 ≤ number ∧ number ≤ available then .applied number else .refused
    | none =>
      if o.nonInteractive then .applied 1
      else .ofVerdict ((wholeLines text.toList).findSome? (verdict? available))

-- The question, an answer that says nothing, and the hint.
def passedOver (available : Nat) (line : List Char) : List Event := [promptEvent,lineEvent line,hintEvent available]

-- The talk about an input: all lines before the first that says something are passed over.
inductive Heard (available : Nat) (lines : List (List Char)) : List Event → Prop where
  | settled : lines = earlier ++ line :: later → (∀ other ∈ earlier, verdict? available other = none) →
      verdict? available line = some verdict →
      Heard available lines (earlier.flatMap (passedOver available) ++ [promptEvent,lineEvent line])
  | ended : (∀ line ∈ lines, verdict? available line = none) →
      Heard available lines (lines.flatMap (passedOver available) ++ [promptEvent,lineEvent []])

variable {available : Nat} {lines : List (List Char)}

theorem Asked.heard {result : Except Failure (Option Nat)} (asked : Asked available lines events result) :
    Heard available lines events := by
  induction asked with
  | ended => exact .ended fun _ member => nomatch member
  | @settled line _ later said => exact Heard.settled (List.nil_append (line :: later)).symm (by simp) said
  | again said _ ih =>
    cases ih with
    | settled parts silent other =>
      subst parts
      exact .settled (List.cons_append ..).symm (List.forall_mem_cons.mpr ⟨said,silent⟩) other
    | ended silent => exact .ended (List.forall_mem_cons.mpr ⟨said,silent⟩)

theorem Asked.result_eq {result : Except Failure (Option Nat)} (asked : Asked available lines events result) :
    result = match lines.findSome? (verdict? available) with
      | some verdict => .ok verdict.index
      | none => .error unanswered := by
  induction asked with
  | ended => rfl
  | settled said => rw [List.findSome?_cons,said]
  | again said _ ih => rwa [List.findSome?_cons,said]

theorem verdict_inside {line : List Char} {n : Nat} (said : verdict? available line = some (.number n)) :
    1 ≤ n ∧ n ≤ available := by
  unfold verdict? at said
  dsimp only at said
  split at said
  · cases said
  · obtain ⟨k,_,kept⟩ := Option.bind_eq_some_iff.mp said
    split at kept
    · rename_i inside
      cases kept
      exact inside
    · cases kept

-- The number of what is applied is always that of an available path.
theorem fate_inside {o : MigrateOptions} {text : String} {n : Nat} (applied : fate o available text = .applied n) :
    1 ≤ n ∧ n ≤ available := by
  unfold fate at applied
  split at applied
  · cases applied
  rename_i some
  split at applied
  · split at applied
    · rename_i inside
      cases applied
      exact inside
    · cases applied
  split at applied
  · cases applied
    omega
  cases found : (wholeLines text.toList).findSome? (verdict? available) with
  | none => rw [found] at applied; cases applied
  | some verdict =>
    rw [found] at applied
    cases verdict with
    | quit => cases applied
    | number k =>
      cases applied
      obtain ⟨_,_,said⟩ := List.exists_of_findSome?_eq_some found
      exact verdict_inside said

-- What a command does with a plan. Before and after the calls for one path there is nothing but talk.
inductive Carried (d : Desk) (o : MigrateOptions) (plan : MigrationPlan) :
    List Event → Except Failure Unit → Fate → Prop where
  | nothingAvailable : Carried d o plan ((migrationLines plan).map printed) (.ok ()) .nothingAvailable
  | applied : Talks before → Talks after → plan.available[number - 1]? = some path →
      Ran (d.perform (applyMigration path (d.migrationOptions o))) row (.ok ended) →
      Carried d o plan (before ++ (row ++ after)) (conclusion ended) (.applied number)
  | refused : Carried d o plan [] (.error fault) .refused
  | quit : Talks events → Carried d o plan events (.ok ()) .quit
  | unanswered : Talks events → Carried d o plan events (.error unanswered) .unanswered

structure Selects (d : Desk) (o : MigrateOptions) (plan : MigrationPlan) (text : String) (events : List Event)
    (result : Except Failure Unit) : Prop where
  carried : Carried d o plan events result (fate o plan.available.length text)
  inside : ∀ number, fate o plan.available.length text = .applied number → 1 ≤ number ∧ number ≤ plan.available.length
  shown : ∀ number path, 1 ≤ number → plan.available[number - 1]? = some path →
    linesUnder number (migrationLines plan) = path.map (productLine plan)
  heard : plan.available ≠ [] → o.migration = none → o.nonInteractive = false → ∃ count asking rest,
    events = listing d plan ++ ⟨.linesLeft,count⟩ :: (asking ++ rest) ∧
    Heard plan.available.length (wholeLines text.toList) asking

variable {d : Desk} {o : MigrateOptions} {plan : MigrationPlan} {text : String}

-- The choice when people are asked for it.
theorem ran_chooseMigration_asked {result : Except Failure (Option Nat)} {rest : Bytes} (unnamed : o.migration = none)
    (interactive : o.nonInteractive = false) (ran : Ran (d.chooseMigration o plan) events result)
    (hears : Hears (Text.encode text) events rest) :
    ∃ count asking, events = listing d plan ++ ⟨.linesLeft,count⟩ :: asking ∧
      Asked plan.available.length (wholeLines text.toList) asking result := by
  obtain ⟨count,asking,rfl,asked⟩ := ran_chooseMigration unnamed interactive ran
  obtain ⟨between,first,counted⟩ := Host.hears_append.mp hears
  have unread : ∀ event ∈ listing d plan, Host.Deaf event.question := by
    intro event member
    rcases List.mem_cons.mp member with rfl | member
    · exact ⟨nofun,nofun⟩
    · obtain ⟨line,_,rfl⟩ := List.mem_map.mp member
      exact ⟨nofun,nofun⟩
  obtain rfl := Host.hears_of_deaf unread first
  obtain ⟨rfl,left⟩ := Host.hears_left counted
  have enough : (wholeLines text.toList).length < (Text.encode text).length + 1 :=
    Nat.lt_succ_of_le (Text.length_wholeLines text.toList)
  exact ⟨_,asking,rfl,asked_of_ran enough asked left⟩

-- The path of a number that is in range is applied.
theorem carried_of_index {number : Nat} {result : Except Failure Unit}
    (inside : 1 ≤ number ∧ number ≤ plan.available.length) (talks : Talks before)
    (ran : Ran (d.applyAt o plan (some (number - 1))) events result) :
    Carried d o plan (before ++ events) result (.applied number) := by
  have present : number - 1 < plan.available.length := by omega
  rcases ran_applyAt ran with ⟨missing,_⟩ | ⟨path,row,ended,after,found,rfl,applied,closing,rfl⟩
  · rw [Option.bind_some,List.getElem?_eq_getElem present] at missing
    cases missing
  · exact .applied talks closing found applied

section Modes

variable {result : Except Failure Unit} {rest : Bytes} (offered : plan.available ≠ [])
  (ran : Ran (d.chooseMigration o plan >>= d.applyAt o plan) events result)

include offered ran in
theorem carried_of_named {number : Nat} (named : o.migration = some number) :
    Carried d o plan events result (fate o plan.available.length text) := by
  have present : plan.available.length ≠ 0 := fun none => offered (List.length_eq_zero_iff.mp none)
  simp only [fate,present,named,if_false]
  simp only [Desk.chooseMigration,named] at ran
  by_cases inside : 1 ≤ number ∧ number ≤ plan.available.length
  · rw [migrationIndex_inside inside] at ran
    rw [if_pos inside]
    exact carried_of_index inside (talks_printed []) ran
  · obtain ⟨_,refused⟩ := migrationIndex_outside inside
    rw [refused] at ran
    rw [if_neg inside]
    obtain ⟨rfl,rfl⟩ := ran_throw.mp ran
    exact .refused

include offered ran in
theorem carried_of_nonInteractive (unnamed : o.migration = none) (silent : o.nonInteractive = true) :
    Carried d o plan events result (fate o plan.available.length text) := by
  have present : plan.available.length ≠ 0 := fun none => offered (List.length_eq_zero_iff.mp none)
  simp only [fate,present,unnamed,silent,if_true,if_false]
  simp only [Desk.chooseMigration,unnamed,silent,if_true] at ran
  exact carried_of_index ⟨Nat.le_refl 1,Nat.pos_of_ne_zero present⟩ (talks_printed []) ran

include ran in
-- The parts of a run in which people are asked.
theorem parts_of_asked (unnamed : o.migration = none) (interactive : o.nonInteractive = false)
    (hears : Hears (Text.encode text) events rest) :
    ∃ count asking picked later, events = listing d plan ++ ⟨.linesLeft,count⟩ :: (asking ++ later) ∧
      Asked plan.available.length (wholeLines text.toList) asking picked ∧
      ((∃ error, picked = .error error ∧ later = [] ∧ result = .error error) ∨
        ∃ index, picked = .ok index ∧ Ran (d.applyAt o plan index) later result) := by
  rcases ran_bind.mp ran with ⟨error,failed,rfl⟩ | ⟨_,index,later,rfl,chosen,applied⟩
  · obtain ⟨count,asking,rfl,asked⟩ := ran_chooseMigration_asked unnamed interactive failed hears
    exact ⟨count,asking,_,[],by simp,asked,.inl ⟨error,rfl,rfl,rfl⟩⟩
  · obtain ⟨_,heard,_⟩ := Host.hears_append.mp hears
    obtain ⟨count,asking,rfl,asked⟩ := ran_chooseMigration_asked unnamed interactive chosen heard
    exact ⟨count,asking,_,later,by simp,asked,.inr ⟨index,rfl,applied⟩⟩

include offered ran in
theorem carried_of_asked (unnamed : o.migration = none) (interactive : o.nonInteractive = false)
    (hears : Hears (Text.encode text) events rest) :
    Carried d o plan events result (fate o plan.available.length text) := by
  have present : plan.available.length ≠ 0 := fun none => offered (List.length_eq_zero_iff.mp none)
  simp only [fate,present,unnamed,interactive,Bool.false_eq_true,if_false]
  obtain ⟨count,asking,picked,later,rfl,asked,ends⟩ := parts_of_asked ran unnamed interactive hears
  have talks : Talks (listing d plan ++ ⟨.linesLeft,count⟩ :: asking) := talks_asked asked.talks
  have parts : listing d plan ++ ⟨.linesLeft,count⟩ :: (asking ++ later) =
      (listing d plan ++ ⟨.linesLeft,count⟩ :: asking) ++ later := by simp
  have settled := asked.result_eq
  rw [parts]
  cases said : (wholeLines text.toList).findSome? (verdict? plan.available.length) with
  | none =>
    rw [said] at settled
    rcases ends with ⟨error,failed,rfl,rfl⟩ | ⟨index,chosen,_⟩
    · rw [settled] at failed
      cases failed
      rw [List.append_nil]
      exact .unanswered talks
    · rw [settled] at chosen
      cases chosen
  | some verdict =>
    rw [said] at settled
    rcases ends with ⟨error,failed,_,_⟩ | ⟨index,chosen,applied⟩
    · rw [settled] at failed
      cases failed
    rw [settled] at chosen
    cases chosen
    cases verdict with
    | quit =>
      obtain ⟨rfl,rfl⟩ := ran_pure.mp applied
      rw [List.append_nil]
      exact .quit talks
    | number n =>
      obtain ⟨_,_,saying⟩ := List.exists_of_findSome?_eq_some said
      exact carried_of_index (verdict_inside saying) talks applied

end Modes

theorem ran_chosen {result : Except Failure Unit} (offered : plan.available ≠ [])
    (ran : Ran (d.migrateBy o plan) events result) : Ran (d.chooseMigration o plan >>= d.applyAt o plan) events result := by
  have present : plan.available.isEmpty = false := by simpa using offered
  simpa only [Desk.migrateBy,present,Bool.false_eq_true,if_false] using ran

theorem carried_of_ran {result : Except Failure Unit} {rest : Bytes} (ran : Ran (d.migrateBy o plan) events result)
    (hears : Hears (Text.encode text) events rest) :
    Carried d o plan events result (fate o plan.available.length text) := by
  by_cases none : plan.available = []
  · simp only [Desk.migrateBy,none,List.isEmpty_nil,if_true] at ran
    obtain ⟨rfl,rfl⟩ := ran_printLines.mp ran
    rw [none]
    exact .nothingAvailable
  have chosen := ran_chosen none ran
  cases named : o.migration with
  | some number => exact carried_of_named none chosen named
  | none =>
    cases interactive : o.nonInteractive with
    | true => exact carried_of_nonInteractive none chosen named interactive
    | false => exact carried_of_asked none chosen named interactive hears

theorem selects_of_ran {result : Except Failure Unit} {rest : Bytes} (ran : Ran (d.migrateBy o plan) events result)
    (hears : Hears (Text.encode text) events rest) : Selects d o plan text events result where
  carried := carried_of_ran ran hears
  inside _ applied := fate_inside applied
  shown _ _ positive found := linesUnder_migrationLines positive found
  heard offered unnamed interactive := by
    obtain ⟨count,asking,_,later,parts,asked,_⟩ := parts_of_asked (ran_chosen offered ran) unnamed interactive hears
    exact ⟨count,asking,later,parts,asked.heard⟩

-- No path of a plan is both available and not.
theorem planFor_apart {products : List Product} {paths : List MigrationPath} :
    ∀ path ∈ (Registration.planFor products paths).available,
      path ∉ (Registration.planFor products paths).unavailable := by
  intro path available unavailable
  obtain ⟨one,kept,rfl⟩ := List.mem_map.mp available
  obtain ⟨other,left,same⟩ := List.mem_map.mp unavailable
  have whole : one.isAvailable = true := (List.mem_filter.mp kept).2
  have broken : other.isAvailable = false := by simpa using (List.mem_filter.mp left).2
  have perm : other.Perm one :=
    MigrationPath.arranged_sort.perm.symm.trans ((List.Perm.of_eq same).trans MigrationPath.arranged_sort.perm)
  rw [MigrationPath.isAvailable] at whole broken
  rw [perm.all_eq,whole] at broken
  cases broken

theorem plan_apart {plan : MigrationPlan} (ran : Ran (d.perform (planMigrations o.product)) events (.ok plan)) :
    ∀ path ∈ plan.available, path ∉ plan.unavailable := by
  obtain ⟨calls,settled,planned,_,same⟩ := ran_perform.mp ran
  cases settled with
  | error error => cases same
  | ok other =>
    cases same
    obtain ⟨_,_,_,_,rfl,_⟩ := (Registration.plans_of_ran planned).made
    exact planFor_apart

-- A whole command: the plan is made, and then something of it is carried out.
inductive Migrating (d : Desk) (o : MigrateOptions) (text : String) : List Event → Except Failure Unit → Prop where
  | unplanned : Ran (d.perform (planMigrations o.product)) planning (.error fault) →
      Migrating d o text planning (.error fault)
  | planned : Ran (d.perform (planMigrations o.product)) planning (.ok made) →
      (∀ path ∈ made.available, path ∉ made.unavailable) → Selects d o made text events result →
      Migrating d o text (planning ++ events) result

theorem migrating_of_ran {result : Except Failure Unit} {rest : Bytes} (own : d.session = d.collaborators.answer)
    (ran : Ran (d.runMigrate o) events result) (hears : Hears (Text.encode text) events rest) :
    Migrating d o text events result := by
  rcases ran_bind.mp ran with ⟨fault,failed,rfl⟩ | ⟨planning,plan,later,rfl,planned,carried⟩
  · exact .unplanned failed
  obtain ⟨between,first,second⟩ := Host.hears_append.mp hears
  obtain ⟨calls,_,_,enacts,_⟩ := ran_perform.mp planned
  rw [own] at enacts
  have deaf := Program.enacts_confined (fun event _ => Registration.deaf_answer event.question) enacts
  rw [Host.hears_of_deaf deaf first] at second
  exact .planned planned (plan_apart planned) (selects_of_ran carried second)

theorem migration_selected {σ : Type} (s : Surroundings σ) (m : Machine σ) (text : String) (options : Options)
    (settings : Settings) (c : Registration.Collaborators) (style : Style) (o : MigrateOptions) :
    let d := Desk.of options settings c style
    let m := { m with input := Text.encode text }
    (∀ plan, Selects d o plan text (transcript s (d.migrateBy o plan).run m)
      (Machine.run s (d.migrateBy o plan).run m).1) ∧
    Migrating d o text (transcript s (d.runMigrate o).run m) (Machine.run s (d.runMigrate o).run m).1 := by
  intro d m
  constructor
  · intro plan
    have ran := (Host.run_transcript s (d.migrateBy o plan).run m).1
    exact selects_of_ran ran (Host.transcript_hears s _ m)
  · have ran := (Host.run_transcript s (d.runMigrate o).run m).1
    exact migrating_of_ran rfl ran (Host.transcript_hears s _ m)

end Entitlement.CommandLine
