import Mathlib.Data.List.Infix
import Entitlement.Proofs.Host.Secrets

-- What lies beneath a directory. A relative path goes on where the path of the directory ends, and nothing becomes a
-- directory but what is on the way to the one that is made.
namespace Entitlement

theorem Path.split_join (directory : String) {path : String} (relative : isAbsolute path = false) :
    ∃ front idle, Text.split '/' directory.toList = front ++ idle ∧ (idle = [] ∨ idle = [[]]) ∧
      Text.split '/' (join directory path).toList = front ++ Text.split '/' path.toList ∧
      isAbsolute (join directory path) = isAbsolute directory := by
  unfold join
  rw [if_neg (by rw [relative]; exact Bool.false_ne_true)]
  cases ending : directory.toList.getLast? with
  | none =>
    have empty := List.getLast?_eq_none_iff.mp ending
    exact ⟨[],[[]],by simp [empty,Text.split],.inr rfl,rfl,by simpa [isAbsolute,empty] using relative⟩
  | some c =>
    obtain ⟨rest,whole⟩ := List.getLast?_eq_some_iff.mp ending
    have start (tail : List Char) : (directory.toList ++ tail).head? = directory.toList.head? := by
      rw [whole]
      cases rest <;> rfl
    by_cases slash : c = '/'
    · subst slash
      refine ⟨Text.split '/' rest,[[]],?_,.inr rfl,?_,?_⟩
      · rw [whole,Text.split_append]
        rfl
      · simp [whole,← Text.split_append]
      · simp only [isAbsolute,String.toList_append,start]
    · refine ⟨Text.split '/' directory.toList,[],by simp,.inl rfl,?_,?_⟩
      · simp only [String.toList_append,List.append_assoc]
        exact Text.split_append _ _
      · simp only [isAbsolute,String.toList_append,List.append_assoc,start]

namespace FileSystem

variable {fs after : FileSystem} {place : Location} {path directory : String}

-- A path that goes on behind a directory by some names.
structure Behind (directory path : String) (front names : List (List Char)) : Prop where
  begins : front <+: Text.split '/' directory.toList
  parts : Text.split '/' path.toList = front ++ names
  start : ∀ fs : FileSystem, fs.start path = fs.start directory
  leads : ∀ fs : FileSystem, walk (fs.start directory) front = fs.destination directory

theorem behind_of_split {front idle names : List (List Char)} (parts : Text.split '/' directory.toList = front ++ idle)
    (silent : idle = [] ∨ idle = [[]]) (whole : Text.split '/' path.toList = front ++ names)
    (start : Path.isAbsolute path = Path.isAbsolute directory) : Behind directory path front names where
  begins := parts ▸ List.prefix_append front idle
  parts := whole
  start fs := by simp only [FileSystem.start,start]
  leads fs := by
    rw [destination,parts,walk_append]
    rcases silent with rfl | rfl <;> rfl

theorem Behind.destination {front names : List (List Char)} (behind : Behind directory path front names)
    (fs : FileSystem) : fs.destination path = walk (fs.destination directory) names := by
  rw [FileSystem.destination,behind.parts,behind.start,walk_append,behind.leads]

theorem lookUp_makeDirectories {above : Location} {names : List (List Char)}
    (made : fs.makeDirectories above names = .ok after) (off : ∀ front, front <+: names → walk above front ≠ place) :
    after.lookUp place = fs.lookUp place := by
  induction names generalizing fs above with
  | nil =>
    cases made
    rfl
  | cons name rest ih =>
    have next : ∀ front, front <+: rest → walk above (name :: front) ≠ place := by
      intro front begins
      exact off (name :: front) (by simpa using begins)
    by_cases idle : Path.isIdle name
    · rw [makeDirectories,if_pos idle] at made
      exact ih made (by simpa [walk,idle] using next)
    by_cases up : name = ['.','.']
    · rw [makeDirectories,if_neg idle,if_pos up] at made
      refine ih made fun front begins => ?_
      have different := next front begins
      rwa [walk,if_neg idle,if_pos up] at different
    have below : ∀ front, front <+: rest → walk (above ++ [String.ofList name]) front ≠ place := by
      simpa [walk,idle,up] using next
    simp only [makeDirectories,idle,up,Bool.false_eq_true,if_false] at made
    by_cases long : (String.ofList name).utf8ByteSize > longestName
    · rw [if_pos long] at made
      cases made
    rw [if_neg long] at made
    cases found : fs.lookUp (above ++ [String.ofList name]) with
    | none =>
      simp only [found] at made
      rw [ih made below]
      exact lookUp_put_of_ne (Ne.symm (below [] List.nil_prefix))
    | some entry =>
      simp only [found] at made
      cases entry with
      | directory => exact ih made below
      | file content mode => cases made

theorem lookUp_createDirectories (made : fs.createDirectories directory = .ok after)
    (off : ∀ front, front <+: Text.split '/' directory.toList → walk (fs.start directory) front ≠ place) :
    after.lookUp place = fs.lookUp place := by
  unfold createDirectories at made
  by_cases empty : directory.isEmpty
  · rw [if_pos empty] at made
    cases made
    rfl
  rw [if_neg empty] at made
  cases checked : checkPath directory with
  | error obstacle => rw [checked] at made; cases made
  | ok value =>
    rw [checked] at made
    exact lookUp_makeDirectories made off

end FileSystem

namespace Host

open FileSystem

variable {fs after : FileSystem} {place : Location} {path text : String} {events : List Event}
  {result : Result Unit}

-- The way to a path: the places that its names lead through, the last one included.
def OffWay (fs : FileSystem) (path : String) (place : Location) : Prop :=
  ∀ front, front <+: Text.split '/' path.toList → walk (fs.start path) front ≠ place

theorem Prepared.lookUp_eq (prepared : Prepared path fs after) (some : place ≠ []) (off : OffWay fs path place) :
    after.lookUp place = fs.lookUp place := by
  rcases prepared with rfl | ⟨directory,parent,made⟩
  · rfl
  rcases Path.above_of_parent? parent with rfl | above
  · cases made
    rfl
  apply lookUp_createDirectories made
  intro front begins
  obtain ⟨names,rest,parts,_,whole⟩ := above.pieces
  rcases whole with same | rfl
  · have start : fs.start directory = fs.start path := by simp only [FileSystem.start,above.start]
    rw [start]
    apply off
    rw [parts]
    exact (same ▸ begins).trans (List.prefix_append names rest)
  · -- Nothing but the root is on the way to the root.
    have root : ∀ front ∈ List.inits [[],[]], walk [] front = [] := by decide
    exact ne_of_eq_of_ne (root front ((List.mem_inits _ _).mpr begins)) (Ne.symm some)

theorem Writes.lookUp_eq (writes : Writes path text fs after events result) (some : place ≠ []) (off : OffWay fs path place) :
    after.lookUp place = fs.lookUp place := by
  cases writes with
  | written prepared holds replaced =>
    have current := replaced.current.trans (@Prepared.bypasses _ _ _ [] prepared).current
    have led : fs.destination path ≠ place := off _ List.prefix_rfl
    have same := eq_destination_of_locate holds.located
    simp only [destination,FileSystem.start,current] at same led
    rw [replaced.elsewhere place (by rw [same]; exact Ne.symm led)]
    exact prepared.lookUp_eq some off
  | failed prepared _ _ => exact prepared.lookUp_eq some off

end Host
end Entitlement
