import Entitlement.Proofs.Host.Elsewhere

-- Files for their owner only: what an attempt to write one comes to, and an attempt to take one away. An attempt that
-- fails has made directories at most, so that every file is as it was.
namespace Entitlement.Host

open FileSystem

variable {fs after : FileSystem} {path text : String} {events : List Event} {result : Result Unit}

-- The directories above a path are there, made on purpose where they were not.
def Prepared (path : String) (fs after : FileSystem) : Prop :=
  after = fs ∨ ∃ directory, Path.parent? path = some directory ∧ fs.createDirectories directory = .ok after

theorem Prepared.bypasses {place : Location} (prepared : Prepared path fs after) : Bypasses place fs after := by
  rcases prepared with rfl | ⟨_,_,made⟩
  · exact bypasses_refl
  · exact bypasses_createDirectories made

-- A call for a file that meets no obstacle.
def isUnhindered : Event → Bool
  | ⟨.file (.read _),reply⟩ => reply.toBool
  | ⟨.file (.write _ _),reply⟩ | ⟨.file (.createDirectories _),reply⟩ | ⟨.file (.setMode _ _),reply⟩
  | ⟨.file (.remove _),reply⟩ => reply.toBool
  | _ => true

inductive Writes (path text : String) (fs after : FileSystem) (events : List Event) : Result Unit → Prop where
  | written : Prepared path fs between → Holds after path place (Text.encode text) mode →
      Replaced place (Text.encode text) between after → Writes path text fs after events (.ok ())
  | failed : Prepared path fs after → event ∈ events → isUnhindered event = false →
      Writes path text fs after events (.error error)

theorem Writes.among {part : List Event} (writes : Writes path text fs after part result) (within : part ⊆ events) :
    Writes path text fs after events result := by
  cases writes with
  | written prepared holds replaced => exact .written prepared holds replaced
  | failed prepared member hindered => exact .failed prepared (within member) hindered

theorem writes_of_ran (ran : Ran (writeSecret path text) events result) (follows : Follows fs events after) :
    Writes path text fs after events result := by
  have ends {between : FileSystem} {events : List Event} (prepared : Prepared path fs between)
      (follows : Follows between events after) (ran : Ran (do
        orFail ("failed to write file: " ++ path) (ask (.file (.write path (Text.encode text))))
        orFail ("failed to set permissions: " ++ path) (ask (.file (.setMode path 0o600)))) events result) :
      Writes path text fs after events result := by
    rcases ran_bind.mp ran with ⟨error,failed,rfl⟩ | ⟨first,_,second,rfl,writing,setting⟩
    · obtain ⟨reply,asked,same⟩ := ran_orFail failed
      rcases changed_eq (fileReply_of_runs asked follows) with ⟨rfl,_⟩ | ⟨obstacle,rfl,_,rfl⟩
      · cases same
      · cases Program.runs_question.mp asked
        exact .failed prepared (List.mem_singleton_self _) rfl
    · obtain ⟨_,followsFirst,followsSecond⟩ := follows_append.mp follows
      have wrote := changed_eq_ok (fileReply_of_runs (ran_orFail_ok writing) followsFirst)
      obtain ⟨place,mode,located,free,rfl⟩ := writeFile_eq_ok wrote
      have holds := @holds_put _ _ (Text.encode text) place mode located free
      obtain ⟨reply,asked,rfl⟩ := ran_orFail setting
      have set := fileReply_of_runs asked followsSecond
      -- What has just been written can be closed.
      rw [fileReply,holds.setMode,changed] at set
      cases set
      exact .written prepared holds.put (replaced_put free)
  unfold writeSecret at ran
  cases parent : Path.parent? path with
  | none =>
    rw [parent] at ran
    exact ends (.inl rfl) follows ran
  | some directory =>
    rw [parent] at ran
    rcases ran_bind.mp ran with ⟨error,failed,rfl⟩ | ⟨first,_,second,rfl,making,later⟩
    · obtain ⟨reply,asked,same⟩ := ran_orFail failed
      rcases changed_eq (fileReply_of_runs asked follows) with ⟨rfl,_⟩ | ⟨obstacle,rfl,_,rfl⟩
      · cases same
      · cases Program.runs_question.mp asked
        exact .failed (.inl rfl) (List.mem_singleton_self _) rfl
    · obtain ⟨_,followsFirst,followsSecond⟩ := follows_append.mp follows
      have made := changed_eq_ok (fileReply_of_runs (ran_orFail_ok making) followsFirst)
      exact (ends (.inr ⟨directory,parent,made⟩) followsSecond later).among (List.subset_append_right first second)

inductive Removes (path : String) (fs : FileSystem) : Result Unit → FileSystem → Prop where
  | absent : fs.pathExists path = false → Removes path fs (.ok ()) fs
  | removed : Holds fs path place content mode → Removes path fs (.ok ()) (fs.drop place)
  | failed : fs.pathExists path = true → fs.removeFile path = .error obstacle → Removes path fs (.error error) fs

theorem removes_of_ran (ran : Ran (removeIfPresent path) events result) (follows : Follows fs events after) :
    Removes path fs result after := by
  obtain ⟨first,there,second,rfl,looked,later⟩ := ran_lift_bind.mp ran
  obtain ⟨_,followsFirst,followsSecond⟩ := follows_append.mp follows
  cases fileReply_of_runs looked followsFirst
  cases there : fs.pathExists path with
  | false =>
    rw [there] at later
    obtain ⟨rfl,rfl⟩ := ran_pure.mp later
    cases followsSecond
    exact .absent there
  | true =>
    rw [there] at later
    obtain ⟨noting,_,rfl,_,removing,followsRemoving⟩ := (yields_lift yields_report).ran_bind later followsSecond
    obtain ⟨reply,asked,rfl⟩ := ran_orFail removing
    rcases changed_eq (fileReply_of_runs asked followsRemoving) with ⟨rfl,removed⟩ | ⟨obstacle,rfl,stuck,rfl⟩
    · obtain ⟨place,content,mode,holds,rfl⟩ := removeFile_eq_ok removed
      exact .removed holds
    · exact .failed there stuck

section Asks

variable {paths : List String}

theorem edits_writeSecret {text : String} (own : path ∈ paths) : Asks (Edits paths) (writeSecret path text) := by
  have ends : Asks (Edits paths) (do
      orFail ("failed to write file: " ++ path) (ask (.file (.write path (Text.encode text))))
      orFail ("failed to set permissions: " ++ path) (ask (.file (.setMode path 0o600)))) :=
    asks_bind (asks_orFail (confined_ask own)) fun _ => asks_orFail (confined_ask own)
  unfold writeSecret
  cases Path.parent? path with
  | none => exact ends
  | some directory => exact asks_bind (asks_orFail (confined_ask trivial)) fun _ => ends

theorem edits_removeIfPresent (own : path ∈ paths) : Asks (Edits paths) (removeIfPresent path) := by
  refine asks_bind (asks_lift (confined_ask trivial)) fun there => ?_
  cases there with
  | false => exact asks_pure
  | true => exact asks_bind (asks_lift (confined_ask trivial)) fun _ => asks_orFail (confined_ask own)

end Asks

end Entitlement.Host
