import Entitlement.Proofs.Host.Reach
import Entitlement.Proofs.Host.Secrets

-- Whether a row of calls keeps to its secrets: each file that is written is closed for its owner, or taken away, in the
-- same row. A file that the row neither closes nor takes away is then as it was.
namespace Entitlement.Host

open FileSystem

variable {fs after : FileSystem} {path : String} {place : Location} {events : List Event}

-- What is closed or taken away, with success or not.

def guardedIn? : Event → Option String
  | ⟨.file (.setMode path _),_⟩ | ⟨.file (.remove path),_⟩ => some path
  | _ => none

def guarded (events : List Event) : List String := events.filterMap guardedIn?

theorem guarded_append (first second : List Event) : guarded (first ++ second) = guarded first ++ guarded second :=
  List.filterMap_append

def Discreet (events : List Event) : Prop := ∀ event ∈ events, ∀ path, Strikes path event → path ∈ guarded events

theorem Discreet.bypasses (discreet : Discreet events) (follows : Follows fs events after)
    (apart : ∀ path ∈ guarded events, fs.destination path ≠ place) : Bypasses place fs after :=
  bypasses_of_follows follows fun event member path strikes => apart path (discreet event member path strikes)

theorem composes_discreet : Composes Discreet where
  nil _ member := nomatch member
  append first second early late event member path strikes := by
    rw [guarded_append]
    rcases List.mem_append.mp member with before | after
    · exact List.mem_append_left _ (early event before path strikes)
    · exact List.mem_append_right _ (late event after path strikes)

def Unwritten : Question → Prop
  | .file (.write _ _) => False
  | _ => True

theorem unwritten_of_reads {q : Question} (reads : Reads q) : Unwritten q := by
  cases q with
  | file call => cases call <;> trivial
  | _ => trivial

theorem discreet_of_unwritten (unwritten : ∀ event ∈ events, Unwritten event.question) : Discreet events := by
  intro event member path strikes
  have kept := unwritten event member
  refine List.mem_filterMap.mpr ⟨event,member,?_⟩
  obtain ⟨q,answer⟩ := event
  cases q with
  | file call =>
    cases call with
    | setMode other mode => exact congrArg some strikes.1
    | remove other => exact congrArg some strikes.1
    | write other content => cases kept
    | _ => cases strikes
  | _ => cases strikes

theorem discreet_of_reads (reads : ∀ event ∈ events, Reads event.question) : Discreet events :=
  discreet_of_unwritten fun event member => unwritten_of_reads (reads event member)

theorem discreet_writeSecret {text : String} : Makes Discreet (writeSecret path text) := by
  have ends : Makes Discreet (do
      orFail ("failed to write file: " ++ path) (ask (.file (.write path (Text.encode text))))
      orFail ("failed to set permissions: " ++ path) (ask (.file (.setMode path 0o600)))) := by
    intro events result ran
    rcases ran_bind.mp ran with ⟨error,failed,rfl⟩ | ⟨first,_,second,rfl,writing,setting⟩
    · obtain ⟨reply,asked,same⟩ := ran_orFail failed
      cases Program.runs_question.mp asked
      cases reply with
      | ok value => cases same
      | error obstacle =>
        intro event member other strikes
        cases List.mem_singleton.mp member
        cases strikes.2
    · cases Program.runs_question.mp (ran_orFail_ok writing)
      obtain ⟨reply,asked,_⟩ := ran_orFail setting
      cases Program.runs_question.mp asked
      intro event member other strikes
      have closed : path = other := by
        rcases List.mem_cons.mp member with rfl | later
        · exact strikes.1
        · cases List.mem_singleton.mp later
          exact strikes.1
      simp [guarded,guardedIn?,closed]
  have making {directory : String} : Makes Discreet
      (orFail ("failed to create directory: " ++ directory) (ask (.file (.createDirectories directory)))) := by
    intro events result ran
    exact discreet_of_unwritten (asks_orFail (confined_ask trivial) events result ran)
  unfold writeSecret
  cases Path.parent? path with
  | none => exact ends
  | some directory => exact makes_bind composes_discreet making fun _ => ends

theorem covers_discreet : Covers Discreet where
  composes := composes_discreet
  peeks _ peeks := discreet_of_reads fun event member => (peeks event member).reads
  writes _ _ := discreet_writeSecret
  removes path := by
    have unwritten : Asks Unwritten (removeIfPresent path) := by
      refine asks_bind (asks_lift (confined_ask trivial)) fun there => ?_
      cases there with
      | false => exact asks_pure
      | true => exact asks_bind (asks_lift (confined_ask trivial)) fun _ => asks_orFail (confined_ask trivial)
    exact fun events result ran => discreet_of_unwritten (unwritten events result ran)

theorem discreet_exchange (exchange : Http.Exchange) : Rows Discreet (ask (.exchange exchange)) :=
  fun events result run => discreet_of_unwritten (confined_ask trivial events result run)

end Entitlement.Host
