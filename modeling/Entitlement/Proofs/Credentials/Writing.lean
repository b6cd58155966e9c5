import Entitlement.Proofs.Credentials.Store
import Entitlement.Proofs.Host.Secrets

-- The file of the system's credentials when it is not there, once it is written, and while other files are.
namespace Entitlement.CredentialStore

open Host FileSystem

variable {fs after : FileSystem} {path : String} {place : Location} {content : Bytes}

-- Where a file holds no credentials, they cannot be read.

theorem yields_readText_error
    (untextual : ∀ bytes text, fs.readFile path = .ok bytes → Text.decode? bytes ≠ some text) :
    ∃ obstacle, Yields (readText path) fs (.error obstacle) fs := by
  have reading : Yields (read path) fs (fs.readFile path) fs := yields_file
  cases found : fs.readFile path with
  | error obstacle =>
    rw [found] at reading
    exact ⟨obstacle,yields_bind reading yields_pure⟩
  | ok bytes =>
    rw [found] at reading
    refine ⟨.notText,yields_bind reading ?_⟩
    cases decoded : Text.decode? bytes with
    | none => simp only [decoded]; exact yields_pure
    | some text => exact absurd decoded (untextual bytes text found)

theorem yields_missing (missing : fs.pathExists path = false) :
    Yields (readFile path).run fs (.error (.missingCredentials path)) fs :=
  yields_then (yields_lift (yields_fileExists missing)) yields_throw

theorem yields_unread (unread : ∀ c, ¬ Stores fs path c) :
    ∃ error, Yields (readFile path).run fs (.error error) fs := by
  cases there : fs.pathExists path with
  | false => exact ⟨_,yields_missing there⟩
  | true =>
    have looking := yields_lift (yields_fileExists there)
    unfold readFile
    by_cases textual : ∃ bytes text, fs.readFile path = .ok bytes ∧ Text.decode? bytes = some text
    · obtain ⟨bytes,text,found,decoded⟩ := textual
      refine ⟨.malformedCredentials path,yields_then looking ?_⟩
      refine yields_then (yields_orFail (yields_readText found decoded)) ?_
      cases parsed : Credentials.parse? text with
      | none => exact yields_throw
      | some c => exact absurd ⟨bytes,text,found,decoded,parsed⟩ (unread c)
    · obtain ⟨obstacle,texts⟩ :=
        yields_readText_error fun bytes text found decoded => textual ⟨bytes,text,found,decoded⟩
      exact ⟨_,yields_then looking (yields_stops (yields_then (yields_lift texts) yields_throw))⟩

theorem yields_hasSystem {s : CredentialStore} (unread : ∀ c, ¬ Stores fs s.systemPath c) :
    Yields s.hasSystem fs false fs := by
  obtain ⟨error,reading⟩ := yields_unread unread
  exact yields_bind reading yields_pure

-- What was written with success is there.

theorem holds_of_writeSystem {s : CredentialStore} {new : Credentials} {events : List Host.Event}
    (ran : Ran (s.writeSystem new) events (.ok ())) (follows : Follows fs events after) :
    ∃ place mode, Holds after s.systemPath place (Text.encode new.render) mode := by
  obtain ⟨_,_,rfl,_,writing,followsWriting⟩ := (yields_lift yields_report).ran_bind ran follows
  cases writes_of_ran writing followsWriting with
  | written _ holds _ => exact ⟨_,_,holds⟩

-- Credentials are read from what a file holds, and from nothing else.
theorem stores_iff_of_holds {mode : Nat} {text : String} {c : Credentials}
    (holds : Holds fs path place (Text.encode text) mode) : Stores fs path c ↔ Credentials.parse? text = some c := by
  have found : fs.readFile path = .ok (Text.encode text) := readFile_eq_ok.mpr ⟨place,mode,holds⟩
  constructor
  · intro stores
    obtain ⟨_,other,read,decoded,parsed⟩ := stores
    cases found.symm.trans read
    cases (Text.decode?_encode text).symm.trans decoded
    exact parsed
  · intro parsed
    exact ⟨_,text,found,Text.decode?_encode text,parsed⟩

-- What asks for files of its own only.

section Asks

variable {allowed : Host.Question → Prop} {paths : List String}

theorem peeks_readFile : Asks Peeks (readFile path) := by
  refine asks_bind (asks_lift (confined_ask trivial)) fun there => ?_
  cases there with
  | false => exact asks_throw
  | true =>
    refine asks_bind (asks_orFail (confined_readText trivial)) fun text => ?_
    cases Credentials.parse? text with
    | none => exact asks_throw
    | some c => exact asks_pure

theorem edits_writeSystem {s : CredentialStore} {new : Credentials} : Asks (Edits [s.systemPath]) (s.writeSystem new) :=
  asks_bind (asks_lift (confined_ask trivial)) fun _ => edits_writeSecret (List.mem_singleton.mpr rfl)

theorem peeks_load : Asks Peeks (RegistryLogin.load path) := by
  refine asks_bind (asks_lift (confined_ask trivial)) fun there => ?_
  cases there with
  | false => exact asks_pure
  | true =>
    refine asks_bind (asks_orFail (confined_ask trivial)) fun bytes => ?_
    exact asks_bind asks_liftExcept fun _ => asks_pure

theorem edits_addTo {login password : String} (own : path ∈ paths) :
    Asks (Edits paths) (RegistryLogin.addTo path login password) := by
  have loading : Asks (Edits paths) (RegistryLogin.load path) := peeks_load.mono fun _ peeks => edits_of_reads peeks.reads
  refine asks_bind loading fun config => asks_bind asks_liftExcept fun changed => ?_
  cases changed with
  | none => exact asks_lift (confined_ask trivial)
  | some config => exact edits_writeSecret own

theorem edits_addRegistryLogin {s : CredentialStore} {c : Credentials} :
    Asks (Edits s.registryConfigs) (s.addRegistryLogin c) := by
  have each (list : List String) (own : list ⊆ s.registryConfigs) : Asks (Edits s.registryConfigs)
      (list.forM fun path => RegistryLogin.addTo path c.username c.password) := by
    induction list with
    | nil => exact asks_pure
    | cons path rest ih =>
      obtain ⟨first,later⟩ := List.cons_subset.mp own
      exact asks_bind (edits_addTo first) fun _ => ih later
  exact each s.registryConfigs fun _ member => member

end Asks

end Entitlement.CredentialStore
