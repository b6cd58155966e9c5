import Entitlement.Proofs.Registration.Introduction
import Entitlement.Proofs.Credentials.Writing
import Entitlement.Proofs.Packages.Commands
import Entitlement.Registration.Collaborators

-- The collaborators of a registration on a machine: which of their calls only look, and which change no files but those
-- for container tools.
namespace Entitlement.Registration

open FileSystem

variable {settings : Settings} {c : Collaborators} {fs after : FileSystem} {events : List Host.Event}

theorem reads_installedProducts {m : PackageManager} : Asks Host.Reads m.installedProducts :=
  PackageManager.modest_installedProducts.mono fun _ => Host.Commands.reads

theorem Looks.reads {q : Question} (looks : Looks q) : Program.Confined Host.Reads (c.answer q) := by
  cases q with
  | packages call => cases call <;> first | exact reads_installedProducts | cases looks
  | report level text => exact Host.confined_ask trivial
  | _ => cases looks

theorem Links.edits {q : Question} (links : Links q) :
    Program.Confined (Host.Edits c.store.registryConfigs) (c.answer q) := by
  cases q with
  | store call =>
    cases call with
    | systemCredentials => exact CredentialStore.peeks_readFile.mono fun _ peeks => Host.edits_of_reads peeks.reads
    | addRegistryLogin credentials => exact CredentialStore.edits_addRegistryLogin
    | _ => cases links
  | report level text => exact Host.confined_ask trivial
  | _ => cases links

-- Collaborators as a registration has them. The server keeps tokens in the store, and none of the files for container
-- tools is that of the system's credentials.
structure Wired (c : Collaborators) (fs : FileSystem) : Prop where
  shared : c.server.store = c.store
  apart : ∀ path ∈ c.store.registryConfigs, fs.destination path ≠ fs.destination c.store.systemPath

theorem Wired.later (wired : Wired c fs) (follows : Host.Follows fs events after) : Wired c after where
  shared := wired.shared
  apart path member := by
    rw [Host.destination_of_follows follows,Host.destination_of_follows follows]
    exact wired.apart path member

theorem getLast?_destination_systemPath {s : CredentialStore} :
    (fs.destination s.systemPath).getLast? = some CredentialStore.systemFile := by
  have whole : s.systemPath.toList =
      (Path.join s.root CredentialStore.directory).toList ++ '/' :: CredentialStore.systemFile.toList := by
    rw [CredentialStore.systemPath_eq]
    simp
  exact getLast?_destination whole (by decide) (by decide) (by decide)

-- What is kept for container tools has other names.
theorem getLast?_destination_defaultPaths {paths : List String} {path : String}
    (listed : Program.Runs RegistryLogin.defaultPaths events paths) (member : path ∈ paths) :
    (fs.destination path).getLast? ≠ some CredentialStore.systemFile := by
  obtain ⟨_,home,_,rfl,_,running⟩ := Program.runs_bind.mp listed
  obtain ⟨_,runtime,_,rfl,_,paired⟩ := Program.runs_bind.mp running
  obtain ⟨rfl,rfl⟩ := Program.runs_done.mp paired
  rcases List.mem_append.mp member with docker | containers
  · obtain ⟨directory,_,rfl⟩ := Option.map_eq_some_iff.mp (Option.mem_toList.mp docker)
    have parts : ".docker/config.json" = ".docker" ++ "/" ++ "config.json" := by decide
    rw [parts,getLast?_destination_join (by decide) (by decide) (by decide) (by decide)]
    decide
  · obtain ⟨directory,_,rfl⟩ := Option.map_eq_some_iff.mp (Option.mem_toList.mp containers)
    have parts : "containers/auth.json" = "containers" ++ "/" ++ "auth.json" := by decide
    rw [parts,getLast?_destination_join (by decide) (by decide) (by decide) (by decide)]
    decide

theorem wired_ofSettings (made : Program.Runs (Collaborators.ofSettings settings) events c) : Wired c fs := by
  obtain ⟨_,store,_,rfl,stored,later⟩ := Program.runs_bind.mp made
  obtain ⟨_,server,_,rfl,served,last⟩ := Program.runs_bind.mp later
  obtain ⟨rfl,rfl⟩ := Program.runs_done.mp last
  obtain ⟨_,route,_,rfl,_,ends⟩ := Program.runs_bind.mp served
  obtain ⟨rfl,rfl⟩ := Program.runs_done.mp ends
  obtain ⟨_,paths,_,rfl,listed,settled⟩ := Program.runs_bind.mp stored
  obtain ⟨rfl,rfl⟩ := Program.runs_done.mp settled
  refine ⟨rfl,fun path member same => ?_⟩
  have system : (fs.destination path).getLast? = some CredentialStore.systemFile :=
    same ▸ getLast?_destination_systemPath
  exact getLast?_destination_defaultPaths listed member system

theorem enacts_looking (looks : ∀ event ∈ calls, Looks event.question) (enacts : Program.Enacts c.answer calls events)
    (follows : Host.Follows fs events after) : Host.Quiet events ∧ after = fs := by
  have reads := Program.enacts_confined (fun event member => (looks event member).reads) enacts
  exact ⟨Host.quiet_of_reads reads,Host.unchanged_of_reads reads follows⟩

theorem enacts_linking {place : Location} (links : ∀ event ∈ calls, Links event.question)
    (enacts : Program.Enacts c.answer calls events)
    (apart : ∀ path ∈ c.store.registryConfigs, fs.destination path ≠ place)
    (follows : Host.Follows fs events after) : Host.Quiet events ∧ Bypasses place fs after := by
  have edits := Program.enacts_confined (fun event member => (links event member).edits) enacts
  exact ⟨Host.quiet_of_edits edits,Host.bypasses_of_edits edits apart follows⟩

end Entitlement.Registration
