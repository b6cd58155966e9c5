import Entitlement.Host.Script
import Entitlement.Proofs.Credentials.Writing

-- The files of services and the file of the system's credentials. A service chooses the name of its file, so that the
-- two may be one. Where they are not, nothing that is done for a service is seen in the system's credentials.
namespace Entitlement.CredentialStore

open Host FileSystem

variable {fs after : FileSystem} {s : CredentialStore} {service : String} {c : Credentials} {place : Location}
  {content : Bytes} {mode : Nat} {events : List Host.Event} {result : Result Unit}

-- What reading the credentials of the system comes to.
def Recalls (s : CredentialStore) (fs : FileSystem) (answer : Result Credentials) : Prop :=
  Yields s.system.run fs answer fs

theorem recalls_holds (holds : Holds fs s.systemPath place content mode) (stores : Stores fs s.systemPath c)
    (later : Holds after s.systemPath place content mode) : s.Recalls after (.ok c) := by
  obtain ⟨bytes,text,read,decoded,parsed⟩ := stores
  cases read.symm.trans (readFile_eq_ok.mpr ⟨place,mode,holds⟩)
  exact yields_readFile ⟨content,text,readFile_eq_ok.mpr ⟨place,mode,later⟩,decoded,parsed⟩

theorem edits_writeService : Asks (Edits [s.servicePath service]) (s.writeService service) := by
  have reading : Asks (Edits [s.servicePath service]) s.system := peeks_readFile.mono fun _ peeks => edits_of_reads peeks.reads
  refine asks_bind reading fun system => asks_bind (asks_lift (confined_ask trivial)) fun _ => ?_
  exact edits_writeSecret (List.mem_singleton.mpr rfl)

theorem edits_removeService : Asks (Edits [s.servicePath service]) (s.removeService service) :=
  edits_removeIfPresent (List.mem_singleton.mpr rfl)

-- The credentials of a service are those of the system without the token.
theorem writes_of_writeService (stores : Stores fs s.systemPath c)
    (ran : Ran (s.writeService service) events result) (follows : Follows fs events after) :
    Writes (s.servicePath service) (Credentials.render ⟨c.username,c.password,none⟩) fs after events result := by
  have reading : Yields s.system.run fs (.ok c) fs := yields_readFile stores
  obtain ⟨first,_,rfl,_,noted,followsNoted⟩ := reading.ran_bind ran follows
  obtain ⟨second,last,rfl,_,writing,followsWriting⟩ := (yields_lift yields_report).ran_bind noted followsNoted
  exact (writes_of_ran writing followsWriting).among fun _ member => by simp [member]

-- What is left of the credentials of the system by a call for a service. A call fails only for what stands at a path: the
-- files of a machine are never denied to it, and no write ends halfway.
structure Separates (s : CredentialStore) (service : String) (c : Credentials) (fs : FileSystem) : Prop where
  elsewhere : fs.destination (s.servicePath service) ≠ fs.destination s.systemPath →
    ∀ action, action = s.writeService service ∨ action = s.removeService service →
    ∀ events result after, Ran action events result → Follows fs events after → s.Recalls after (.ok c)
  written : fs.destination (s.servicePath service) = fs.destination s.systemPath →
    ∀ events result after, Ran (s.writeService service) events result → Follows fs events after →
    s.Recalls after (.ok (if result.toBool then { c with token := none } else c))
  removed : fs.destination (s.servicePath service) = fs.destination s.systemPath →
    ∀ events result after, Ran (s.removeService service) events result → Follows fs events after → result = .ok () ∧
    s.Recalls after (if fs.pathExists (s.servicePath service) then .error (.missingCredentials s.systemPath) else .ok c)

theorem recalls_elsewhere (stores : Stores fs s.systemPath c)
    (apart : fs.destination (s.servicePath service) ≠ fs.destination s.systemPath) {action : Action Unit}
    (edits : Asks (Edits [s.servicePath service]) action) (ran : Ran action events result)
    (follows : Follows fs events after) : s.Recalls after (.ok c) := by
  obtain ⟨_,_,read,_,_⟩ := id stores
  obtain ⟨place,mode,holds⟩ := readFile_eq_ok.mp read
  rw [← eq_destination_of_locate holds.located] at apart
  have bypasses := bypasses_of_edits (edits _ _ ran) (by simpa using apart) follows
  exact recalls_holds holds stores (bypasses.holds holds)

theorem recalls_written (stores : Stores fs s.systemPath c)
    (same : fs.destination (s.servicePath service) = fs.destination s.systemPath)
    (ran : Ran (s.writeService service) events result) (follows : Follows fs events after) :
    s.Recalls after (.ok (if result.toBool then { c with token := none } else c)) := by
  obtain ⟨_,_,read,_,_⟩ := id stores
  obtain ⟨place,mode,holds⟩ := readFile_eq_ok.mp read
  cases writes_of_writeService stores ran follows with
  | @written _ other newMode _ writtenHolds _ =>
    have extended := extends_of_follows follows
    have whole : other = place := by
      rw [eq_destination_of_locate writtenHolds.located,extended.destination,same,eq_destination_of_locate holds.located]
    subst whole
    have kept : Credentials.Kept ⟨c.username,c.password,none⟩ :=
      ⟨stores.kept.username,stores.kept.password,fun _ impossible => nomatch impossible⟩
    have again : Holds after s.systemPath other _ newMode := ⟨extended.locate holds.located,writtenHolds.found⟩
    exact yields_readFile ((stores_iff_of_holds again).mpr (Credentials.parse?_render kept))
  | failed prepared _ _ => exact recalls_holds holds stores (prepared.bypasses.holds holds)

theorem recalls_removed (stores : Stores fs s.systemPath c)
    (same : fs.destination (s.servicePath service) = fs.destination s.systemPath)
    (ran : Ran (s.removeService service) events result) (follows : Follows fs events after) : result = .ok () ∧
    s.Recalls after (if fs.pathExists (s.servicePath service) then .error (.missingCredentials s.systemPath) else .ok c) := by
  obtain ⟨_,_,read,_,_⟩ := id stores
  obtain ⟨place,mode,holds⟩ := readFile_eq_ok.mp read
  have whole {other : Location} (located : fs.locate (s.servicePath service) = .ok other) : other = place := by
    rw [eq_destination_of_locate located,same,eq_destination_of_locate holds.located]
  cases removes_of_ran ran follows with
  | absent missing =>
    rw [missing]
    exact ⟨rfl,yields_readFile stores⟩
  | removed found =>
    obtain rfl := whole found.located
    rw [found.exists]
    exact ⟨rfl,yields_missing holds.dropped⟩
  | failed there stuck =>
    obtain ⟨other,_,located,_⟩ := pathExists_iff.mp there
    obtain rfl := whole located
    have found : Holds fs (s.servicePath service) other _ mode := ⟨located,holds.found⟩
    rw [found.removeFile] at stuck
    cases stuck

theorem service_separates (stores : Stores fs s.systemPath c) : Separates s service c fs where
  elsewhere apart action one events result after ran follows := by
    rcases one with rfl | rfl
    · exact recalls_elsewhere stores apart edits_writeService ran follows
    · exact recalls_elsewhere stores apart edits_removeService ran follows
  written same _ _ _ ran follows := recalls_written stores same ran follows
  removed same _ _ _ ran follows := recalls_removed stores same ran follows

-- What is recalled is one answer: on a machine with these files, the credentials are read.
theorem recalls_unique {one other : Result Credentials} (first : s.Recalls fs one) (second : s.Recalls fs other) :
    one = other := by
  let machine : Machine Script := ⟨fs,[],none,default,[],[],[],⟨[],none,[],[]⟩⟩
  obtain ⟨events,run,follows⟩ := run_follows Script.surroundings s.system.run machine
  obtain ⟨same,_,_⟩ := first _ _ _ run follows
  obtain ⟨again,_,_⟩ := second _ _ _ run follows
  exact same.symm.trans again

-- A system whose server calls a service like the system's own file.

def tokened : Credentials := ⟨"SCC_1","swordfish",some "token"⟩

def alone : CredentialStore := ⟨"/",[]⟩

def signedIn : Machine Script where
  files := ⟨[(["etc"],.directory),(["etc","zypp"],.directory),(["etc","zypp","credentials.d"],.directory),
    (["etc","zypp","credentials.d","SCCcredentials"],.file (Text.encode tokened.render) 0o600)],[]⟩
  environment := []
  accountHome := none
  hardware := default
  input := []
  printed := []
  events := []
  surroundings := ⟨[],none,[],[]⟩

theorem stores_tokened : Stores signedIn.files alone.systemPath tokened :=
  ⟨Text.encode tokened.render,tokened.render,by decide,Text.decode?_encode tokened.render,by decide⟩

def around : String := "../credentials.d/SCCcredentials"

theorem around_separates : ∃ events after, Ran (alone.writeService around) events (.ok ()) ∧
    Follows signedIn.files events after ∧ Separates alone around tokened signedIn.files ∧
    alone.Recalls after (.ok ⟨"SCC_1","swordfish",none⟩) := by
  obtain ⟨events,run,follows⟩ := run_follows Script.surroundings (alone.writeService around).run signedIn
  have written : (Machine.run Script.surroundings (alone.writeService around).run signedIn).1.toBool = true := by
    decide +kernel
  generalize Machine.run Script.surroundings (alone.writeService around).run signedIn = left at run follows written
  have separates := @service_separates signedIn.files alone around tokened stores_tokened
  have same : signedIn.files.destination (alone.servicePath around) = signedIn.files.destination alone.systemPath := by
    decide +kernel
  have recalls := separates.written same _ _ _ run follows
  rw [written] at recalls
  obtain ⟨result,machine⟩ := left
  cases result with
  | ok => exact ⟨events,machine.files,run,follows,separates,recalls⟩
  | error error => cases written

theorem service_takes_system_away : ¬ ∀ (s : CredentialStore) service c fs, Stores fs s.systemPath c →
    ∀ action, action = s.writeService service ∨ action = s.removeService service →
    ∀ events result after, Ran action events result → Follows fs events after → s.Recalls after (.ok c) := by
  intro unharmed
  obtain ⟨events,run,follows⟩ := run_follows Script.surroundings (alone.removeService systemFile).run signedIn
  have same : signedIn.files.destination (alone.servicePath systemFile) = signedIn.files.destination alone.systemPath := rfl
  have gone := (recalls_removed stores_tokened same run follows).2
  have there : signedIn.files.pathExists (alone.servicePath systemFile) = true := by decide +kernel
  rw [there] at gone
  cases recalls_unique gone (unharmed alone systemFile tokened _ stores_tokened _ (.inr rfl) events _ _ run follows)

end Entitlement.CredentialStore
