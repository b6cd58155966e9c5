import Entitlement.Proofs.Credentials.Store
import Entitlement.Proofs.Host.Elsewhere
import Entitlement.Proofs.Json.Members
import Entitlement.Proofs.Json.RoundTrip

-- Removing a login from the configurations of container tools, one file after the other. A file that is no configuration
-- ends the removal: the files before it no longer hold the login, and those behind it are as they were.
namespace Entitlement

namespace RegistryLogin

open Host FileSystem

def Contains (fs : FileSystem) (path : String) (config : Members) : Prop :=
  ∃ bytes, fs.readFile path = .ok bytes ∧ ofBytes path bytes = .ok config

-- The entries of the configuration in a file.
def Configures (fs : FileSystem) (path : String) (listed : Members) : Prop :=
  ∃ bytes config, fs.readFile path = .ok bytes ∧ ofBytes path bytes = .ok config ∧ entries config = .ok listed

-- The entry for the registry is a login.
def Enters (listed : Members) (login password : String) : Prop :=
  (Json.lookUp listed registry).bind login? = some (login,password)

def HoldsLogin (fs : FileSystem) (path login password : String) : Prop :=
  ∃ listed, Configures fs path listed ∧ Enters listed login password

-- Something is there that cannot be read as a configuration.
def Obstructs (fs : FileSystem) (path : String) : Prop :=
  fs.pathExists path = true ∧ ∀ listed, ¬ Configures fs path listed

-- A content without an entry for the registry, if it is one of a configuration.
def Cleared (bytes : Bytes) : Prop :=
  ∀ path config listed, ofBytes path bytes = .ok config → entries config = .ok listed → Json.lookUp listed registry = none

-- What comes of a removal from one file.
inductive Removal (path login password : String) (fs : FileSystem) : Result Bool → FileSystem → Prop where
  | kept : ¬ HoldsLogin fs path login password → Removal path login password fs (.ok false) fs
  | removed : HoldsLogin fs path login password → Holds fs path place content mode → Cleared bytes →
      Replaced place bytes fs after → Removal path login password fs (.ok true) after
  | stopped : Obstructs fs path → Removal path login password fs (.error error) fs

variable {fs between after : FileSystem} {path login password : String} {config listed : Members}
  {bytes : Bytes} {place : Location} {events : List Host.Event}

section Content

theorem ofBytes_cases (read : ofBytes path bytes = .ok config) :
    config = [] ∨ Json.Format.value.decode bytes = .ok (.object config) := by
  unfold ofBytes at read
  split at read
  · exact .inl (Except.ok.inj read).symm
  · cases decoded : Json.Format.value.decode bytes with
    | error error => rw [decoded] at read; cases read
    | ok value =>
      rw [decoded] at read
      cases value with
      | object members => cases read; exact .inr rfl
      | _ => cases read

theorem ascending_ofBytes (read : ofBytes path bytes = .ok config) : Json.Ascending config := by
  rcases ofBytes_cases read with rfl | decoded
  · exact List.Pairwise.nil
  · obtain ⟨node,_,given⟩ := Json.decode_ok.mp decoded
    exact Json.ascending_of_value given

theorem entries_cases (read : entries config = .ok listed) :
    listed = [] ∨ Json.lookUp config "auths" = some (.object listed) := by
  unfold entries at read
  split at read
  · exact .inl (Except.ok.inj read).symm
  · exact .inl (Except.ok.inj read).symm
  · cases read
    exact .inr ‹_›
  · cases read

-- Written and read again, the configuration has the entries that it was given, and no others.
theorem cleared_withEntries (ascending : Json.Ascending config) (free : ∀ m ∈ listed, m.1 ≠ registry) :
    Cleared (Text.encode (Json.object (withEntries config listed)).pretty) := by
  intro path found again read entered
  rcases entries_cases entered with rfl | looked
  · rfl
  rcases ofBytes_cases read with rfl | decoded
  · cases looked
  obtain ⟨node,parsed,given⟩ := Json.decode_ok.mp decoded
  cases (Json.Node.ofBytes?_pretty _).symm.trans parsed
  obtain ⟨inner,_,same,each⟩ := Json.object_of_written given
  cases same
  obtain ⟨⟨_,source⟩,among,rfl,entry⟩ := each _ (Json.mem_of_lookUp looked)
  obtain rfl : source = .object listed := Json.eq_of_mem_insertMember ascending among
  obtain ⟨_,_,same,each⟩ := Json.object_of_written entry
  cases same
  rw [Json.lookUp,Option.map_eq_none_iff,List.find?_eq_none]
  intro m member named
  obtain ⟨origin,among,same,_⟩ := each m member
  exact free origin among (same.trans (beq_iff_eq.mp named))

theorem remove_eq (config : Members) : remove login password config = (entries config).map fun listed =>
    if (Json.lookUp listed registry).bind login? = some (login,password) then
      some (withEntries config (listed.filter fun m => m.1 != registry))
    else none := by
  unfold remove
  cases entries config with
  | error error => rfl
  | ok listed => exact (apply_ite Except.ok _ _ _).symm

end Content

section Files

theorem configures_of_readFile (read : fs.readFile path = .ok bytes) :
    Configures fs path listed ↔ (ofBytes path bytes).bind entries = .ok listed := by
  constructor
  · rintro ⟨_,config,again,parsed,entered⟩
    cases read.symm.trans again
    rw [parsed]
    exact entered
  · intro entered
    cases parsed : ofBytes path bytes with
    | error error => rw [parsed] at entered; cases entered
    | ok config =>
      rw [parsed] at entered
      exact ⟨bytes,config,read,parsed,entered⟩

-- The entries of a configuration, found by reading it.
def listed? (fs : FileSystem) (path : String) : Option Members :=
  (fs.readFile path).toOption.bind fun bytes => ((ofBytes path bytes).bind entries).toOption

theorem listed?_eq_some : listed? fs path = some listed ↔ Configures fs path listed := by
  unfold listed?
  cases read : fs.readFile path with
  | error obstacle =>
    constructor
    · intro impossible
      cases impossible
    · rintro ⟨_,_,again,_⟩
      cases read.symm.trans again
  | ok bytes =>
    rw [configures_of_readFile read]
    cases entered : (ofBytes path bytes).bind entries with
    | error error => simp [entered,Except.toOption]
    | ok given => simp [entered,Except.toOption]

theorem holdsLogin_iff : HoldsLogin fs path login password ↔
    ((listed? fs path).bind fun listed => (Json.lookUp listed registry).bind login?) = some (login,password) := by
  rw [Option.bind_eq_some_iff]
  simp only [listed?_eq_some]
  rfl

theorem obstructs_iff : Obstructs fs path ↔ fs.pathExists path = true ∧ listed? fs path = none := by
  simp only [Obstructs,Option.eq_none_iff_forall_ne_some,ne_eq,listed?_eq_some]

instance : Decidable (HoldsLogin fs path login password) := decidable_of_iff _ holdsLogin_iff.symm

instance : Decidable (Obstructs fs path) := decidable_of_iff _ obstructs_iff.symm

end Files

section Loading

theorem yields_load_absent (absent : fs.pathExists path = false) : Yields (load path).run fs (.ok none) fs :=
  yields_then (yields_lift (yields_fileExists absent)) yields_pure

theorem yields_load (read : fs.readFile path = .ok bytes) :
    Yields (load path).run fs ((ofBytes path bytes).map some) fs := by
  have reading := @yields_file fs (.read path)
  rw [fileReply,read] at reading
  refine yields_then (yields_lift (yields_fileExists (pathExists_of_readFile read))) ?_
  refine yields_then (yields_orFail reading) ?_
  cases ofBytes path bytes with
  | ok config => exact yields_then (yields_liftExcept rfl) yields_pure
  | error error => exact yields_stops (yields_liftExcept rfl)

theorem yields_load_unread (there : fs.pathExists path = true) {obstacle : Obstacle}
    (unread : fs.readFile path = .error obstacle) : ∃ error, Yields (load path).run fs (.error error) fs := by
  have reading : Yields (Host.read path) fs (fs.readFile path) fs := yields_file
  rw [unread] at reading
  exact ⟨.io ("failed to read registry config: " ++ path) obstacle.message,
    yields_then (yields_lift (yields_fileExists there)) (yields_stops (yields_then (yields_lift reading) yields_throw))⟩

theorem Contains.yields (contains : Contains fs path config) : Yields (load path).run fs (.ok (some config)) fs := by
  obtain ⟨bytes,read,parsed⟩ := contains
  have loading := yields_load read
  rwa [parsed] at loading

-- What is there and is no configuration stops the reading.
theorem yields_load_refused (there : fs.pathExists path = true) (refused : ∀ config, ¬ Contains fs path config) :
    ∃ error, Yields (load path).run fs (.error error) fs := by
  cases read : fs.readFile path with
  | error obstacle => exact yields_load_unread there read
  | ok bytes =>
    have loading := yields_load read
    cases parsed : ofBytes path bytes with
    | error error =>
      rw [parsed] at loading
      exact ⟨error,loading⟩
    | ok config => exact absurd ⟨bytes,read,parsed⟩ (refused config)

end Loading

theorem yields_obstructed (obstructs : Obstructs fs path) :
    ∃ error, Yields (removeFrom path login password).run fs (.error error) fs := by
  obtain ⟨there,unusable⟩ := obstructs
  by_cases readable : ∃ config, Contains fs path config
  · obtain ⟨config,contains⟩ := readable
    cases entered : entries config with
    | error error =>
      have refused : remove login password config = .error error := by
        rw [remove_eq,entered]
        rfl
      exact ⟨error,yields_then contains.yields (yields_stops (yields_liftExcept refused))⟩
    | ok listed =>
      obtain ⟨bytes,read,parsed⟩ := contains
      exact absurd ⟨bytes,config,read,parsed,entered⟩ (unusable listed)
  · obtain ⟨error,loading⟩ := yields_load_refused there fun config contains => readable ⟨config,contains⟩
    exact ⟨error,yields_stops loading⟩

theorem yields_other (configures : Configures fs path listed) (other : ¬ Enters listed login password) :
    Yields (removeFrom path login password).run fs (.ok false) fs := by
  obtain ⟨bytes,config,read,parsed,entered⟩ := configures
  have loading := Contains.yields ⟨bytes,read,parsed⟩
  have unchanged : remove login password config = .ok none := by
    rw [remove_eq,entered]
    exact congrArg Except.ok (if_neg other)
  exact yields_then loading (yields_then (yields_liftExcept unchanged) yields_pure)

theorem yields_taken {mode : Nat} {content : Bytes} (holds : Holds fs path place content mode)
    (parsed : ofBytes path content = .ok config) (entered : entries config = .ok listed)
    (enters : Enters listed login password) :
    ∃ after, Yields (removeFrom path login password).run fs (.ok true) after ∧
      Replaced place (Text.encode (Json.object (withEntries config (listed.filter fun m => m.1 != registry))).pretty)
        fs after := by
  have loading := Contains.yields ⟨content,readFile_eq_ok.mpr ⟨place,mode,holds⟩,parsed⟩
  have changes : remove login password config =
      .ok (some (withEntries config (listed.filter fun m => m.1 != registry))) := by
    rw [remove_eq,entered]
    exact congrArg Except.ok (if_pos enters)
  obtain ⟨after,writing,replaced⟩ := CredentialStore.yields_writeSecret holds
    (Json.object (withEntries config (listed.filter fun m => m.1 != registry))).pretty
  exact ⟨after,yields_then loading (yields_then (yields_liftExcept changes) (yields_then writing yields_pure)),replaced⟩

theorem yields_found (configures : Configures fs path listed) (enters : Enters listed login password) :
    ∃ place content mode bytes after, Yields (removeFrom path login password).run fs (.ok true) after ∧
      Holds fs path place content mode ∧ Cleared bytes ∧ Replaced place bytes fs after := by
  obtain ⟨content,config,read,parsed,entered⟩ := configures
  obtain ⟨place,mode,holds⟩ := readFile_eq_ok.mp read
  have free : ∀ m ∈ listed.filter fun m => m.1 != registry, m.1 ≠ registry :=
    fun m member => bne_iff_ne.mp (List.mem_filter.mp member).2
  obtain ⟨after,yields,replaced⟩ := yields_taken holds parsed entered enters
  exact ⟨place,content,mode,_,after,yields,holds,cleared_withEntries (ascending_ofBytes parsed) free,replaced⟩

theorem not_holdsLogin_of_absent (absent : fs.pathExists path = false) : ¬ HoldsLogin fs path login password := by
  rintro ⟨_,⟨bytes,_,read,_,_⟩,_⟩
  rw [pathExists_of_readFile read] at absent
  cases absent

theorem yields_removeFrom (fs : FileSystem) (path login password : String) :
    ∃ result after, Yields (removeFrom path login password).run fs result after ∧
      Removal path login password fs result after := by
  cases there : fs.pathExists path with
  | false => exact ⟨_,_,yields_then (yields_load_absent there) yields_pure,.kept (not_holdsLogin_of_absent there)⟩
  | true =>
    by_cases readable : ∃ listed, Configures fs path listed
    · obtain ⟨listed,configures⟩ := readable
      by_cases enters : Enters listed login password
      · obtain ⟨_,_,_,_,after,yields,holds,cleared,replaced⟩ := yields_found configures enters
        exact ⟨_,after,yields,.removed ⟨listed,configures,enters⟩ holds cleared replaced⟩
      · refine ⟨_,_,yields_other configures enters,.kept ?_⟩
        rintro ⟨_,again,held⟩
        cases (listed?_eq_some.mpr configures).symm.trans (listed?_eq_some.mpr again)
        exact enters held
    · have obstructs : Obstructs fs path := ⟨there,fun listed configures => readable ⟨listed,configures⟩⟩
      obtain ⟨error,yields⟩ := @yields_obstructed _ _ login password obstructs
      exact ⟨_,_,yields,.stopped obstructs⟩

section Removing

variable {reached : String} {result : Result Bool} {changed : Bool}

-- No file comes to hold the login.
theorem Removal.holdsLogin (removal : Removal path login password fs result after)
    (held : HoldsLogin after reached login password) : HoldsLogin fs reached login password := by
  cases removal with
  | kept _ => exact held
  | stopped _ => exact held
  | removed _ holds cleared replaced =>
    obtain ⟨listed,⟨found,config,read,parsed,entered⟩,enters⟩ := held
    rcases replaced.readFile_cases holds read with rfl | before
    · rw [Enters,cleared reached config listed parsed entered] at enters
      cases enters
    · exact ⟨listed,⟨found,config,before,parsed,entered⟩,enters⟩

theorem Removal.cleaned (removal : Removal path login password fs (.ok changed) after) :
    ¬ HoldsLogin after path login password := by
  cases removal with
  | kept free => exact free
  | removed _ holds cleared replaced =>
    obtain ⟨mode,written⟩ := replaced.holds holds
    have read := readFile_eq_ok.mpr ⟨_,mode,written⟩
    rintro ⟨listed,⟨_,config,again,parsed,entered⟩,enters⟩
    cases read.symm.trans again
    rw [Enters,cleared path config listed parsed entered] at enters
    cases enters

theorem Removal.destination (removal : Removal path login password fs result after) (reached : String) :
    after.destination reached = fs.destination reached := by
  cases removal with
  | kept _ => rfl
  | stopped _ => rfl
  | removed _ _ _ replaced => simp only [FileSystem.destination,FileSystem.start,replaced.current]

theorem Removal.lookUp (removal : Removal path login password fs result after)
    (spared : fs.destination path = place → ¬ HoldsLogin fs path login password) : after.lookUp place = fs.lookUp place := by
  cases removal with
  | kept _ => rfl
  | stopped _ => rfl
  | removed held holds _ replaced =>
    refine replaced.elsewhere place ?_
    rintro rfl
    exact spared (eq_destination_of_locate holds.located).symm held

theorem Removal.obstructs (removal : Removal path login password fs result after)
    (apart : fs.destination path ≠ fs.destination reached) (obstructs : Obstructs after reached) : Obstructs fs reached := by
  cases removal with
  | kept _ => exact obstructs
  | stopped _ => exact obstructs
  | removed _ holds _ replaced =>
    have located {other : Location} := @Replaced.locate_iff _ _ _ other reached _ replaced (by rw [holds.found]; nofun)
    have elsewhere {other : Location} (leads : fs.locate reached = .ok other) : after.lookUp other = fs.lookUp other := by
      refine replaced.elsewhere other ?_
      rintro rfl
      exact apart ((eq_destination_of_locate holds.located).symm.trans (eq_destination_of_locate leads))
    obtain ⟨there,unusable⟩ := obstructs
    obtain ⟨other,entry,leads,found⟩ := pathExists_iff.mp there
    have before := located.mp leads
    rw [elsewhere before] at found
    refine ⟨pathExists_iff.mpr ⟨other,entry,before,found⟩,fun listed configures => unusable listed ?_⟩
    obtain ⟨bytes,config,read,parsed,entered⟩ := configures
    obtain ⟨place,mode,kept⟩ := readFile_eq_ok.mp read
    have again : Holds after reached place bytes mode :=
      ⟨located.mpr kept.located,(elsewhere kept.located).trans kept.found⟩
    exact ⟨bytes,config,readFile_eq_ok.mpr ⟨place,mode,again⟩,parsed,entered⟩

end Removing

-- What comes of a removal from a row of files: those that it went through, and those that it did not come to.
structure Swept (login password : String) (done rest : List String) (fs after : FileSystem) (result : Result Unit) :
    Prop where
  cleaned : ∀ path ∈ done, ¬ HoldsLogin after path login password
  unspread : ∀ path, HoldsLogin after path login password → HoldsLogin fs path login password
  spared : ∀ place, (∀ path ∈ done, fs.destination path = place → ¬ HoldsLogin fs path login password) →
    after.lookUp place = fs.lookUp place
  finished : result = .ok () → rest = []
  stopped : ∀ error, result = .error error → ∃ path more, rest = path :: more ∧ Obstructs after path ∧
    ((∀ earlier ∈ done, fs.destination earlier ≠ fs.destination path) → Obstructs fs path)

section Sweeping

variable {done rest : List String} {result : Result Unit} {changed : Bool}

theorem swept_nil : Swept login password [] [] fs fs (.ok ()) where
  cleaned _ member := nomatch member
  unspread _ held := held
  spared _ _ := rfl
  finished _ := rfl
  stopped _ impossible := nomatch impossible

theorem swept_obstructed {error : Error} (obstructs : Obstructs fs path) (more : List String) :
    Swept login password [] (path :: more) fs fs (.error error) where
  cleaned _ member := nomatch member
  unspread _ held := held
  spared _ _ := rfl
  finished impossible := nomatch impossible
  stopped _ _ := ⟨path,more,rfl,obstructs,fun _ => obstructs⟩

theorem Swept.cons (removal : Removal path login password fs (.ok changed) between)
    (swept : Swept login password done rest between after result) :
    Swept login password (path :: done) rest fs after result where
  cleaned := List.forall_mem_cons.mpr ⟨fun held => removal.cleaned (swept.unspread path held),swept.cleaned⟩
  unspread reached held := removal.holdsLogin (swept.unspread reached held)
  spared place free := by
    obtain ⟨first,later⟩ := List.forall_mem_cons.mp free
    rw [← removal.lookUp first]
    refine swept.spared place fun reached member leads held => ?_
    rw [removal.destination] at leads
    exact later reached member leads (removal.holdsLogin held)
  finished := swept.finished
  stopped error failed := by
    obtain ⟨reached,more,same,obstructs,before⟩ := swept.stopped error failed
    refine ⟨reached,more,same,obstructs,fun apart => ?_⟩
    obtain ⟨first,later⟩ := List.forall_mem_cons.mp apart
    simp only [removal.destination] at before
    exact removal.obstructs first (before later)

-- Where every file that is there is a configuration, and no two paths lead to one place, none is left.
theorem Swept.complete (swept : Swept login password done rest fs after result)
    (usable : ∀ path ∈ done ++ rest, ¬ Obstructs fs path) (distinct : ((done ++ rest).map fs.destination).Nodup) :
    result = .ok () ∧ ∀ path ∈ done ++ rest, ¬ HoldsLogin after path login password := by
  cases result with
  | ok =>
    rw [swept.finished rfl,List.append_nil]
    exact ⟨rfl,swept.cleaned⟩
  | error error =>
    obtain ⟨path,more,rfl,_,before⟩ := swept.stopped error rfl
    rw [List.map_append,List.nodup_append] at distinct
    refine absurd (before fun earlier member => ?_) (usable path (by simp))
    exact distinct.2.2 _ (List.mem_map_of_mem member) _ (by simp)

theorem yields_forM_removeFrom (login password : String) (paths : List String) (fs : FileSystem) :
    ∃ result after done rest,
      Yields (paths.forM fun path => discard (removeFrom path login password) : Action Unit).run fs result after ∧
      paths = done ++ rest ∧ Swept login password done rest fs after result := by
  induction paths generalizing fs with
  | nil => exact ⟨_,fs,[],[],yields_pure,rfl,swept_nil⟩
  | cons path more ih =>
    obtain ⟨one,between,yields,removal⟩ := yields_removeFrom fs path login password
    cases one with
    | error error =>
      cases removal with
      | stopped obstructs =>
        exact ⟨_,_,[],path :: more,yields_stops (yields_stops yields),rfl,swept_obstructed obstructs more⟩
    | ok changed =>
      obtain ⟨result,after,done,rest,later,rfl,swept⟩ := ih between
      exact ⟨result,after,path :: done,rest,yields_then (yields_then yields yields_pure) later,rfl,swept.cons removal⟩

end Sweeping

end RegistryLogin

namespace CredentialStore

open Host RegistryLogin

theorem removeRegistryLogin_swept (s : CredentialStore) (c : Credentials) (fs : FileSystem) :
    ∃ result after, Yields (s.removeRegistryLogin c).run fs result after ∧
      (∃ done rest, s.registryConfigs = done ++ rest ∧ Swept c.username c.password done rest fs after result) ∧
      ((∀ path ∈ s.registryConfigs, ¬ Obstructs fs path) → (s.registryConfigs.map fs.destination).Nodup →
        result = .ok () ∧ ∀ path ∈ s.registryConfigs, ¬ HoldsLogin after path c.username c.password) := by
  obtain ⟨result,after,done,rest,yields,parts,swept⟩ :=
    yields_forM_removeFrom c.username c.password s.registryConfigs fs
  refine ⟨result,after,yields,⟨done,rest,parts,swept⟩,fun usable distinct => ?_⟩
  rw [parts] at usable distinct ⊢
  exact swept.complete usable distinct

-- Two tools with a login each, of which the first has a damaged configuration.

def tools : CredentialStore := ⟨"/",["/docker.json","/podman.json"]⟩

def swordfish : Credentials := ⟨"SCC_1","swordfish",none⟩

def damaged : FileSystem where
  entries := [(["docker.json"],.file (Text.encode "\x7b") 0o644),
    (["podman.json"],.file (Text.encode (Json.object [("auths",.object
      [(registry,.object [("auth",.string (encode "SCC_1" "swordfish"))])])]).pretty) 0o600)]
  current := []

theorem login_left_behind : ¬ ∀ (s : CredentialStore) (c : Credentials) fs result after,
    Yields (s.removeRegistryLogin c).run fs result after →
    ∀ path ∈ s.registryConfigs, (∃ listed, Configures fs path listed) → ¬ HoldsLogin after path c.username c.password := by
  intro cleaned
  have obstructs : Obstructs damaged "/docker.json" := by decide +kernel
  have held : HoldsLogin damaged "/podman.json" swordfish.username swordfish.password := by decide +kernel
  obtain ⟨error,yields⟩ := @yields_obstructed _ _ swordfish.username swordfish.password obstructs
  have stops : Yields (tools.removeRegistryLogin swordfish).run damaged (.error error) damaged :=
    yields_stops (yields_stops yields)
  obtain ⟨listed,configures,_⟩ := id held
  exact cleaned tools swordfish damaged _ _ stops "/podman.json" (by decide) ⟨listed,configures⟩ held

end CredentialStore
end Entitlement
