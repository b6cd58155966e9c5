import Entitlement.Host.Script
import Entitlement.Proofs.Credentials.Registry
import Entitlement.Proofs.Host.Secrets
import Entitlement.Proofs.Json.Values
import Entitlement.Proofs.Text.Base64

-- What adding a login to a configuration changes in it, and what taking the login away brings back. A tool keeps other
-- settings in its file: whatever they are, they are read from the new file as they were read from the old one, as far as
-- their numbers are integers.
namespace Entitlement.RegistryLogin

open Host FileSystem

-- The entry of a login.
def entryOf (login password : String) : Json := .object [("auth",.string (encode login password))]

-- The configuration with that entry among those that it lists.
def withLogin (login password : String) (config listed : Members) : Members :=
  withEntries config (Json.Reader.insertMember registry (entryOf login password) listed)

-- The configurations differ in the entry of the login, and in nothing else.
structure Adds (login password : String) (config listed edited : Members) : Prop where
  ascending : Json.Ascending edited
  others : ∀ name ≠ "auths", Json.lookUp edited name = Json.lookUp config name
  extended : ∃ extended, Json.lookUp edited "auths" = some (.object extended) ∧ Json.Ascending extended ∧
    Json.lookUp listed registry = none ∧ Json.lookUp extended registry = some (entryOf login password) ∧
    ∀ name ≠ registry, Json.lookUp extended name = Json.lookUp listed name

-- The configurations have the same entries, and differ at most in that there was no object for them.
structure Restores (config listed restored : Members) : Prop where
  ascending : Json.Ascending restored
  others : ∀ name ≠ "auths", Json.lookUp restored name = Json.lookUp config name
  entries : Json.lookUp restored "auths" = some (.object listed)
  whole : Json.lookUp config "auths" = some (.object listed) → restored = config

-- Where nothing is, the configuration is an empty one.
def Loads (fs : FileSystem) (path : String) (config : Members) : Prop :=
  (fs.pathExists path = false ∧ config = []) ∨ Contains fs path config

-- What comes of adding a login.
inductive Addition (path login password : String) (fs : FileSystem) (events : List Host.Event) :
    Result Unit → FileSystem → Prop where
  | refused : (∀ config listed, Loads fs path config → entries config ≠ .ok listed) →
      Addition path login password fs events (.error error) fs
  | present : Loads fs path config → entries config = .ok listed → Json.lookUp listed registry = some value →
      Addition path login password fs events (.ok ()) fs
  | added : Loads fs path config → entries config = .ok listed → Json.lookUp listed registry = none →
      Prepared path fs between → Holds after path place bytes mode → Replaced place bytes between after →
      (Json.Integral (.object config) → ∃ edited, ofBytes path bytes = .ok edited ∧
        Adds login password config listed edited) →
      Addition path login password fs events (.ok ()) after
  | failed : fs.pathExists path = false → Prepared path fs after → event ∈ events → isUnhindered event = false →
      Addition path login password fs events (.error error) after

variable {fs between after : FileSystem} {path login password : String} {config listed : Members}
  {bytes : Bytes} {place : Location} {mode : Nat} {events : List Host.Event} {result : Result Unit}

section Content

theorem decode?_encode (free : ':' ∉ login.toList) : decode? (encode login password) = some (login,password) := by
  have bytes : Text.Base64.decode? (encode login password).toList = some (Text.encode (login ++ ":" ++ password)) := by
    rw [encode,String.toList_ofList]
    exact Text.Base64.decode?_encode _
  have parts : (login ++ ":" ++ password).toList = login.toList ++ ':' :: password.toList := by simp
  have cut := Text.splitFirst_append free password.toList
  rw [← parts] at cut
  simp only [decode?,bytes,Text.decode?_encode,cut,Option.bind_eq_bind,Option.bind_some,String.ofList_toList]

theorem login?_entryOf (free : ':' ∉ login.toList) : login? (entryOf login password) = some (login,password) :=
  decode?_encode free

theorem add_eq (config : Members) : add login password config = (entries config).map fun listed =>
    if (Json.lookUp listed registry).isSome then none
    else some (withLogin login password config listed) := by
  unfold add
  cases entries config with
  | error error => rfl
  | ok listed => exact (apply_ite Except.ok _ _ _).symm

theorem enters_insertMember (free : ':' ∉ login.toList) (listed : Members) :
    Enters (Json.Reader.insertMember registry (entryOf login password) listed) login password := by
  rw [Enters,Json.lookUp_insertMember,if_pos rfl,Option.bind_some,login?_entryOf free]

theorem lookUp_withEntries (config listed : Members) : Json.lookUp (withEntries config listed) "auths" = some (.object listed) :=
  (Json.lookUp_insertMember ..).trans (if_pos rfl)

theorem lookUp_withEntries_of_ne {name : String} (config listed : Members) (other : name ≠ "auths") :
    Json.lookUp (withEntries config listed) name = Json.lookUp config name :=
  (Json.lookUp_insertMember ..).trans (if_neg other.symm)

theorem entries_withEntries (config listed : Members) : entries (withEntries config listed) = .ok listed := by
  rw [entries,lookUp_withEntries]

theorem withEntries_twice (config first second : Members) :
    withEntries (withEntries config first) second = withEntries config second := Json.insertMember_twice ..

theorem withEntries_restores (ascending : Json.Ascending config) : Restores config listed (withEntries config listed) where
  ascending := Json.ascending_insertMember ascending
  others _ other := lookUp_withEntries_of_ne config listed other
  entries := lookUp_withEntries config listed
  whole := Json.insertMember_of_lookUp ascending

-- Added and taken away again, an entry leaves nothing behind.
theorem filter_insertMember_registry (value : Json) (absent : Json.lookUp listed registry = none) :
    (Json.Reader.insertMember registry value listed).filter (fun m => m.1 != registry) = listed :=
  (Json.filter_insertMember ..).trans (Json.filter_eq_self_of_lookUp absent)

theorem withLogin_adds (ascending : Json.Ascending config) (ordered : Json.Ascending listed)
    (absent : Json.lookUp listed registry = none) :
    Adds login password config listed (withLogin login password config listed) where
  ascending := Json.ascending_insertMember ascending
  others _ other := lookUp_withEntries_of_ne config _ other
  extended := by
    refine ⟨_,lookUp_withEntries config _,Json.ascending_insertMember ordered,absent,?_,?_⟩
    · rw [Json.lookUp_insertMember,if_pos rfl]
    · intro name other
      rw [Json.lookUp_insertMember,if_neg other.symm]

end Content

-- Configurations that are written as they are, so that they are read again.
section Written

theorem not_blank_pretty (config : Members) : (Text.encode (Json.object config).pretty).all Text.isAsciiBlank = false := by
  have opened : ∃ rest, (Json.object config).writeLines 0 = '\x7b' :: rest := by
    cases config with
    | nil => exact ⟨_,rfl⟩
    | cons m rest => exact ⟨_,rfl⟩
  obtain ⟨rest,opened⟩ := opened
  have first : String.utf8EncodeChar '\x7b' = [0x7b] := by decide
  rw [Json.pretty,opened,Text.encode,String.toList_ofList,List.flatMap_cons,first]
  rfl

theorem ofBytes_pretty (sound : Json.Sound Json.depthLimit (.object config)) :
    ofBytes path (Text.encode (Json.object config).pretty) = .ok config := by
  rw [ofBytes,not_blank_pretty,sound.decode_pretty]
  rfl

theorem sound_ofBytes (integral : Json.Integral (.object config)) (read : ofBytes path bytes = .ok config) :
    Json.Sound Json.depthLimit (.object config) := by
  rcases ofBytes_cases read with rfl | decoded
  · exact Json.sound_nil
  · obtain ⟨node,_,given⟩ := Json.decode_ok.mp decoded
    exact integral.sound given

theorem sound_entries {room : Nat} (sound : Json.Sound (room + 1 + 1) (.object config))
    (entered : entries config = .ok listed) : Json.Sound (room + 1) (.object listed) := by
  rcases entries_cases entered with rfl | looked
  · exact Json.sound_nil
  · exact sound.member looked

theorem sound_withEntries {room : Nat} (sound : Json.Sound (room + 1) (.object config))
    (inner : Json.Sound room (.object listed)) : Json.Sound (room + 1) (.object (withEntries config listed)) :=
  sound.insertMember inner

theorem sound_entryOf {room : Nat} : Json.Sound (room + 1) (entryOf login password) := by
  apply Json.Sound.object (List.pairwise_singleton _ _)
  intro m member
  cases List.mem_singleton.mp member
  exact .string

theorem sound_withLogin (sound : Json.Sound Json.depthLimit (.object config)) (entered : entries config = .ok listed) :
    Json.Sound Json.depthLimit (.object (withLogin login password config listed)) :=
  sound_withEntries sound ((sound_entries sound entered).insertMember sound_entryOf)

theorem contains_of_holds (sound : Json.Sound Json.depthLimit (.object config))
    (holds : Holds fs path place (Text.encode (Json.object config).pretty) mode) : Contains fs path config :=
  ⟨_,readFile_eq_ok.mpr ⟨place,mode,holds⟩,ofBytes_pretty sound⟩

end Written

section Loading

theorem Loads.sound (loads : Loads fs path config) (integral : Json.Integral (.object config)) :
    Json.Sound Json.depthLimit (.object config) := by
  rcases loads with ⟨_,rfl⟩ | ⟨bytes,_,parsed⟩
  · exact Json.sound_nil
  · exact sound_ofBytes integral parsed

theorem Loads.yields (loads : Loads fs path config) :
    ∃ found, Yields (load path).run fs (.ok found) fs ∧ found.getD [] = config := by
  rcases loads with ⟨absent,rfl⟩ | contains
  · exact ⟨none,yields_load_absent absent,rfl⟩
  · exact ⟨some config,contains.yields,rfl⟩

end Loading

section Adding

theorem yields_addTo_refused (refused : ∀ config listed, Loads fs path config → entries config ≠ .ok listed) :
    ∃ error, Yields (addTo path login password).run fs (.error error) fs := by
  by_cases loaded : ∃ config, Loads fs path config
  · obtain ⟨config,loads⟩ := loaded
    obtain ⟨found,loading,rfl⟩ := loads.yields
    cases entered : entries (found.getD []) with
    | error error =>
      have stops : add login password (found.getD []) = .error error := by
        rw [add_eq,entered]
        rfl
      exact ⟨error,yields_then loading (yields_stops (yields_liftExcept stops))⟩
    | ok listed => exact absurd entered (refused _ listed loads)
  · have there : fs.pathExists path = true := by
      by_contra missing
      exact loaded ⟨[],.inl ⟨Bool.eq_false_iff.mpr missing,rfl⟩⟩
    obtain ⟨error,loading⟩ := yields_load_refused there fun config contains => loaded ⟨config,.inr contains⟩
    exact ⟨error,yields_stops loading⟩

theorem yields_addTo_present {value : Json} (loads : Loads fs path config) (entered : entries config = .ok listed)
    (present : Json.lookUp listed registry = some value) : Yields (addTo path login password).run fs (.ok ()) fs := by
  obtain ⟨found,loading,rfl⟩ := loads.yields
  have skips : add login password (found.getD []) = .ok none := by
    rw [add_eq,entered]
    exact congrArg Except.ok (if_pos (by rw [present]; rfl))
  exact yields_then loading (yields_then (yields_liftExcept skips) (yields_lift yields_report))

theorem add_absent (entered : entries config = .ok listed) (absent : Json.lookUp listed registry = none) :
    add login password config = .ok (some (withLogin login password config listed)) := by
  rw [add_eq,entered]
  exact congrArg Except.ok (if_neg (by rw [absent]; nofun))

-- Where a file is, nothing hinders the writing.
theorem yields_addTo_absent (contains : Contains fs path config) (entered : entries config = .ok listed)
    (absent : Json.lookUp listed registry = none) : ∃ after, Yields (addTo path login password).run fs (.ok ()) after := by
  obtain ⟨found,loading,rfl⟩ := Loads.yields (.inr contains)
  obtain ⟨bytes,read,_⟩ := contains
  obtain ⟨place,mode,holds⟩ := readFile_eq_ok.mp read
  obtain ⟨after,writing,_⟩ := CredentialStore.yields_writeSecret holds
    (Json.object (withLogin login password (found.getD []) listed)).pretty
  exact ⟨after,yields_then loading (yields_then (yields_liftExcept (add_absent entered absent)) writing)⟩

theorem writes_of_addTo (loads : Loads fs path config) (entered : entries config = .ok listed)
    (absent : Json.lookUp listed registry = none) (ran : Ran (addTo path login password) events result)
    (follows : Follows fs events after) :
    Writes path (Json.object (withLogin login password config listed)).pretty fs after events result := by
  obtain ⟨found,loading,rfl⟩ := loads.yields
  obtain ⟨first,rest,rfl,_,later,followsLater⟩ := loading.ran_bind ran follows
  obtain ⟨second,last,rfl,_,saving,followsSaving⟩ := (yields_liftExcept (add_absent entered absent)).ran_bind later followsLater
  exact (writes_of_ran saving followsSaving).among fun event member => by simp [member]

theorem addition_of_ran (ran : Ran (addTo path login password) events result) (follows : Follows fs events after) :
    Addition path login password fs events result after := by
  by_cases usable : ∃ config listed, Loads fs path config ∧ entries config = .ok listed
  · obtain ⟨config,listed,loads,entered⟩ := usable
    cases found : Json.lookUp listed registry with
    | some value =>
      obtain ⟨rfl,rfl,_⟩ := yields_addTo_present loads entered found _ _ _ ran follows
      exact .present loads entered found
    | none =>
      cases writes_of_addTo loads entered found ran follows with
      | written prepared holds replaced =>
        apply Addition.added loads entered found prepared holds replaced
        intro integral
        have sound := loads.sound integral
        exact ⟨_,ofBytes_pretty (sound_withLogin sound entered),
          withLogin_adds sound.ascending (sound_entries sound entered).ascending found⟩
      | failed prepared member hindered =>
        rcases loads with ⟨missing,_⟩ | contains
        · exact .failed missing prepared member hindered
        · obtain ⟨_,written⟩ := yields_addTo_absent contains entered found
          cases (written _ _ _ ran follows).1
  · obtain ⟨error,refused⟩ := @yields_addTo_refused _ _ login password fun config listed loads entered =>
      usable ⟨config,listed,loads,entered⟩
    obtain ⟨rfl,rfl,_⟩ := refused _ _ _ ran follows
    exact .refused fun config listed loads entered => usable ⟨config,listed,loads,entered⟩

theorem Addition.unchanged {error : Error} (addition : Addition path login password fs events (.error error) after)
    (place : Location) : after.fileAt place = fs.fileAt place := by
  cases addition with
  | refused _ => rfl
  | failed _ prepared _ _ => exact prepared.bypasses.file

theorem yields_undone (free : ':' ∉ login.toList) (loads : Loads fs path config) (integral : Json.Integral (.object config))
    (entered : entries config = .ok listed) (absent : Json.lookUp listed registry = none)
    (ran : Ran (addTo path login password) events (.ok ())) (follows : Follows fs events after) :
    ∃ restored final, Yields (removeFrom path login password).run after (.ok true) final ∧
      Contains final path restored ∧ Restores config listed restored := by
  have sound := loads.sound integral
  cases writes_of_addTo loads entered absent ran follows with
  | written _ holds _ =>
    obtain ⟨final,yields,replaced⟩ := yields_taken holds (ofBytes_pretty (sound_withLogin sound entered))
      (entries_withEntries config _) (enters_insertMember free listed)
    rw [withLogin,withEntries_twice,filter_insertMember_registry _ absent] at replaced
    obtain ⟨_,again⟩ := replaced.holds holds
    have restored := sound_withEntries sound (sound_entries sound entered)
    exact ⟨_,final,yields,contains_of_holds restored again,withEntries_restores sound.ascending⟩

end Adding

section Removing

variable {removed : Result Bool}

theorem not_holdsLogin_of_obstructs (obstructs : Obstructs fs path) : ¬ HoldsLogin fs path login password := by
  intro held
  obtain ⟨listed,configures,_⟩ := held
  exact obstructs.2 listed configures

theorem Removal.true_iff (removal : Removal path login password fs removed after) :
    removed = .ok true ↔ HoldsLogin fs path login password := by
  cases removal with
  | kept free => exact iff_of_false nofun free
  | removed held _ _ _ => exact iff_of_true rfl held
  | stopped obstructs => exact iff_of_false nofun (not_holdsLogin_of_obstructs obstructs)

theorem Removal.unchanged (removal : Removal path login password fs removed after) (other : removed ≠ .ok true) :
    after = fs := by
  cases removal with
  | removed _ _ _ _ => exact absurd rfl other
  | _ => rfl

end Removing

theorem edits_exactly (path login password : String) (fs : FileSystem) :
    (∀ events result after, Ran (addTo path login password) events result → Follows fs events after →
      Addition path login password fs events result after ∧
        ∀ error, result = .error error → ∀ place, after.fileAt place = fs.fileAt place) ∧
    (∀ config listed events after, ':' ∉ login.toList → Loads fs path config → Json.Integral (.object config) →
      entries config = .ok listed → Json.lookUp listed registry = none →
      Ran (addTo path login password) events (.ok ()) → Follows fs events after →
      ∃ restored final, Yields (removeFrom path login password).run after (.ok true) final ∧
        Contains final path restored ∧ Restores config listed restored) ∧
    ∃ result after, Yields (removeFrom path login password).run fs result after ∧
      (result = .ok true ↔ HoldsLogin fs path login password) ∧ (result ≠ .ok true → after = fs) := by
  refine ⟨?_,?_,?_⟩
  · intro events result after ran follows
    have addition := addition_of_ran ran follows
    refine ⟨addition,?_⟩
    intro error failed place
    subst failed
    exact addition.unchanged place
  · intro config listed events after free loads integral entered absent ran follows
    exact yields_undone free loads integral entered absent ran follows
  · obtain ⟨result,after,yields,removal⟩ := yields_removeFrom fs path login password
    exact ⟨result,after,yields,removal.true_iff,removal.unchanged⟩

-- A configuration with a setting of the tool's own, and without logins.

def settings : Members := [("auths",.null),("limits",.array [Json.integer 30,Json.integer (-1)])]

def docker : Machine Script where
  files := ⟨[(["docker.json"],.file (Text.encode "\x7b\"limits\": [30, -1], \"auths\": null\x7d\n") 0o644)],[]⟩
  environment := []
  accountHome := none
  hardware := default
  input := []
  printed := []
  events := []
  surroundings := ⟨[],none,[],[]⟩

theorem integral_settings : Json.Integral (.object settings) := by
  apply Json.Integral.object
  simp only [settings,List.forall_mem_cons,List.not_mem_nil,IsEmpty.forall_iff,implies_true,and_true]
  refine ⟨.null,.array ?_⟩
  simp only [List.forall_mem_cons,List.not_mem_nil,IsEmpty.forall_iff,implies_true,and_true]
  exact ⟨.number,.number⟩

theorem docker_edited : ∃ events after restored final,
    Ran (addTo "/docker.json" "SCC_1" "sword:fish") events (.ok ()) ∧ Follows docker.files events after ∧
      Addition "/docker.json" "SCC_1" "sword:fish" docker.files events (.ok ()) after ∧
      Yields (removeFrom "/docker.json" "SCC_1" "sword:fish").run after (.ok true) final ∧
      Contains final "/docker.json" restored ∧ Restores settings [] restored := by
  obtain ⟨adding,undoing,_⟩ := edits_exactly "/docker.json" "SCC_1" "sword:fish" docker.files
  obtain ⟨events,run,follows⟩ := run_follows Script.surroundings (addTo "/docker.json" "SCC_1" "sword:fish").run docker
  have contains : Contains docker.files "/docker.json" settings := ⟨_,rfl,rfl⟩
  have entered : entries settings = .ok [] := rfl
  obtain ⟨_,written⟩ := @yields_addTo_absent _ "/docker.json" "SCC_1" "sword:fish" _ _ contains entered rfl
  rw [(written _ _ _ run follows).1] at run
  obtain ⟨restored,final,yields,kept,restores⟩ :=
    undoing settings [] events _ (by decide) (.inr contains) integral_settings entered rfl run follows
  exact ⟨events,_,restored,final,run,follows,(adding events _ _ run follows).1,yields,kept,restores⟩

end Entitlement.RegistryLogin
