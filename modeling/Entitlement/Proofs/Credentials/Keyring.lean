import Mathlib.Logic.Function.Basic
import Entitlement.Proofs.Credentials.Separation
import Entitlement.Proofs.Host.Beneath

-- The store of credentials by what it keeps. Between the files of a store that began with none and a keyring nothing
-- can be told apart: every edit has the same outcome, and every reading says the same.
namespace Entitlement

-- At most one record for the system, and at most one login for each service.
structure Keyring where
  system : Option Credentials
  services : String → Option Login

namespace Keyring

def empty : Keyring := ⟨none,fun _ => none⟩

inductive Edit where
  | writeSystem (credentials : Credentials)
  | updateToken (token : String)
  | removeSystem
  | writeService (service : String)
  | removeService (service : String)

-- The keyring after an edit. A token and a service need the record of the system, and without it they are refused.
def edited (k : Keyring) : Edit → Option Keyring
  | .writeSystem c => some { k with system := some c }
  | .updateToken token => k.system.map fun c => { k with system := some { c with token := some token } }
  | .removeSystem => some { k with system := none }
  | .writeService service =>
    k.system.map fun c => { k with services := Function.update k.services service (some ⟨c.username,c.password⟩) }
  | .removeService service => some { k with services := Function.update k.services service none }

-- Everything that is kept, by the name of its file.
def files (k : Keyring) : String → Option Credentials :=
  Function.update (fun service => (k.services service).map Login.credentials) CredentialStore.systemFile k.system

end Keyring

namespace CredentialStore

open Host FileSystem Keyring

-- A name that stands for a file in its directory.
structure Ordinary (name : String) : Prop where
  single : '/' ∉ name.toList
  plain : Path.isIdle name.toList = false
  down : name.toList ≠ ['.','.']

def Admissible : Edit → Prop
  | .writeSystem c => Credentials.Kept c
  | .updateToken token => Credentials.Storable token
  | .removeSystem => True
  | .writeService service | .removeService service => Ordinary service ∧ service ≠ systemFile

instance (name : String) : Decidable (Ordinary name) :=
  decidable_of_iff ('/' ∉ name.toList ∧ Path.isIdle name.toList = false ∧ name.toList ≠ ['.','.'])
    ⟨fun ⟨single,plain,down⟩ => ⟨single,plain,down⟩,fun o => ⟨o.single,o.plain,o.down⟩⟩

instance : (e : Edit) → Decidable (Admissible e)
  | .writeSystem c => inferInstanceAs (Decidable (Credentials.Kept c))
  | .updateToken token => inferInstanceAs (Decidable (Credentials.Storable token))
  | .removeSystem => inferInstanceAs (Decidable True)
  | .writeService service | .removeService service =>
    inferInstanceAs (Decidable (Ordinary service ∧ service ≠ systemFile))

def edit (s : CredentialStore) : Edit → Action Unit
  | .writeSystem c => s.writeSystem c
  | .updateToken token => s.updateToken token
  | .removeSystem => s.removeSystem
  | .writeService service => s.writeService service
  | .removeService service => s.removeService service

-- Edits one after the other, whatever becomes of each.
def history (s : CredentialStore) : List Edit → Operation (List (Result Unit))
  | [] => pure []
  | e :: rest => do
    let result ← (s.edit e).run
    let others ← s.history rest
    pure (result :: others)

-- A file that is read: it yields what is kept there, or is missed.
def Shows (fs : FileSystem) (path : String) (kept : Option Credentials) : Prop :=
  Yields (readFile path).run fs (match kept with | some c => .ok c | none => .error (.missingCredentials path)) fs

-- Files that cannot be told from a keyring by reading them.
structure Mirrors (s : CredentialStore) (k : Keyring) (fs : FileSystem) : Prop where
  present : Yields s.hasSystem fs k.system.isSome fs
  system : Shows fs s.systemPath k.system
  services : ∀ service, Ordinary service → service ≠ systemFile →
    Shows fs (s.servicePath service) ((k.services service).map Login.credentials)

-- The files and the keyring side by side. An edit that the keyring refuses leaves the files as they are.
inductive Simulates (s : CredentialStore) :
    Keyring → FileSystem → List Edit → List Host.Event → List (Result Unit) → FileSystem → Prop where
  | nil : Mirrors s k fs → Simulates s k fs [] [] [] fs
  | edited : Mirrors s k fs → k.edited e = some next → Ran (s.edit e) first (.ok ()) → Follows fs first between →
      Simulates s next between rest second results after →
      Simulates s k fs (e :: rest) (first ++ second) (.ok () :: results) after
  | refused : Mirrors s k fs → k.edited e = none → Ran (s.edit e) first (.error (.missingCredentials s.systemPath)) →
      Follows fs first fs → Simulates s k fs rest second results after →
      Simulates s k fs (e :: rest) (first ++ second) (.error (.missingCredentials s.systemPath) :: results) after

variable {fs after : FileSystem} {s : CredentialStore} {name other path : String} {place : Location} {c : Credentials}
  {events : List Host.Event} {result : Result Unit}

-- Where the files are.

-- The way to the root does not lead through what is below it.
def Outside (s : CredentialStore) (fs : FileSystem) : Prop :=
  ∀ front, front <+: Text.split '/' s.root.toList → ∀ rest, rest ≠ [] →
    walk (fs.start s.root) front ≠ fs.destination s.root ++ rest

structure Fresh (s : CredentialStore) (fs : FileSystem) : Prop where
  outside : s.Outside fs
  empty : ∀ rest, rest ≠ [] → fs.lookUp (fs.destination s.root ++ rest) = none

def inside (name : String) : List String := ["etc","zypp","credentials.d",name]

theorem ordinary_systemFile : Ordinary systemFile := ⟨by decide,by decide,by decide⟩

theorem Ordinary.relative (ordinary : Ordinary name) : Path.isAbsolute name = false := by
  have single := ordinary.single
  unfold Path.isAbsolute
  cases cs : name.toList with
  | nil => rfl
  | cons first rest =>
    rw [cs] at single
    have other : first ≠ '/' := fun slash => single (slash ▸ List.mem_cons_self)
    simpa using other

theorem split_directory : Text.split '/' directory.toList = ["etc","zypp","credentials.d"].map String.toList := by decide

theorem behind_servicePath (s : CredentialStore) (ordinary : Ordinary name) :
    ∃ front, Behind s.root (s.servicePath name) front ((inside name).map String.toList) := by
  obtain ⟨front,idle,parts,silent,whole,start⟩ := @Path.split_join s.root directory (by decide)
  obtain ⟨above,last,again,ending,entire,begins⟩ := Path.split_join (Path.join s.root directory) ordinary.relative
  rw [whole,split_directory] at again
  have filled : last = [] := by
    rcases ending with nothing | rfl
    · exact nothing
    · simpa using congrArg List.getLast? again
  rw [filled,List.append_nil] at again
  refine ⟨front,behind_of_split parts silent ?_ (begins.trans start)⟩
  rw [servicePath,entire,← again,Text.split_of_not_mem ordinary.single]
  simp [inside]

theorem walk_plain {above : Location} {names : List String}
    (plain : ∀ name ∈ names, Path.isIdle name.toList = false ∧ name.toList ≠ ['.','.']) :
    walk above (names.map String.toList) = above ++ names := by
  induction names generalizing above with
  | nil => simp [walk]
  | cons name rest ih =>
    obtain ⟨⟨filled,down⟩,later⟩ := List.forall_mem_cons.mp plain
    simp [walk,filled,down,ih later]

theorem Ordinary.inside_plain (ordinary : Ordinary name) :
    ∀ part ∈ inside name, Path.isIdle part.toList = false ∧ part.toList ≠ ['.','.'] := by
  simp only [inside,List.forall_mem_cons]
  exact ⟨by decide,by decide,by decide,⟨ordinary.plain,ordinary.down⟩,fun _ member => nomatch member⟩

theorem destination_servicePath (fs : FileSystem) (s : CredentialStore) (ordinary : Ordinary name) :
    fs.destination (s.servicePath name) = fs.destination s.root ++ inside name := by
  obtain ⟨front,behind⟩ := behind_servicePath s ordinary
  rw [behind.destination,walk_plain ordinary.inside_plain]

-- Nothing that is done for one file has to do with the place of another.
theorem offWay_servicePath (outside : s.Outside fs) (one : Ordinary name) (another : Ordinary other)
    (different : other ≠ name) : OffWay fs (s.servicePath name) (fs.destination (s.servicePath other)) := by
  intro names begins
  obtain ⟨front,behind⟩ := behind_servicePath s one
  rw [behind.parts] at begins
  rw [behind.start,destination_servicePath fs s another]
  rcases List.prefix_or_prefix_of_prefix begins (List.prefix_append front _) with early | ⟨more,rfl⟩
  · exact outside names (early.trans behind.begins) _ (List.cons_ne_nil _ _)
  · obtain ⟨part,ahead,rfl⟩ := List.prefix_map_iff.mp ((List.prefix_append_right_inj front).mp begins)
    rw [walk_append,behind.leads,walk_plain fun piece member => one.inside_plain piece (ahead.subset member)]
    intro together
    obtain rfl := List.append_cancel_left together
    have whole := ahead.eq_of_length rfl
    simp [inside,different] at whole

theorem Outside.later (outside : s.Outside fs) (extended : Extends fs after) : s.Outside after := by
  intro front begins rest some
  have start : after.start s.root = fs.start s.root := by simp only [FileSystem.start,extended.current]
  rw [start,extended.destination]
  exact outside front begins rest some

-- What the files hold.

def FiledAs (fs : FileSystem) (path : String) : Option Credentials → Prop
  | some c => Credentials.Kept c ∧ ∃ place mode, Holds fs path place (Text.encode c.render) mode
  | none => fs.lookUp (fs.destination path) = none

theorem FiledAs.absent (filed : FiledAs fs path none) : fs.pathExists path = false := by
  rw [Bool.eq_false_iff]
  intro there
  obtain ⟨place,entry,located,found⟩ := pathExists_iff.mp there
  rw [eq_destination_of_locate located,show fs.lookUp (fs.destination path) = none from filed] at found
  cases found

theorem FiledAs.shows {kept : Option Credentials} (filed : FiledAs fs path kept) : Shows fs path kept := by
  cases kept with
  | none => exact yields_missing filed.absent
  | some c =>
    obtain ⟨kept,place,mode,holds⟩ := filed
    exact yields_readFile (stores_render kept (readFile_eq_ok.mpr ⟨place,mode,holds⟩))

-- What has passed a file by, and put nothing where there was none, leaves it as it was filed.
theorem FiledAs.later {kept : Option Credentials} (filed : FiledAs fs path kept)
    (bypasses : Bypasses (fs.destination path) fs after)
    (vacant : fs.lookUp (fs.destination path) = none → after.lookUp (fs.destination path) = none) :
    FiledAs after path kept := by
  cases kept with
  | none =>
    rw [FiledAs,bypasses.destination]
    exact vacant filed
  | some c =>
    obtain ⟨kept,place,mode,holds⟩ := filed
    rw [eq_destination_of_locate holds.located] at holds
    exact ⟨kept,_,mode,bypasses.holds holds⟩

structure Filed (s : CredentialStore) (files : String → Option Credentials) (fs : FileSystem) : Prop where
  outside : s.Outside fs
  file : ∀ name, Ordinary name → FiledAs fs (s.servicePath name) (files name)

variable {files : String → Option Credentials}

theorem filed_fresh (fresh : s.Fresh fs) : Filed s Keyring.empty.files fs := by
  refine ⟨fresh.outside,fun name ordinary => ?_⟩
  have nothing : Keyring.empty.files name = none := by
    unfold Keyring.files Function.update
    split
    · rename_i same
      subst same
      rfl
    · rfl
  rw [nothing,FiledAs,destination_servicePath fs s ordinary]
  exact fresh.empty _ (List.cons_ne_nil _ _)

-- One file is written, or taken away, and the others are left as they are.

theorem filed_writeSecret (filed : Filed s files fs) (ordinary : Ordinary name) (kept : Credentials.Kept c)
    (ran : Ran (writeSecret (s.servicePath name) c.render) events result) (follows : Follows fs events after)
    (unhindered : ∀ event ∈ events, isUnhindered event = true) :
    result = .ok () ∧ Filed s (Function.update files name (some c)) after := by
  have writes := writes_of_ran ran follows
  have extended := extends_of_follows follows
  cases writes with
  | failed _ member hindered =>
    rw [unhindered _ member] at hindered
    cases hindered
  | written prepared holds replaced =>
    refine ⟨rfl,filed.outside.later extended,fun other another => ?_⟩
    by_cases same : other = name
    · subst same
      rw [Function.update_self]
      exact ⟨kept,_,_,holds⟩
    rw [Function.update_of_ne same]
    have off := offWay_servicePath filed.outside ordinary another same
    have deep : fs.destination (s.servicePath other) ≠ [] := by simp [destination_servicePath fs s another,inside]
    have apart : ∀ path ∈ [s.servicePath name], fs.destination path ≠ fs.destination (s.servicePath other) := by
      rw [List.forall_mem_singleton]
      exact off _ List.prefix_rfl
    have edits := edits_writeSecret (List.mem_singleton.mpr rfl) _ _ ran
    refine (filed.file other another).later (bypasses_of_edits edits apart follows) fun vacant => ?_
    rw [(writes_of_ran ran follows).lookUp_eq deep off,vacant]

theorem filed_removeIfPresent (filed : Filed s files fs) (ordinary : Ordinary name)
    (ran : Ran (removeIfPresent (s.servicePath name)) events result) (follows : Follows fs events after) :
    result = .ok () ∧ Filed s (Function.update files name none) after := by
  have own := filed.file name ordinary
  cases removes_of_ran ran follows with
  | absent missing =>
    have unknown : files name = none := by
      cases known : files name with
      | none => rfl
      | some c =>
        rw [known] at own
        obtain ⟨_,_,_,holds⟩ := own
        exact absurd missing (by rw [holds.exists]; exact Bool.noConfusion)
    rw [← unknown,Function.update_eq_self]
    exact ⟨rfl,filed⟩
  | @removed place content mode holds =>
    have extended := extends_drop holds
    have led := eq_destination_of_locate holds.located
    refine ⟨rfl,filed.outside.later extended,fun other another => ?_⟩
    by_cases same : other = name
    · subst same
      have some : place ≠ [] := by rw [led]; simp [destination_servicePath fs s another,inside]
      rw [Function.update_self,FiledAs,extended.destination,← led,lookUp_drop some]
    · rw [Function.update_of_ne same]
      have apart : fs.destination (s.servicePath other) ≠ place :=
        led ▸ Ne.symm (offWay_servicePath filed.outside ordinary another same _ List.prefix_rfl)
      refine (filed.file other another).later (bypasses_drop holds apart) fun vacant => ?_
      rw [lookUp_drop_of_ne apart,vacant]
  | failed there stuck =>
    cases known : files name with
    | none =>
      rw [known] at own
      exact absurd there (by rw [own.absent]; exact Bool.noConfusion)
    | some c =>
      rw [known] at own
      obtain ⟨_,_,_,holds⟩ := own
      rw [holds.removeFile] at stuck
      cases stuck

-- Every edit does to the files what it does to the keyring.

variable {k : Keyring}

theorem files_system (k : Keyring) : k.files systemFile = k.system := Function.update_self ..

theorem files_withSystem (k : Keyring) (kept : Option Credentials) :
    { k with system := kept : Keyring }.files = Function.update k.files systemFile kept :=
  (Function.update_idem ..).symm

theorem files_withService (k : Keyring) {service : String} (apart : service ≠ systemFile) (kept : Option Login) :
    { k with services := Function.update k.services service kept : Keyring }.files =
      Function.update k.files service (kept.map Login.credentials) := by
  have below : (fun name => (Function.update k.services service kept name).map Login.credentials) =
      Function.update (fun name => (k.services name).map Login.credentials) service (kept.map Login.credentials) :=
    Function.comp_update (Option.map Login.credentials) k.services service kept
  unfold Keyring.files
  rw [below,Function.update_comm apart]

theorem filed_writeSystem (filed : Filed s k.files fs) (kept : Credentials.Kept c)
    (ran : Ran (s.writeSystem c) events result) (follows : Follows fs events after)
    (unhindered : ∀ event ∈ events, isUnhindered event = true) :
    result = .ok () ∧ Filed s { k with system := some c : Keyring }.files after := by
  obtain ⟨first,second,rfl,_,writing,followsWriting⟩ := (yields_lift yields_report).ran_bind ran follows
  rw [files_withSystem]
  exact filed_writeSecret filed ordinary_systemFile kept writing followsWriting (List.forall_mem_append.mp unhindered).2

theorem Filed.system (filed : Filed s k.files fs) : FiledAs fs s.systemPath k.system :=
  files_system k ▸ filed.file systemFile ordinary_systemFile

theorem filed_updateToken {token : String} (filed : Filed s k.files fs) (storable : Credentials.Storable token)
    (known : k.system = some c) (ran : Ran (s.updateToken token) events result) (follows : Follows fs events after)
    (unhindered : ∀ event ∈ events, isUnhindered event = true) :
    result = .ok () ∧ Filed s { k with system := some { c with token := some token } : Keyring }.files after := by
  have own := filed.system
  rw [known] at own
  have reading : Yields s.system.run fs (.ok c) fs := own.shows
  obtain ⟨first,second,rfl,_,later,followsLater⟩ := reading.ran_bind ran follows
  by_cases same : c.token = some token
  · rw [if_pos same] at later
    obtain ⟨rfl,rfl⟩ := ran_pure.mp later
    cases followsLater
    have unchanged : ({ c with token := some token } : Credentials) = c := by rw [← same]
    rw [unchanged,← known]
    exact ⟨rfl,filed⟩
  · rw [if_neg same] at later
    have kept : Credentials.Kept { c with token := some token } :=
      ⟨own.1.username,own.1.password,fun _ given => Option.some.inj given ▸ storable⟩
    exact filed_writeSystem filed kept later followsLater (List.forall_mem_append.mp unhindered).2

theorem filed_writeService {service : String} (filed : Filed s k.files fs) (ordinary : Ordinary service)
    (apart : service ≠ systemFile) (known : k.system = some c) (ran : Ran (s.writeService service) events result)
    (follows : Follows fs events after) (unhindered : ∀ event ∈ events, isUnhindered event = true) :
    result = .ok () ∧ Filed s
      { k with services := Function.update k.services service (some ⟨c.username,c.password⟩) : Keyring }.files after := by
  have own := filed.system
  rw [known] at own
  have reading : Yields s.system.run fs (.ok c) fs := own.shows
  obtain ⟨first,_,rfl,_,noted,followsNoted⟩ := reading.ran_bind ran follows
  obtain ⟨second,last,rfl,_,writing,followsWriting⟩ := (yields_lift yields_report).ran_bind noted followsNoted
  have kept : Credentials.Kept ⟨c.username,c.password,none⟩ :=
    ⟨own.1.username,own.1.password,fun _ impossible => nomatch impossible⟩
  rw [files_withService k apart]
  exact filed_writeSecret filed ordinary kept writing followsWriting fun event member =>
    unhindered event (by simp [member])

-- What an edit of the store comes to, where the keyring is k.
def Matches (s : CredentialStore) (k : Keyring) (fs : FileSystem) (e : Edit) (result : Result Unit)
    (after : FileSystem) : Prop :=
  match k.edited e with
  | some next => result = .ok () ∧ Filed s next.files after
  | none => result = .error (.missingCredentials s.systemPath) ∧ after = fs

theorem edit_matches {e : Edit} (filed : Filed s k.files fs) (admissible : Admissible e)
    (ran : Ran (s.edit e) events result) (follows : Follows fs events after)
    (unhindered : ∀ event ∈ events, isUnhindered event = true) : Matches s k fs e result after := by
  have reading : Yields s.system.run fs _ fs := filed.system.shows
  cases e with
  | writeSystem c => exact filed_writeSystem filed admissible ran follows unhindered
  | updateToken token =>
    cases known : k.system with
    | none =>
      rw [known] at reading
      obtain ⟨rfl,rfl,_⟩ := yields_stops reading _ _ _ ran follows
      simp [Matches,Keyring.edited,known]
    | some c =>
      simp only [Matches,Keyring.edited,known,Option.map_some]
      exact filed_updateToken filed admissible known ran follows unhindered
  | removeSystem =>
    simp only [Matches,Keyring.edited,files_withSystem]
    exact filed_removeIfPresent filed ordinary_systemFile ran follows
  | writeService service =>
    cases known : k.system with
    | none =>
      rw [known] at reading
      obtain ⟨rfl,rfl,_⟩ := yields_stops reading _ _ _ ran follows
      simp [Matches,Keyring.edited,known]
    | some c =>
      have edited : k.edited (.writeService service) =
          some { k with services := Function.update k.services service (some ⟨c.username,c.password⟩) } := by
        simp only [Keyring.edited,known,Option.map_some]
      simp only [Matches,edited]
      exact filed_writeService filed admissible.1 admissible.2 known ran follows unhindered
  | removeService service =>
    simp only [Matches,Keyring.edited,files_withService k admissible.2]
    exact filed_removeIfPresent filed admissible.1 ran follows

theorem Filed.mirrors (filed : Filed s k.files fs) : Mirrors s k fs := by
  have own := filed.system
  have reading : Yields s.system.run fs _ fs := own.shows
  refine ⟨?_,own.shows,fun service ordinary apart => ?_⟩
  · cases known : k.system with
    | none =>
      rw [known] at reading
      exact yields_bind reading yields_pure
    | some c =>
      rw [known] at reading
      exact yields_bind reading yields_pure
  · have one := (filed.file service ordinary).shows
    rwa [Keyring.files,Function.update_of_ne apart] at one

theorem simulates_of_filed {edits : List Edit} {results : List (Result Unit)} (filed : Filed s k.files fs)
    (admissible : ∀ e ∈ edits, Admissible e) (run : Program.Runs (s.history edits) events results)
    (follows : Follows fs events after) (unhindered : ∀ event ∈ events, isUnhindered event = true) :
    Simulates s k fs edits events results after := by
  induction edits generalizing k fs events results with
  | nil =>
    obtain ⟨rfl,rfl⟩ := Program.runs_done.mp run
    cases follows
    exact .nil filed.mirrors
  | cons e rest ih =>
    obtain ⟨first,result,_,rfl,ran,later⟩ := Program.runs_bind.mp run
    obtain ⟨second,others,_,rfl,runRest,settled⟩ := Program.runs_bind.mp later
    obtain ⟨rfl,rfl⟩ := Program.runs_done.mp settled
    rw [List.append_nil] at follows unhindered ⊢
    obtain ⟨between,followsFirst,followsRest⟩ := follows_append.mp follows
    obtain ⟨one,more⟩ := List.forall_mem_cons.mp admissible
    obtain ⟨early,late⟩ := List.forall_mem_append.mp unhindered
    have matched := edit_matches filed one ran followsFirst early
    unfold Matches at matched
    cases edited : k.edited e with
    | none =>
      rw [edited] at matched
      obtain ⟨rfl,rfl⟩ := matched
      exact .refused filed.mirrors edited ran followsFirst (ih filed more runRest followsRest late)
    | some next =>
      rw [edited] at matched
      obtain ⟨rfl,filedNext⟩ := matched
      exact .edited filed.mirrors edited ran followsFirst (ih filedNext more runRest followsRest late)

theorem history_simulates {edits : List Edit} {results : List (Result Unit)} (fresh : s.Fresh fs)
    (admissible : ∀ e ∈ edits, Admissible e) (run : Program.Runs (s.history edits) events results)
    (follows : Follows fs events after) (unhindered : ∀ event ∈ events, isUnhindered event = true) :
    Simulates s .empty fs edits events results after :=
  simulates_of_filed (filed_fresh fresh) admissible run follows unhindered

-- A token and a service too early, and again after the login has changed and after it is gone.

def blank : Machine Script := { signedIn with files := ⟨[],[]⟩ }

def changes : List Edit :=
  [.updateToken "early",.writeSystem tokened,.updateToken "second",.writeService "nvidia",
    .writeSystem ⟨"SCC_2","mackerel",none⟩,.writeService "kernel",.removeSystem,.removeSystem,.writeService "late",
    .removeService "nvidia"]

theorem changes_simulated : ∃ events results after, Program.Runs (alone.history changes) events results ∧
    results.map Except.toBool = [false,true,true,true,true,true,true,true,false,true] ∧
    Follows blank.files events after ∧ Simulates alone .empty blank.files changes events results after := by
  obtain ⟨run,follows⟩ := run_transcript Script.surroundings (alone.history changes) blank
  have fresh : alone.Fresh blank.files := by
    refine ⟨fun front begins rest some => ?_,fun rest some => ?_⟩
    · have root : ∀ front ∈ List.inits [[],[]], walk [] front = [] := by decide
      exact ne_of_eq_of_ne (root front ((List.mem_inits _ _).mpr begins)) (Ne.symm some)
    · exact if_neg some
  have admissible : ∀ e ∈ changes, Admissible e := by decide
  have unhindered : (transcript Script.surroundings (alone.history changes) blank).all isUnhindered = true := by
    decide +kernel
  have outcome : (Machine.run Script.surroundings (alone.history changes) blank).1.map Except.toBool =
      [false,true,true,true,true,true,true,true,false,true] := by decide +kernel
  generalize transcript Script.surroundings (alone.history changes) blank = events at run follows unhindered
  generalize Machine.run Script.surroundings (alone.history changes) blank = left at run follows outcome
  exact ⟨events,left.1,left.2.files,run,outcome,follows,
    history_simulates fresh admissible run follows (List.all_eq_true.mp unhindered)⟩

end CredentialStore
end Entitlement
