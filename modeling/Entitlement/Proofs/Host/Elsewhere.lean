import Entitlement.Proofs.Host.FileSystem
import Entitlement.Proofs.Host.Runs

-- Changes of a file system elsewhere. A path names its place by its names alone, whatever there is on the way. What
-- changes at other places leaves a file where it is, and the way to it.
namespace Entitlement

namespace FileSystem

variable {fs between after : FileSystem} {place other : Location} {path : String} {content : Bytes} {mode : Nat}

def walk (directory : Location) : List (List Char) → Location
  | [] => directory
  | name :: rest =>
    if Path.isIdle name then walk directory rest
    else if name = ['.','.'] then walk directory.dropLast rest
    else walk (directory ++ [String.ofList name]) rest

def destination (fs : FileSystem) (path : String) : Location := walk (fs.start path) (Text.split '/' path.toList)

theorem eq_walk_of_follow {directory : Location} {names : List (List Char)}
    (followed : fs.follow directory names = .ok place) : place = walk directory names := by
  induction names generalizing directory with
  | nil => exact (Except.ok.inj followed).symm
  | cons name rest ih =>
    by_cases idle : Path.isIdle name
    · rw [follow,if_pos idle] at followed
      rw [walk,if_pos idle]
      exact ih followed
    by_cases up : name = ['.','.']
    · rw [follow,if_neg idle,if_pos up] at followed
      rw [walk,if_neg idle,if_pos up]
      exact ih followed
    rw [walk,if_neg idle,if_neg up]
    cases rest with
    | nil =>
      simp only [follow,idle,up,Bool.false_eq_true,if_false] at followed
      by_cases long : (String.ofList name).utf8ByteSize > longestName
      · rw [if_pos long] at followed
        cases followed
      · rw [if_neg long] at followed
        exact (Except.ok.inj followed).symm
    | cons second others =>
      exact ih (follow_cons (List.cons_ne_nil second others) (Bool.eq_false_iff.mpr idle) up followed).2.2

theorem eq_destination_of_locate (located : fs.locate path = .ok place) : place = fs.destination path := by
  unfold locate at located
  cases checked : checkPath path with
  | error obstacle => rw [checked] at located; cases located
  | ok value =>
    rw [checked] at located
    exact eq_walk_of_follow located

theorem walk_append (directory : Location) (first second : List (List Char)) :
    walk directory (first ++ second) = walk (walk directory first) second := by
  induction first generalizing directory with
  | nil => rfl
  | cons name rest ih =>
    by_cases idle : Path.isIdle name
    · rw [List.cons_append,walk,walk,if_pos idle,if_pos idle,ih]
    by_cases up : name = ['.','.']
    · rw [List.cons_append,walk,walk,if_neg idle,if_neg idle,if_pos up,if_pos up,ih]
    · rw [List.cons_append,walk,walk,if_neg idle,if_neg idle,if_neg up,if_neg up,ih]

-- A path leads to what its last name says.
theorem getLast?_destination {front : List Char} {name : String} (whole : path.toList = front ++ '/' :: name.toList)
    (single : '/' ∉ name.toList) (plain : Path.isIdle name.toList = false) (down : name.toList ≠ ['.','.']) :
    (fs.destination path).getLast? = some name := by
  rw [destination,whole,Text.split_append,Text.split_of_not_mem single,walk_append,walk,if_neg (by rw [plain]; nofun),
    if_neg down,walk,List.getLast?_concat,String.ofList_toList]

theorem getLast?_destination_join {directory inner name : String}
    (relative : Path.isAbsolute (inner ++ "/" ++ name) = false) (single : '/' ∉ name.toList) (plain : Path.isIdle name.toList = false) (down : name.toList ≠ ['.','.']) :
    (fs.destination (Path.join directory (inner ++ "/" ++ name))).getLast? = some name := by
  obtain ⟨front,ends⟩ := Path.join_toList directory relative
  have whole : (inner ++ "/" ++ name).toList = inner.toList ++ '/' :: name.toList := by simp
  rw [whole,← List.append_assoc] at ends
  exact getLast?_destination ends single plain down

-- The file at a place, if there is one.
def fileAt (fs : FileSystem) (place : Location) : Option (Bytes × Nat) :=
  match fs.lookUp place with
  | some (.file content mode) => some (content,mode)
  | _ => none

theorem fileAt_eq_some : fs.fileAt place = some (content,mode) ↔ fs.lookUp place = some (.file content mode) := by
  unfold fileAt
  cases fs.lookUp place with
  | none => simp
  | some entry => cases entry <;> simp

-- What every change leaves alone: where a relative path starts, and every directory.
structure Extends (fs after : FileSystem) : Prop where
  current : after.current = fs.current
  directories : ∀ other, fs.lookUp other = some .directory → after.lookUp other = some .directory

theorem extends_refl : Extends fs fs := ⟨rfl,fun _ found => found⟩

theorem Extends.trans (early : Extends fs between) (late : Extends between after) : Extends fs after where
  current := late.current.trans early.current
  directories other found := late.directories other (early.directories other found)

theorem Extends.destination (extended : Extends fs after) (path : String) :
    after.destination path = fs.destination path := by
  simp only [FileSystem.destination,FileSystem.start,extended.current]

theorem Extends.locate (extended : Extends fs after) (located : fs.locate path = .ok place) :
    after.locate path = .ok place := locate_mono located extended.current extended.directories

theorem extends_put {entry : Entry} (free : fs.lookUp other ≠ some .directory) : Extends fs (fs.put other entry) :=
  ⟨rfl,directories_put free⟩

theorem extends_drop (holds : Holds fs path other content mode) : Extends fs (fs.drop other) where
  current := rfl
  directories last found := by
    have apart : last ≠ other := by
      rintro rfl
      rw [holds.found] at found
      cases found
    rw [lookUp_drop_of_ne apart,found]

-- A file that was taken away is not there, by whatever path it is looked for.
theorem Holds.dropped (holds : Holds fs path place content mode) : (fs.drop place).pathExists path = false := by
  have some : place ≠ [] := fun root => by have found := holds.found; rw [root,lookUp_nil] at found; cases found
  rw [Bool.eq_false_iff]
  intro there
  obtain ⟨other,entry,located,found⟩ := pathExists_iff.mp there
  cases located.symm.trans ((extends_drop holds).locate holds.located)
  rw [lookUp_drop some] at found
  cases found

-- A change that leaves the file at a place alone, too.
structure Bypasses (place : Location) (fs after : FileSystem) : Prop extends Extends fs after where
  file : after.fileAt place = fs.fileAt place

theorem bypasses_refl : Bypasses place fs fs := ⟨extends_refl,rfl⟩

theorem Bypasses.trans (early : Bypasses place fs between) (late : Bypasses place between after) :
    Bypasses place fs after := ⟨early.toExtends.trans late.toExtends,late.file.trans early.file⟩

theorem Bypasses.holds (bypasses : Bypasses place fs after) (holds : Holds fs path place content mode) :
    Holds after path place content mode where
  located := bypasses.locate holds.located
  found := fileAt_eq_some.mp (bypasses.file.trans (fileAt_eq_some.mpr holds.found))

theorem bypasses_put {entry : Entry} (free : fs.lookUp other ≠ some .directory) (different : place ≠ other) :
    Bypasses place fs (fs.put other entry) :=
  ⟨extends_put free,by simp only [fileAt,lookUp_put_of_ne different]⟩

theorem bypasses_drop (holds : Holds fs path other content mode) (different : place ≠ other) :
    Bypasses place fs (fs.drop other) :=
  ⟨extends_drop holds,by simp only [fileAt,lookUp_drop_of_ne different]⟩

-- A directory where there was nothing is no file, so that no file is lost for it.
theorem bypasses_put_directory (free : fs.lookUp other = none) : Bypasses place fs (fs.put other .directory) := by
  have empty : fs.lookUp other ≠ some .directory := by rw [free]; nofun
  by_cases different : place ≠ other
  · exact bypasses_put empty different
  · obtain rfl := not_not.mp different
    refine ⟨extends_put empty,?_⟩
    have some : place ≠ [] := fun root => by rw [root,lookUp_nil] at free; cases free
    simp only [fileAt,free,lookUp_put some]

-- What a call that changes the files comes to.

theorem writeFile_eq_ok (wrote : fs.writeFile path content = .ok after) :
    ∃ other mode, fs.locate path = .ok other ∧ fs.lookUp other ≠ some .directory ∧
      after = fs.put other (.file content mode) := by
  unfold writeFile at wrote
  cases located : fs.locate path with
  | error obstacle => rw [located] at wrote; cases wrote
  | ok other =>
    simp only [located,bind,Except.bind] at wrote
    refine ⟨other,?_⟩
    cases found : fs.lookUp other with
    | none =>
      simp only [found] at wrote
      by_cases ends : wantsDirectory path
      · rw [if_pos ends] at wrote
        cases wrote
      · rw [if_neg ends] at wrote
        exact ⟨plainMode,rfl,nofun,(Except.ok.inj wrote).symm⟩
    | some entry =>
      simp only [found] at wrote
      cases entry with
      | directory => cases wrote
      | file old mode => exact ⟨mode,rfl,nofun,(Except.ok.inj wrote).symm⟩

theorem bypasses_writeFile (apart : fs.destination path ≠ place) (wrote : fs.writeFile path content = .ok after) :
    Bypasses place fs after := by
  obtain ⟨other,_,located,free,rfl⟩ := writeFile_eq_ok wrote
  rw [← eq_destination_of_locate located] at apart
  exact bypasses_put free (Ne.symm apart)

theorem setMode_eq_ok (set : fs.setMode path mode = .ok after) :
    after = fs ∨ ∃ other content old, Holds fs path other content old ∧ after = fs.put other (.file content mode) := by
  unfold setMode at set
  cases located : fs.locate path with
  | error obstacle => rw [located] at set; cases set
  | ok other =>
    simp only [located,bind,Except.bind] at set
    cases found : fs.lookUp other with
    | none => simp only [found] at set; cases set
    | some entry =>
      simp only [found] at set
      cases entry with
      | directory => exact .inl (Except.ok.inj set).symm
      | file content old => exact .inr ⟨other,content,old,⟨located,found⟩,(Except.ok.inj set).symm⟩

theorem bypasses_setMode (apart : fs.destination path ≠ place) (set : fs.setMode path mode = .ok after) :
    Bypasses place fs after := by
  rcases setMode_eq_ok set with rfl | ⟨other,_,_,holds,rfl⟩
  · exact bypasses_refl
  rw [← eq_destination_of_locate holds.located] at apart
  exact bypasses_put (by rw [holds.found]; nofun) (Ne.symm apart)

theorem removeFile_eq_ok (removed : fs.removeFile path = .ok after) :
    ∃ other content mode, Holds fs path other content mode ∧ after = fs.drop other := by
  unfold removeFile at removed
  cases located : fs.locate path with
  | error obstacle => rw [located] at removed; cases removed
  | ok other =>
    simp only [located,bind,Except.bind] at removed
    cases found : fs.lookUp other with
    | none => simp only [found] at removed; cases removed
    | some entry =>
      simp only [found] at removed
      cases entry with
      | directory => cases removed
      | file content mode => exact ⟨other,content,mode,⟨located,found⟩,(Except.ok.inj removed).symm⟩

theorem bypasses_removeFile (apart : fs.destination path ≠ place) (removed : fs.removeFile path = .ok after) :
    Bypasses place fs after := by
  obtain ⟨other,_,_,holds,rfl⟩ := removeFile_eq_ok removed
  rw [← eq_destination_of_locate holds.located] at apart
  exact bypasses_drop holds (Ne.symm apart)

theorem bypasses_makeDirectories {directory : Location} {names : List (List Char)}
    (made : fs.makeDirectories directory names = .ok after) : Bypasses place fs after := by
  induction names generalizing fs directory with
  | nil =>
    obtain rfl := Except.ok.inj made
    exact bypasses_refl
  | cons name rest ih =>
    by_cases idle : Path.isIdle name
    · rw [makeDirectories,if_pos idle] at made
      exact ih made
    by_cases up : name = ['.','.']
    · rw [makeDirectories,if_neg idle,if_pos up] at made
      exact ih made
    simp only [makeDirectories,idle,up,Bool.false_eq_true,if_false] at made
    by_cases long : (String.ofList name).utf8ByteSize > longestName
    · rw [if_pos long] at made
      cases made
    rw [if_neg long] at made
    cases found : fs.lookUp (directory ++ [String.ofList name]) with
    | none =>
      simp only [found] at made
      exact (bypasses_put_directory found).trans (ih made)
    | some entry =>
      simp only [found] at made
      cases entry with
      | directory => exact ih made
      | file content mode => cases made

theorem bypasses_createDirectories (made : fs.createDirectories path = .ok after) : Bypasses place fs after := by
  unfold createDirectories at made
  by_cases empty : path.isEmpty
  · rw [if_pos empty] at made
    obtain rfl := Except.ok.inj made
    exact bypasses_refl
  rw [if_neg empty] at made
  cases checked : checkPath path with
  | error obstacle => rw [checked] at made; cases made
  | ok value =>
    rw [checked] at made
    exact bypasses_makeDirectories made

end FileSystem

namespace Host

open FileSystem

variable {fs after : FileSystem} {place : Location} {paths : List String}

-- What an operation may ask that only looks, at files at most or at other things as well, and one that changes no files
-- but those of some paths.

def Peeks : Question → Prop
  | .file (.look _) | .file (.read _) | .environment _ | .accountHome | .report _ _ => True
  | _ => False

def Reads : Question → Prop
  | .file (.look _) | .file (.read _) => True
  | .file _ | .exchange _ => False
  | _ => True

def Edits (paths : List String) : Question → Prop
  | .file (.look _) | .file (.read _) | .file (.createDirectories _) => True
  | .file (.write path _) | .file (.setMode path _) | .file (.remove path) => path ∈ paths
  | .exchange _ => False
  | _ => True

theorem Peeks.reads {q : Question} (peeks : Peeks q) : Reads q := by
  cases q with
  | file call => cases call <;> trivial
  | exchange exchange => cases peeks
  | _ => trivial

theorem edits_of_reads {q : Question} (reads : Reads q) : Edits paths q := by
  cases q with
  | file call => cases call <;> trivial
  | exchange exchange => cases reads
  | _ => trivial

theorem quiet_of_reads {events : List Event} (reads : ∀ event ∈ events, Reads event.question) : Quiet events := by
  intro event member exchange same
  have fits := reads event member
  rw [same] at fits
  exact fits

theorem quiet_of_edits {events : List Event} (edits : ∀ event ∈ events, Edits paths event.question) : Quiet events := by
  intro event member exchange same
  have fits := edits event member
  rw [same] at fits
  exact fits

theorem unchanged_of_reads {events : List Event} (reads : ∀ event ∈ events, Reads event.question)
    (follows : Follows fs events after) : after = fs := by
  induction follows with
  | nil => rfl
  | @file _ call _ _ _ ih =>
    obtain ⟨fits,later⟩ := List.forall_mem_cons.mp reads
    rw [ih later]
    cases call with
    | look path => rfl
    | read path => rfl
    | _ => cases fits
  | other _ _ ih => exact ih (List.forall_mem_cons.mp reads).2

theorem changed_cases {reply : Except Obstacle FileSystem} :
    (changed fs reply).2 = fs ∨ reply = .ok (changed fs reply).2 := by
  cases reply with
  | ok after => exact .inr rfl
  | error obstacle => exact .inl rfl

theorem bypasses_changed {reply : Except Obstacle FileSystem}
    (bypasses : ∀ after, reply = .ok after → Bypasses place fs after) : Bypasses place fs (changed fs reply).2 := by
  rcases @changed_cases fs reply with same | made
  · rw [same]
    exact bypasses_refl
  · exact bypasses _ made

-- What is written, closed or removed at a path with success.
def Strikes (path : String) : Event → Prop
  | ⟨.file (.write other _),reply⟩ | ⟨.file (.setMode other _),reply⟩ | ⟨.file (.remove other),reply⟩ =>
    other = path ∧ reply = .ok ()
  | _ => False

theorem bypasses_fileReply {call : FileCall}
    (apart : ∀ path, Strikes path ⟨.file call,(fileReply fs call).1⟩ → fs.destination path ≠ place) :
    Bypasses place fs (fileReply fs call).2 := by
  have replied {reply : Except Obstacle FileSystem} {left : FileSystem} (made : reply = .ok left) :
      (changed fs reply).1 = .ok () := by rw [made]; rfl
  cases call with
  | look path => exact bypasses_refl
  | read path => exact bypasses_refl
  | write path content =>
    exact bypasses_changed fun _ wrote => bypasses_writeFile (apart path ⟨rfl,replied wrote⟩) wrote
  | createDirectories path => exact bypasses_changed fun _ made => bypasses_createDirectories made
  | setMode path mode => exact bypasses_changed fun _ set => bypasses_setMode (apart path ⟨rfl,replied set⟩) set
  | remove path => exact bypasses_changed fun _ gone => bypasses_removeFile (apart path ⟨rfl,replied gone⟩) gone

theorem bypasses_of_follows {events : List Event} (follows : Follows fs events after)
    (apart : ∀ event ∈ events, ∀ path, Strikes path event → fs.destination path ≠ place) : Bypasses place fs after := by
  induction follows with
  | nil => exact bypasses_refl
  | file _ ih =>
    obtain ⟨first,later⟩ := List.forall_mem_cons.mp apart
    have bypasses := bypasses_fileReply first
    refine bypasses.trans (ih fun event member path strikes => ?_)
    rw [bypasses.destination]
    exact later event member path strikes
  | other _ _ ih => exact ih (List.forall_mem_cons.mp apart).2

theorem own_of_strikes {event : Event} {path : String} (edits : Edits paths event.question)
    (strikes : Strikes path event) : path ∈ paths := by
  obtain ⟨q,answer⟩ := event
  cases q with
  | file call => cases call <;> first | exact strikes.1 ▸ edits | cases strikes
  | _ => cases strikes

theorem bypasses_of_edits {events : List Event} (edits : ∀ event ∈ events, Edits paths event.question)
    (apart : ∀ path ∈ paths, fs.destination path ≠ place) (follows : Follows fs events after) :
    Bypasses place fs after :=
  bypasses_of_follows follows fun event member path strikes => apart path (own_of_strikes (edits event member) strikes)

-- Nothing takes a directory away.

theorem extends_fileReply {call : FileCall} : Extends fs (fileReply fs call).2 := by
  have settles {reply : Except Obstacle FileSystem} (extended : ∀ after, reply = .ok after → Extends fs after) :
      Extends fs (changed fs reply).2 := by
    rcases @changed_cases fs reply with kept | made
    · rw [kept]
      exact extends_refl
    · exact extended _ made
  cases call with
  | look path => exact extends_refl
  | read path => exact extends_refl
  | write path content =>
    apply settles
    intro after wrote
    obtain ⟨_,_,_,free,rfl⟩ := writeFile_eq_ok wrote
    exact extends_put free
  | createDirectories path =>
    apply settles
    intro after made
    exact (@bypasses_createDirectories fs after [] path made).toExtends
  | setMode path mode =>
    apply settles
    intro after set
    rcases setMode_eq_ok set with rfl | ⟨_,_,_,holds,rfl⟩
    · exact extends_refl
    · exact extends_put (by rw [holds.found]; nofun)
  | remove path =>
    apply settles
    intro after removed
    obtain ⟨_,_,_,holds,rfl⟩ := removeFile_eq_ok removed
    exact extends_drop holds

theorem extends_of_follows {events : List Event} (follows : Follows fs events after) : Extends fs after := by
  induction follows with
  | nil => exact extends_refl
  | file _ ih => exact extends_fileReply.trans ih
  | other _ _ ih => exact ih

theorem destination_of_follows {events : List Event} (follows : Follows fs events after) (path : String) :
    after.destination path = fs.destination path := (extends_of_follows follows).destination path

section Asks

variable {allowed : Question → Prop} {path : String}

theorem confined_ask {q : Question} (fits : allowed q) : Program.Confined allowed (ask q) :=
  Program.confined_question fits

theorem asks_orFail {context : String} {operation : Operation (Except Obstacle α)}
    (confined : Program.Confined allowed operation) : Asks allowed (orFail context operation) := by
  refine asks_bind (asks_lift confined) fun reply => ?_
  cases reply with
  | ok value => exact asks_pure
  | error obstacle => exact asks_throw

theorem confined_readText (fits : allowed (.file (.read path))) : Program.Confined allowed (readText path) := by
  refine Program.confined_bind (confined_ask fits) fun reply => ?_
  cases reply with
  | error obstacle => exact Program.confined_done
  | ok bytes =>
    dsimp only
    cases Text.decode? bytes with
    | none => exact Program.confined_done
    | some text => exact Program.confined_done

end Asks

end Host
end Entitlement
