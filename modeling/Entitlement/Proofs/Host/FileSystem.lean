import Entitlement.Host.FileSystem
import Entitlement.Proofs.Host.Path

-- A file that can be read can be replaced, and then holds what it was given. The way to it leads through directories
-- only, which are other places than that of a file, so that no change of the file is in its own way.
namespace Entitlement.FileSystem

variable {fs after : FileSystem} {place other : Location} {entry : Entry}

theorem lookUp_nil : fs.lookUp [] = some .directory := if_pos rfl

theorem lookUp_put (some : place ≠ []) : (fs.put place entry).lookUp place = .some entry := by
  simp [lookUp,put,some]

theorem lookUp_drop (some : place ≠ []) : (fs.drop place).lookUp place = none := by
  simp [lookUp,drop,some]

theorem lookUp_drop_of_ne (different : other ≠ place) : (fs.drop place).lookUp other = fs.lookUp other := by
  unfold lookUp drop
  rw [List.find?_filter]
  congr 3
  funext e
  by_cases same : e.1 = other
  · simp [same,different]
  · simp [same]

theorem lookUp_put_of_ne (different : other ≠ place) : (fs.put place entry).lookUp other = fs.lookUp other := by
  have first : ((place,entry).1 == other) = false := beq_eq_false_iff_ne.mpr (Ne.symm different)
  have behind : (fs.put place entry).lookUp other = (fs.drop place).lookUp other := by
    unfold lookUp put drop
    rw [List.find?_cons_of_neg (by rw [first]; exact Bool.false_ne_true)]
  rw [behind,lookUp_drop_of_ne different]

-- Where a row of names goes on, the next name is that of a directory.
theorem follow_cons {directory : Location} {name : List Char} {rest : List (List Char)} (more : rest ≠ [])
    (plain : Path.isIdle name = false) (down : name ≠ ['.','.'])
    (followed : fs.follow directory (name :: rest) = .ok place) :
    ¬ (String.ofList name).utf8ByteSize > longestName ∧ fs.lookUp (directory ++ [String.ofList name]) = some .directory ∧
      fs.follow (directory ++ [String.ofList name]) rest = .ok place := by
  obtain ⟨second,others,rfl⟩ := List.exists_cons_of_ne_nil more
  unfold follow at followed
  simp only [plain,down,Bool.false_eq_true,if_false] at followed
  by_cases long : (String.ofList name).utf8ByteSize > longestName
  · simp only [long,if_true] at followed; cases followed
  simp only [long,if_false] at followed
  cases found : fs.lookUp (directory ++ [String.ofList name]) with
  | none => rw [found] at followed; cases followed
  | some entry =>
    rw [found] at followed
    cases entry with
    | directory => exact ⟨long,rfl,followed⟩
    | file content mode => cases followed

theorem makeDirectories_of_follow {directory : Location} {names rest : List (List Char)} (more : rest ≠ [])
    (followed : fs.follow directory (names ++ rest) = .ok place) : fs.makeDirectories directory names = .ok fs := by
  induction names generalizing directory with
  | nil => rfl
  | cons name others ih =>
    unfold makeDirectories
    by_cases idle : Path.isIdle name
    · rw [if_pos idle]
      rw [List.cons_append,follow,if_pos idle] at followed
      exact ih followed
    by_cases up : name = ['.','.']
    · rw [if_neg idle,if_pos up]
      rw [List.cons_append,follow,if_neg idle,if_pos up] at followed
      exact ih followed
    obtain ⟨short,found,later⟩ := follow_cons (List.append_ne_nil_of_right_ne_nil others more)
      (Bool.eq_false_iff.mpr idle) up followed
    simp only [idle,up,short,found,if_false,Bool.false_eq_true]
    exact ih later

-- A way that leads somewhere still does so where every directory is kept.
theorem follow_mono {after : FileSystem} {directory : Location} {names : List (List Char)}
    (kept : ∀ other, fs.lookUp other = some .directory → after.lookUp other = some .directory)
    (followed : fs.follow directory names = .ok place) : after.follow directory names = .ok place := by
  induction names generalizing directory with
  | nil => exact followed
  | cons name others ih =>
    by_cases idle : Path.isIdle name
    · rw [follow,if_pos idle] at followed ⊢
      exact ih followed
    by_cases up : name = ['.','.']
    · rw [follow,if_neg idle,if_pos up] at followed ⊢
      exact ih followed
    cases others with
    | nil => simpa only [follow] using followed
    | cons second rest =>
      obtain ⟨short,between,later⟩ := follow_cons (List.cons_ne_nil second rest) (Bool.eq_false_iff.mpr idle) up followed
      unfold follow
      simp only [idle,up,short,if_false,kept _ between,Bool.false_eq_true]
      exact ih later

variable {path : String} {content : Bytes} {mode : Nat}

-- A path leads to a file.
structure Holds (fs : FileSystem) (path : String) (place : Location) (content : Bytes) (mode : Nat) : Prop where
  located : fs.locate path = .ok place
  found : fs.lookUp place = some (.file content mode)

theorem entry_eq_ok : fs.entry path = .ok entry ↔ ∃ place, fs.locate path = .ok place ∧ fs.lookUp place = some entry := by
  unfold FileSystem.entry
  cases located : fs.locate path with
  | error obstacle => simp [bind,Except.bind]
  | ok place => cases found : fs.lookUp place <;> simp [bind,Except.bind,found,pure,Except.pure]

theorem readFile_eq_ok : fs.readFile path = .ok content ↔ ∃ place mode, Holds fs path place content mode := by
  have entered : fs.readFile path = .ok content ↔ ∃ mode, fs.entry path = .ok (.file content mode) := by
    unfold readFile
    cases fs.entry path with
    | error obstacle => simp [bind,Except.bind]
    | ok entry => cases entry <;> simp [bind,Except.bind,pure,Except.pure]
  rw [entered]
  constructor
  · rintro ⟨mode,opened⟩
    obtain ⟨place,located,found⟩ := entry_eq_ok.mp opened
    exact ⟨place,mode,located,found⟩
  · rintro ⟨place,mode,located,found⟩
    exact ⟨mode,entry_eq_ok.mpr ⟨place,located,found⟩⟩

theorem pathExists_iff : fs.pathExists path = true ↔ ∃ place entry, fs.locate path = .ok place ∧ fs.lookUp place = some entry := by
  have entered : fs.pathExists path = true ↔ ∃ entry, fs.entry path = .ok entry := by
    unfold pathExists
    cases fs.entry path with
    | error obstacle => simp [Except.toBool]
    | ok entry => simp [Except.toBool]
  simp only [entered,entry_eq_ok]
  exact exists_comm

theorem Holds.exists (holds : Holds fs path place content mode) : fs.pathExists path = true :=
  pathExists_iff.mpr ⟨place,_,holds.located,holds.found⟩

theorem pathExists_of_readFile (read : fs.readFile path = .ok content) : fs.pathExists path = true := by
  obtain ⟨place,mode,holds⟩ := readFile_eq_ok.mp read
  exact holds.exists

theorem locate_mono {after : FileSystem} (located : fs.locate path = .ok place) (same : after.current = fs.current)
    (kept : ∀ other, fs.lookUp other = some .directory → after.lookUp other = some .directory) :
    after.locate path = .ok place := by
  have start : after.start path = fs.start path := by simp only [FileSystem.start,same]
  unfold locate at located ⊢
  cases checked : checkPath path with
  | error obstacle => rw [checked] at located; cases located
  | ok value =>
    rw [checked] at located
    rw [start]
    exact follow_mono kept located

theorem directories_put (free : fs.lookUp place ≠ some .directory) (other : Location)
    (found : fs.lookUp other = some .directory) : (fs.put place entry).lookUp other = some .directory := by
  have different : other ≠ place := by
    intro same
    rw [same] at found
    exact free found
  rw [lookUp_put_of_ne different,found]

theorem holds_put {place : Location} {mode : Nat} (located : fs.locate path = .ok place)
    (free : fs.lookUp place ≠ some .directory) : Holds (fs.put place (.file content mode)) path place content mode where
  located := locate_mono located rfl (directories_put free)
  found := lookUp_put fun root => free (by rw [root]; exact lookUp_nil)

theorem Holds.put {place : Location} {old new : Bytes} {oldMode newMode : Nat} (holds : Holds fs path place old oldMode) :
    Holds (fs.put place (.file new newMode)) path place new newMode :=
  holds_put holds.located (by rw [holds.found]; nofun)

theorem Holds.writeFile (holds : Holds fs path place content mode) (new : Bytes) :
    fs.writeFile path new = .ok (fs.put place (.file new mode)) := by
  unfold FileSystem.writeFile
  simp only [holds.located,holds.found,bind,Except.bind]
  rfl

theorem Holds.setMode (holds : Holds fs path place content mode) (new : Nat) :
    fs.setMode path new = .ok (fs.put place (.file content new)) := by
  unfold FileSystem.setMode
  simp only [holds.located,holds.found,bind,Except.bind]
  rfl

theorem Holds.removeFile (holds : Holds fs path place content mode) : fs.removeFile path = .ok (fs.drop place) := by
  unfold FileSystem.removeFile
  simp only [holds.located,holds.found,bind,Except.bind]
  rfl

-- A file was given another content, and all else was left as it is.
structure Replaced (place : Location) (content : Bytes) (fs after : FileSystem) : Prop where
  current : after.current = fs.current
  found : ∃ mode, after.lookUp place = some (.file content mode)
  elsewhere : ∀ other ≠ place, after.lookUp other = fs.lookUp other

-- A file that is written and then given its mode.
theorem replaced_put {first second : Nat} (free : fs.lookUp place ≠ some .directory) :
    Replaced place content fs ((fs.put place (.file content first)).put place (.file content second)) where
  current := rfl
  found := ⟨second,lookUp_put fun root => free (by rw [root]; exact lookUp_nil)⟩
  elsewhere other different := by rw [lookUp_put_of_ne different,lookUp_put_of_ne different]

-- No way leads through a file, so that every path leads where it led.
theorem Replaced.locate_iff {reached : String} {new : Bytes} (replaced : Replaced place new fs after)
    (free : fs.lookUp place ≠ some .directory) : after.locate reached = .ok other ↔ fs.locate reached = .ok other := by
  obtain ⟨mode,found⟩ := replaced.found
  constructor
  · intro located
    refine locate_mono located replaced.current.symm fun directory there => ?_
    have different : directory ≠ place := by
      rintro rfl
      rw [found] at there
      cases there
    rw [← replaced.elsewhere directory different,there]
  · intro located
    refine locate_mono located replaced.current fun directory there => ?_
    have different : directory ≠ place := by
      rintro rfl
      exact free there
    rw [replaced.elsewhere directory different,there]

theorem Replaced.holds {old new : Bytes} (replaced : Replaced place new fs after) (holds : Holds fs path place old mode) :
    ∃ newMode, Holds after path place new newMode := by
  obtain ⟨newMode,found⟩ := replaced.found
  exact ⟨newMode,(replaced.locate_iff (by rw [holds.found]; nofun)).mpr holds.located,found⟩

theorem Replaced.readFile_cases {reached : String} {old new found : Bytes} (replaced : Replaced place new fs after)
    (holds : Holds fs path place old mode) (read : after.readFile reached = .ok found) :
    found = new ∨ fs.readFile reached = .ok found := by
  obtain ⟨other,otherMode,located,there⟩ := readFile_eq_ok.mp read
  by_cases same : other = place
  · subst same
    obtain ⟨_,written⟩ := replaced.found
    cases written.symm.trans there
    exact .inl rfl
  · rw [replaced.elsewhere other same] at there
    have before := (replaced.locate_iff (by rw [holds.found]; nofun)).mp located
    exact .inr (readFile_eq_ok.mpr ⟨other,otherMode,before,there⟩)

theorem checkPath_eq_ok :
    checkPath path = .ok () ↔ '\x00' ∉ path.toList ∧ path.isEmpty = false ∧ path.utf8ByteSize ≤ longestPath := by
  unfold checkPath
  by_cases zero : path.toList.contains '\x00'
  · simp [List.contains_iff_mem.mp zero]
  have free : '\x00' ∉ path.toList := fun member => zero (List.contains_iff_mem.mpr member)
  cases empty : path.isEmpty with
  | true => simp [free]
  | false =>
    simp only [zero,Bool.false_eq_true,if_false,free,not_false_eq_true,true_and]
    by_cases long : path.utf8ByteSize > longestPath
    · simp [long,Nat.not_le.mpr long]
    · simp [long,Nat.not_lt.mp long]

-- The directory above a place is there.
theorem createDirectories_of_locate {directory : String} (located : fs.locate path = .ok place) (above : Path.Above directory path) :
    fs.createDirectories directory = .ok fs := by
  obtain ⟨front,back,parts,more,whole⟩ := above.pieces
  unfold createDirectories
  cases empty : directory.isEmpty with
  | true => rfl
  | false =>
    unfold locate at located
    cases checked : checkPath path with
    | error obstacle => rw [checked] at located; cases located
    | ok value =>
      have short : checkPath directory = .ok () := by
        obtain ⟨free,_,most⟩ := checkPath_eq_ok.mp checked
        obtain ⟨rest,same⟩ := above.begins
        have joined : path = directory ++ String.ofList rest := String.toList_inj.mp (by simp [same])
        refine checkPath_eq_ok.mpr ⟨fun zero => free (by simp [joined,zero]),empty,?_⟩
        rw [joined,String.utf8ByteSize_append] at most
        omega
      have start : fs.start directory = fs.start path := by simp only [FileSystem.start,above.start]
      rw [checked] at located
      rw [short]
      rcases whole with same | rfl
      · have followed : fs.follow (fs.start path) (front ++ back) = .ok place := parts ▸ located
        rw [start,same]
        exact makeDirectories_of_follow more followed
      · rfl

end Entitlement.FileSystem
