import Mathlib.Data.List.Nodup
import Entitlement.Proofs.Toml.Quotation
import Entitlement.Settings

-- The file that settings are written to is read as these settings, the root apart, which is not written. The entries are
-- read one line after the other.
namespace Entitlement

namespace Toml

variable {key : String} {item : Item} {root entries : Entries} {text tail : List Char}

namespace Entries

theorem get?_eq_none : entries.get? key = none ↔ key ∉ entries.map (·.1) := by
  unfold get?
  rw [Option.map_eq_none_iff,List.find?_eq_none]
  constructor
  · intro others member
    obtain ⟨e,entry,rfl⟩ := List.mem_map.mp member
    simpa using others e entry
  · intro absent e entry
    have different : e.1 ≠ key := by
      rintro rfl
      exact absent (List.mem_map_of_mem entry)
    simpa using different

theorem set_of_get? (absent : entries.get? key = none) : entries.set key item = entries ++ [(key,item)] := by
  rw [get?_eq_none] at absent
  induction entries with
  | nil => rfl
  | cons first rest ih =>
    obtain ⟨other,old⟩ := first
    obtain ⟨different,later⟩ := List.ne_and_not_mem_of_not_mem_cons absent
    simp [set,Ne.symm different,ih later]

theorem setDotted_nil (absent : entries.get? key = none) : setDotted [] key item entries = some (entries ++ [(key,item)]) := by
  simp [setDotted,insertNew,absent,set_of_get? absent]

end Entries

-- Keys that need no quotes.
structure Bare (key : String) : Prop where
  filled : key.toList ≠ []
  letters : ∀ c ∈ key.toList, isBareKeyChar c = true

instance (key : String) : Decidable (Bare key) :=
  decidable_of_iff (key.toList ≠ [] ∧ key.toList.all isBareKeyChar = true)
    ⟨fun ⟨filled,letters⟩ => ⟨filled,List.all_eq_true.mp letters⟩,fun b => ⟨b.filled,List.all_eq_true.mpr b.letters⟩⟩

theorem readKey_bare (bare : Bare key) (steps : Nat) :
    readKey (steps + 1) (key.toList ++ ' ' :: '=' :: text) = some ([key],'=' :: text) := by
  have part : readKeyPart (key.toList ++ ' ' :: '=' :: text) = some (key,' ' :: '=' :: text) := by
    unfold readKeyPart
    rw [List.takeWhile_append_of_pos bare.letters]
    have stop : (' ' :: '=' :: text).takeWhile isBareKeyChar = [] := by simp [isBareKeyChar]
    rw [stop,List.append_nil]
    split
    · rename_i nothing
      exact absurd nothing bare.filled
    · simp
  have spaces : dropSpaces (' ' :: '=' :: text) = '=' :: text := rfl
  rw [readKey,part]
  simp [spaces]

theorem Bare.start (bare : Bare key) : ∃ c rest, key.toList = c :: rest ∧ isBareKeyChar c = true := by
  obtain ⟨c,rest,keyed⟩ := List.exists_cons_of_ne_nil bare.filled
  exact ⟨c,rest,keyed,bare.letters c (by simp [keyed])⟩

-- A line with a key and its value.
theorem readExpression_entry (bare : Bare key) (absent : root.get? key = none) (spaceless : dropSpaces text = text)
    (reads : readValue nestingLimit text = some (item,'\n' :: tail)) :
    readExpression ⟨root,[]⟩ (key.toList ++ ' ' :: '=' :: ' ' :: text) = some (⟨root ++ [(key,item)],[]⟩,tail) := by
  obtain ⟨c,rest,keyed,letter⟩ := bare.start
  have named := @readKey_bare key (' ' :: text) bare
  rw [keyed,List.cons_append] at named ⊢
  have other {d : Char} (stops : isBareKeyChar d = false) : c ≠ d := by
    rintro rfl
    rw [letter] at stops
    cases stops
  have spaces : dropSpaces (c :: (rest ++ ' ' :: '=' :: ' ' :: text)) = c :: (rest ++ ' ' :: '=' :: ' ' :: text) := by
    simp [dropSpaces,isSpace,other (show isBareKeyChar ' ' = false by decide),other (show isBareKeyChar '\t' = false by decide)]
  have value : dropSpaces (' ' :: text) = text := by simpa [dropSpaces,isSpace] using spaceless
  have ended : endLine ('\n' :: tail) = some tail := rfl
  unfold readExpression
  rw [spaces]
  have bracket := other (show isBareKeyChar '[' = false by decide)
  have feed := other (show isBareKeyChar '\n' = false by decide)
  have carriage := other (show isBareKeyChar '\r' = false by decide)
  have comment := other (show isBareKeyChar '#' = false by decide)
  split
  · rename_i start
    exact absurd (List.cons.inj start).1 bracket
  · rename_i start
    exact absurd (List.cons.inj start).1 bracket
  · rename_i start
    cases start
  rename_i start
  obtain ⟨rfl,rfl⟩ := List.cons.inj start
  simp [feed,carriage,comment,named,value,reads,ended,Entries.modifyAt,Entries.setDotted_nil absent]

theorem writeQuoted_start (s : String) : ∃ c rest, writeQuoted s = c :: rest ∧ (c = '"' ∨ c = '\'') := by
  unfold writeQuoted
  extract_lets
  split_ifs <;> exact ⟨_,_,rfl,by decide⟩

theorem readValue_text (s : String) :
    readValue nestingLimit (writeQuoted s ++ '\n' :: tail) = some (.text s,'\n' :: tail) := by
  have reads := @readQuoted_writeQuoted ('\n' :: tail) s ⟨by simp,by simp⟩
  obtain ⟨c,rest,start,quote⟩ := writeQuoted_start s
  rw [start,List.cons_append] at reads ⊢
  rcases quote with rfl | rfl
  · simp [nestingLimit,readValue,reads]
  · simp [nestingLimit,readValue,reads]

theorem readValue_bool (b : Bool) :
    readValue nestingLimit ((if b then "true" else "false").toList ++ '\n' :: tail) = some (.bool b,'\n' :: tail) := by
  cases b with
  | false => rfl
  | true => rfl

end Toml

namespace Settings

open Toml

variable {key : String} {item : Item} {root entries : Entries} {tail : List Char}

-- Entries that a line can hold.
def Lined (e : String × Item) : Prop := Bare e.1 ∧ ((∃ s, e.2 = .text s) ∨ ∃ b, e.2 = .bool b)

theorem readExpression_entryLine (lined : Lined (key,item)) (absent : root.get? key = none) :
    readExpression ⟨root,[]⟩ (entryLine (key,item) ++ tail) = some (⟨root ++ [(key,item)],[]⟩,tail) := by
  obtain ⟨bare,⟨s,rfl⟩ | ⟨b,rfl⟩⟩ := lined
  · have spaceless : dropSpaces (writeQuoted s ++ '\n' :: tail) = writeQuoted s ++ '\n' :: tail := by
      obtain ⟨c,rest,start,quote⟩ := writeQuoted_start s
      rw [start]
      rcases quote with rfl | rfl
      · rfl
      · rfl
    simpa [entryLine] using readExpression_entry bare absent spaceless (readValue_text s)
  have spaceless : dropSpaces ((if b then "true" else "false").toList ++ '\n' :: tail) =
      (if b then "true" else "false").toList ++ '\n' :: tail := by cases b <;> rfl
  simpa [entryLine] using readExpression_entry bare absent spaceless (readValue_bool b)

theorem entryLine_ne_nil (lined : Lined (key,item)) : entryLine (key,item) ≠ [] := by
  obtain ⟨bare,⟨s,rfl⟩ | ⟨b,rfl⟩⟩ := lined
  · simp [entryLine]
  · simp [entryLine]

theorem length_le_of_lined (lined : ∀ e ∈ entries, Lined e) : entries.length ≤ (entries.flatMap entryLine).length := by
  induction entries with
  | nil => simp
  | cons e rest ih =>
    obtain ⟨key,item⟩ := e
    have line := List.length_pos_iff.mpr (entryLine_ne_nil (lined (key,item) List.mem_cons_self))
    have others := ih fun e member => lined e (List.mem_cons_of_mem _ member)
    simp only [List.flatMap_cons,List.length_append,List.length_cons]
    omega

theorem readExpressions_entryLines (lined : ∀ e ∈ entries, Lined e) (distinct : ((root ++ entries).map (·.1)).Nodup)
    {steps : Nat} (enough : entries.length ≤ steps) :
    readExpressions steps ⟨root,[]⟩ (entries.flatMap entryLine) = some (root ++ entries) := by
  induction entries generalizing root steps with
  | nil => simp [readExpressions]
  | cons e rest ih =>
    obtain ⟨key,item⟩ := e
    have absent : root.get? key = none := by
      rw [Entries.get?_eq_none]
      intro member
      rw [List.map_append] at distinct
      exact List.disjoint_of_nodup_append distinct member (by simp)
    have first := lined (key,item) List.mem_cons_self
    obtain ⟨steps,rfl⟩ := Nat.exists_eq_add_of_le' (Nat.le_trans (Nat.succ_pos _) enough)
    have line := @readExpression_entryLine key item root (rest.flatMap entryLine) first absent
    have others := @ih (root ++ [(key,item)]) (fun e member => lined e (List.mem_cons_of_mem _ member))
      (by simpa using distinct) steps (by simpa using enough)
    rw [List.append_assoc] at others
    obtain ⟨c,text,start⟩ := List.exists_cons_of_ne_nil (entryLine_ne_nil first)
    rw [List.flatMap_cons]
    rw [start,List.cons_append] at line ⊢
    simpa [readExpressions,line] using others

def keys : List String :=
  ["url","language","insecure","namespace","auto_agree_with_licenses","enable_system_uptime_tracking","no_zypper_refs",
    "auto_import_repo_keys","skip_service_install"]

theorem keys_textEntry (key : String) (value : Option String) : ((textEntry key value).map (·.1)).Sublist [key] := by
  cases value with
  | none => exact List.nil_sublist _
  | some value => exact .refl _

theorem keys_toEntries (s : Settings) : (s.toEntries.map (·.1)).Sublist keys := by
  simp only [toEntries,List.map_append]
  have url := keys_textEntry "url" (some s.url)
  have language := keys_textEntry "language" s.language
  have place := keys_textEntry "namespace" s.namespaceName
  exact ((((url.append language).append (.refl ["insecure"])).append place).append (.refl (keys.drop 4)))

theorem lined_toEntries (s : Settings) : ∀ e ∈ s.toEntries, Lined e := by
  intro e member
  have bare : ∀ key ∈ keys, Bare key := by decide
  refine ⟨bare e.1 ((keys_toEntries s).subset (List.mem_map_of_mem member)),?_⟩
  simp only [toEntries,textEntry,List.mem_append,List.mem_cons,Option.mem_toList,Option.map_eq_some_iff] at member
  aesop

theorem ofEntries?_toEntries (s : Settings) : ofEntries? s.toEntries = some { s with root := defaults.root } := by
  obtain ⟨url,language,_,place,_⟩ := s
  cases language with
  | none => cases place with
    | none => rfl
    | some place => rfl
  | some language => cases place with
    | none => rfl
    | some place => rfl

theorem read?_render (s : Settings) : Toml.read? s.render = some s.toEntries := by
  have lined := lined_toEntries s
  have distinct : (s.toEntries.map (·.1)).Nodup := (keys_toEntries s).nodup (by decide)
  have reads := @readExpressions_entryLines [] s.toEntries lined distinct _
    (Nat.le_succ_of_le (length_le_of_lined lined))
  have start : ∃ rest, s.toEntries.flatMap entryLine = 'u' :: rest := ⟨_,rfl⟩
  unfold Toml.read? render
  rw [String.toList_ofList]
  obtain ⟨rest,start⟩ := start
  rw [start] at reads ⊢
  exact reads

-- What is written is read again; the root is not kept.
theorem parse?_render (s : Settings) : parse? s.render = some { s with root := defaults.root } := by
  rw [parse?,read?_render,Option.bind_some,ofEntries?_toEntries]

end Settings
end Entitlement
