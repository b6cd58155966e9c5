import Entitlement.Credentials.Store
import Entitlement.Proofs.Credentials.File
import Entitlement.Proofs.Host.FileSystem
import Entitlement.Proofs.Host.Runs
import Entitlement.Proofs.Text.Utf8

-- Keeping a token. The file of the system's credentials is there already, so that nothing can stop it from being
-- written, and what is written is read again.
namespace Entitlement.CredentialStore

open Host FileSystem

-- The credentials that a file holds.
def Stores (fs : FileSystem) (path : String) (c : Credentials) : Prop :=
  ∃ bytes text, fs.readFile path = .ok bytes ∧ Text.decode? bytes = some text ∧ Credentials.parse? text = some c

variable {fs after : FileSystem} {path : String} {c : Credentials}

theorem Stores.kept (stores : Stores fs path c) : Credentials.Kept c := by
  obtain ⟨_,_,_,_,parsed⟩ := stores
  exact Credentials.parse?_kept parsed

theorem stores_render (kept : Credentials.Kept c) (read : fs.readFile path = .ok (Text.encode c.render)) :
    Stores fs path c := ⟨_,_,read,Text.decode?_encode c.render,Credentials.parse?_render kept⟩

theorem yields_readText {text : String} (read : fs.readFile path = .ok content)
    (decoded : Text.decode? content = some text) : Yields (readText path) fs (.ok text) fs := by
  have yields := @yields_file fs (.read path)
  rw [fileReply,read] at yields
  refine yields_bind yields ?_
  simp only [decoded]
  exact yields_pure

theorem yields_readFile (stores : Stores fs path c) : Yields (readFile path).run fs (.ok c) fs := by
  obtain ⟨bytes,text,read,decoded,parsed⟩ := stores
  refine yields_then (yields_lift (yields_fileExists (pathExists_of_readFile read))) ?_
  refine yields_then (yields_orFail (yields_readText read decoded)) ?_
  simp only [parsed]
  exact yields_pure

-- The system's file is in its directory.
theorem systemPath_eq (s : CredentialStore) : s.systemPath = Path.join s.root directory ++ "/" ++ systemFile := by
  obtain ⟨front,ends⟩ := @Path.join_toList directory s.root (by decide)
  have whole : directory.toList = "etc/zypp/credentials.".toList ++ ['d'] := by decide
  have last : (Path.join s.root directory).toList.getLast? = some 'd' := by
    rw [ends,whole,← List.append_assoc,List.getLast?_concat]
  exact @Path.join_of_last _ systemFile 'd' (by decide) last (by decide)

-- What is written where a file is takes its place, and nothing else changes.
theorem yields_writeSecret {place : Location} {mode : Nat} (holds : Holds fs path place content mode) (text : String) :
    ∃ after, Yields (writeSecret path text).run fs (.ok ()) after ∧ Replaced place (Text.encode text) fs after := by
  have written : Holds (fs.put place (.file (Text.encode text) mode)) path place (Text.encode text) mode := holds.put
  have writing := @yields_file fs (.write path (Text.encode text))
  have setting := @yields_file (fs.put place (.file (Text.encode text) mode)) (.setMode path 0o600)
  rw [fileReply,holds.writeFile,changed] at writing
  rw [fileReply,written.setMode,changed] at setting
  refine ⟨_,?_,@replaced_put _ place _ mode 0o600 (by rw [holds.found]; nofun)⟩
  unfold writeSecret
  cases parent : Path.parent? path with
  | none => exact yields_then (yields_orFail writing) (yields_orFail setting)
  | some directory =>
    have creating := @yields_file fs (.createDirectories directory)
    have created : fs.createDirectories directory = .ok fs := by
      rcases Path.above_of_parent? parent with rfl | above
      · rfl
      · exact createDirectories_of_locate holds.located above
    rw [fileReply,created,changed] at creating
    exact yields_then (yields_orFail creating) (yields_then (yields_orFail writing) (yields_orFail setting))

theorem yields_writeSystem (s : CredentialStore) {new : Credentials} (kept : Credentials.Kept new)
    (stores : Stores fs s.systemPath c) :
    ∃ after, Yields (s.writeSystem new).run fs (.ok ()) after ∧ Stores after s.systemPath new := by
  obtain ⟨_,_,read,_,_⟩ := stores
  obtain ⟨place,_,holds⟩ := readFile_eq_ok.mp read
  obtain ⟨after,yields,replaced⟩ := yields_writeSecret holds new.render
  obtain ⟨mode,holdsAfter⟩ := replaced.holds holds
  exact ⟨after,yields_then (yields_lift yields_report) yields,
    stores_render kept (readFile_eq_ok.mpr ⟨place,mode,holdsAfter⟩)⟩

theorem yields_updateToken (s : CredentialStore) {token : String} (storable : Credentials.Storable token)
    (stores : Stores fs s.systemPath c) :
    ∃ after, Yields (s.updateToken token).run fs (.ok ()) after ∧
      Stores after s.systemPath { c with token := some token } := by
  have reading : Yields s.system.run fs (.ok c) fs := yields_readFile stores
  by_cases same : c.token = some token
  · refine ⟨fs,yields_then reading ?_,by rwa [← same]⟩
    rw [if_pos same]
    exact yields_pure
  · have kept : Credentials.Kept { c with token := some token } :=
      ⟨stores.kept.username,stores.kept.password,fun _ given => Option.some.inj given ▸ storable⟩
    obtain ⟨after,writing,storesAfter⟩ := yields_writeSystem s kept stores
    refine ⟨after,yields_then reading ?_,storesAfter⟩
    rw [if_neg same]
    exact writing

end Entitlement.CredentialStore
