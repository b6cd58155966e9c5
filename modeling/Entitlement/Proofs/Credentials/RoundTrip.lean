import Entitlement.Proofs.Credentials.Separation

-- Which credentials come back from the file that they are written to. A value may hold anything but a line feed, and blanks
-- at its ends; what was read from a file is of this kind, however that file was laid out, so that it can be written back.
namespace Entitlement.CredentialStore

open Host FileSystem

variable {fs : FileSystem} {s : CredentialStore} {c : Credentials}

theorem Stores.tokened_iff (stores : Stores fs s.systemPath c) (token : String) :
    Credentials.Kept { c with token := some token } ↔ Credentials.Storable token := by
  constructor
  · intro kept
    exact kept.token token rfl
  · intro storable
    refine ⟨stores.kept.username,stores.kept.password,?_⟩
    intro other given
    rwa [← Option.some.inj given]

-- A token can always be put into a file that is read. Whether the file still is what it was but for the token is a
-- question of the token alone.
theorem Stores.updateToken_iff (stores : Stores fs s.systemPath c) (token : String) :
    ∃ after, Yields (s.updateToken token).run fs (.ok ()) after ∧
      (Stores after s.systemPath { c with token := some token } ↔ Credentials.Storable token) := by
  have reading : Yields s.system.run fs (.ok c) fs := yields_readFile stores
  by_cases same : c.token = some token
  · have unchanged : { c with token := some token } = c := by rw [← same]
    refine ⟨fs,yields_then reading ?_,?_⟩
    · rw [if_pos same]
      exact yields_pure
    · rw [unchanged]
      exact iff_of_true stores (stores.kept.token token same)
  · obtain ⟨_,_,read,_,_⟩ := id stores
    obtain ⟨place,_,holds⟩ := readFile_eq_ok.mp read
    obtain ⟨after,writing,replaced⟩ := yields_writeSecret holds { c with token := some token }.render
    obtain ⟨_,written⟩ := replaced.holds holds
    refine ⟨after,yields_then reading ?_,?_⟩
    · rw [if_neg same]
      exact yields_then (yields_lift yields_report) writing
    · rw [stores_iff_of_holds written,Credentials.parse?_render_iff,stores.tokened_iff]

theorem credentials_roundTrip :
    (∀ c : Credentials, Credentials.parse? c.render = some c ↔ Credentials.Kept c) ∧
    (∀ text c, Credentials.parse? text = some c → Credentials.parse? c.render = some c) ∧
    ∀ (s : CredentialStore) fs c token, Stores fs s.systemPath c →
      ∃ after, Yields (s.updateToken token).run fs (.ok ()) after ∧
        (Stores after s.systemPath { c with token := some token } ↔ Credentials.Storable token) := by
  refine ⟨fun c => Credentials.parse?_render_iff,?_,?_⟩
  · intro text c parsed
    exact Credentials.parse?_render (Credentials.parse?_kept parsed)
  · intro s fs c token stores
    exact stores.updateToken_iff token

-- A file with a remark, blanks around the values, a value left out and one given twice.
def untidy : String :=
  "# system\r\nusername = SCC_0\nusername =\tSCC_1 \r\npassword= a=b c \nsystem_token =\nsystem_token = token\r\r\n"

theorem untidy_roundTrip :
    Credentials.parse? untidy = some ⟨"SCC_1","a=b c",some "token"⟩ ∧
      Credentials.parse? (Credentials.render ⟨"SCC_1","a=b c",some "token"⟩) = some ⟨"SCC_1","a=b c",some "token"⟩ ∧
      Stores signedIn.files alone.systemPath tokened ∧
      ∃ after, Yields (alone.updateToken "to\nken").run signedIn.files (.ok ()) after ∧
        ¬ Stores after alone.systemPath { tokened with token := some "to\nken" } := by
  have parsed : Credentials.parse? untidy = some ⟨"SCC_1","a=b c",some "token"⟩ := by decide +kernel
  obtain ⟨_,again,updated⟩ := credentials_roundTrip
  obtain ⟨after,yields,stores⟩ := updated alone signedIn.files tokened "to\nken" stores_tokened
  refine ⟨parsed,again untidy _ parsed,stores_tokened,after,yields,?_⟩
  rw [stores]
  decide

end Entitlement.CredentialStore
