import Entitlement.Proofs.Credentials.Store
import Entitlement.Server

-- The token that a response brings: what is left of a header that can be read, if that is not blank. It can be kept in
-- a file as it is.
namespace Entitlement.Server

open Host

-- A byte that may stand in a header that is read: a tab, a blank or visible.
def Readable (b : UInt8) : Prop := b.toNat = 9 ∨ (32 ≤ b.toNat ∧ b.toNat < 127)

def textOf (value : Bytes) : List Char := value.map fun b => Char.ofNat b.toNat

theorem readableValue?_eq_some_iff {value : Bytes} {text : String} :
    Http.readableValue? value = some text ↔ (∀ b ∈ value, Readable b) ∧ text = String.ofList (textOf value) := by
  have all : (value.all fun b => b = 9 || (32 ≤ b && b < 127)) = true ↔ ∀ b ∈ value, Readable b := by
    simp [List.all_eq_true,Readable,← UInt8.toNat_inj,UInt8.le_iff_toNat_le,UInt8.lt_iff_toNat_lt]
  unfold Http.readableValue?
  by_cases readable : ∀ b ∈ value, Readable b
  · have small : ∀ b ∈ value, b.toNat < 0x80 := by
      intro b member
      rcases readable b member with tab | ⟨_,most⟩ <;> omega
    rw [if_pos (all.mpr readable),Text.decode?_ascii small]
    constructor
    · intro same; exact ⟨readable,(Option.some.inj same).symm⟩
    · rintro ⟨_,rfl⟩; rfl
  · rw [if_neg (fun readableAll => readable (all.mp readableAll))]
    constructor
    · intro none; cases none
    · rintro ⟨readableAll,_⟩; exact absurd readableAll readable

-- A response brings a token in a header that can be read.
structure Brings (r : Http.Response) (token : String) : Prop where
  header : ∃ value, r.header? tokenHeader = some value ∧ (∀ b ∈ value, Readable b) ∧
    token.toList = Text.trimmed (textOf value)
  filled : token.toList ≠ []

theorem newToken?_eq_some_iff {r : Http.Response} {token : String} : newToken? r = some token ↔ Brings r token := by
  simp only [newToken?,Option.bind_eq_bind,Option.bind_eq_some_iff,readableValue?_eq_some_iff]
  constructor
  · rintro ⟨value,header,_,⟨readable,rfl⟩,kept⟩
    by_cases empty : (Text.trim (String.ofList (textOf value))).isEmpty
    · simp only [empty,if_true] at kept; cases kept
    · simp only [empty,Bool.false_eq_true,if_false,Option.some.injEq] at kept
      have trimmed : token.toList = Text.trimmed (textOf value) := by rw [← kept,Text.trim]; simp
      refine ⟨⟨value,header,readable,trimmed⟩,fun none => empty ?_⟩
      rw [kept,String.isEmpty_iff]
      exact String.toList_eq_nil_iff.mp none
  · rintro ⟨⟨value,header,readable,trimmed⟩,filled⟩
    refine ⟨value,header,_,⟨readable,rfl⟩,?_⟩
    have kept : Text.trim (String.ofList (textOf value)) = token := by
      rw [Text.trim,String.toList_ofList,← trimmed,String.ofList_toList]
    have some : token.isEmpty = false := String.isEmpty_eq_false_iff.mpr fun none => filled (by rw [none]; rfl)
    rw [kept,some]
    rfl

theorem newToken?_storable {r : Http.Response} {token : String} (brings : newToken? r = some token) :
    Credentials.Storable token := by
  obtain ⟨⟨value,_,readable,trimmed⟩,filled⟩ := newToken?_eq_some_iff.mp brings
  have oneLine : '\n' ∉ textOf value := by
    intro feed
    obtain ⟨b,member,same⟩ := List.mem_map.mp feed
    have line : b.toNat = 10 := by
      rw [← Text.toNat_charOfByte,same]
      rfl
    rcases readable b member with tab | ⟨least,_⟩ <;> omega
  have storable := Credentials.storable_trimmed (trimmed ▸ filled) oneLine
  rwa [← trimmed,String.ofList_toList] at storable

variable {fs : FileSystem} {c : Credentials}

-- The token is kept before anything else is done with the response, and nothing can stop that.
theorem yields_keepToken (s : Server) (r : Http.Response) (stores : CredentialStore.Stores fs s.store.systemPath c) :
    ∃ after, Yields (s.keepToken r) fs () after ∧
      CredentialStore.Stores after s.store.systemPath { c with token := (newToken? r).or c.token } := by
  unfold keepToken
  cases brought : newToken? r with
  | none => exact ⟨fs,yields_pure,stores⟩
  | some token =>
    obtain ⟨after,updating,stored⟩ := CredentialStore.yields_updateToken s.store (newToken?_storable brought) stores
    exact ⟨after,yields_bind updating yields_pure,stored⟩

end Entitlement.Server
