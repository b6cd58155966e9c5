import Entitlement.Credentials
import Entitlement.Proofs.Text.Blank
import Entitlement.Proofs.Text.Split

-- Credentials that come from a file can be written to one and read again. What is read has been trimmed, is not empty
-- and came from one line, and that is all that a value needs to come back as it was.
namespace Entitlement.Credentials

structure Storable (value : String) : Prop where
  filled : value.toList ≠ []
  trimmed : Text.trimmed value.toList = value.toList
  oneLine : '\n' ∉ value.toList

-- Credentials of which every value is storable.
structure Kept (c : Credentials) : Prop where
  username : Storable c.username
  password : Storable c.password
  token : ∀ token, c.token = some token → Storable token

instance (value : String) : Decidable (Storable value) :=
  decidable_of_iff (value.toList ≠ [] ∧ Text.trimmed value.toList = value.toList ∧ '\n' ∉ value.toList)
    ⟨fun ⟨filled,trimmed,oneLine⟩ => ⟨filled,trimmed,oneLine⟩,fun s => ⟨s.filled,s.trimmed,s.oneLine⟩⟩

instance (c : Credentials) : Decidable (Kept c) :=
  decidable_of_iff (Storable c.username ∧ Storable c.password ∧ ∀ token ∈ c.token, Storable token)
    ⟨fun ⟨username,password,token⟩ => ⟨username,password,token⟩,fun k => ⟨k.username,k.password,k.token⟩⟩

theorem storable_trimmed {cs : List Char} (filled : Text.trimmed cs ≠ []) (oneLine : '\n' ∉ cs) :
    Storable (String.ofList (Text.trimmed cs)) where
  filled := by rwa [String.toList_ofList]
  trimmed := by rw [String.toList_ofList,Text.trimmed_trimmed]
  oneLine := by rw [String.toList_ofList]; exact fun feed => oneLine (Text.trimmed_subset cs feed)

theorem assignment_storable {line : List Char} {name value : String} (oneLine : '\n' ∉ line)
    (assigned : assignment line = some (name,value)) : Storable value := by
  unfold assignment at assigned
  cases cut : Text.splitFirst '=' line with
  | none => rw [cut] at assigned; cases assigned
  | some parts =>
    rw [cut] at assigned
    have whole := Text.splitFirst_eq_some cut
    have free : '\n' ∉ parts.2 := fun feed => oneLine (whole ▸ by simp [feed])
    by_cases empty : (Text.trimmed parts.2).isEmpty
    · simp only [empty,if_true] at assigned
      cases assigned
    · simp only [empty,if_false,Option.some.injEq,Prod.mk.injEq,Bool.false_eq_true] at assigned
      rw [← assigned.2]
      exact storable_trimmed (fun none => empty (by rw [none]; rfl)) free

theorem lookUp_storable {assignments : List (String × String)} {name value : String}
    (all : ∀ a ∈ assignments, Storable a.2) (found : lookUp assignments name = some value) : Storable value := by
  rw [lookUp,Option.map_eq_some_iff] at found
  obtain ⟨assigned,first,rfl⟩ := found
  exact all assigned (List.mem_reverse.mp (List.mem_of_find?_eq_some first))

theorem parse?_kept {text : String} {c : Credentials} (parsed : parse? text = some c) : Kept c := by
  have all : ∀ a ∈ (Text.lines text.toList).filterMap assignment, Storable a.2 := by
    intro a member
    obtain ⟨line,listed,assigned⟩ := List.mem_filterMap.mp member
    exact assignment_storable (Text.not_mem_line listed) assigned
  simp only [parse?,Option.bind_eq_bind,Option.bind_eq_some_iff,Option.some.injEq] at parsed
  obtain ⟨username,hasUsername,password,hasPassword,rfl⟩ := parsed
  exact ⟨lookUp_storable all hasUsername,lookUp_storable all hasPassword,fun token found => lookUp_storable all found⟩

-- A value that is not blank at its end keeps it.
theorem dropReturn_assignment (start : List Char) {value : String} (storable : Storable value) :
    Text.dropReturn (start ++ value.toList) = start ++ value.toList := by
  have filled := storable.filled
  have last := @Text.last_trimmed value.toList (by rw [storable.trimmed]; exact filled)
  simp only [storable.trimmed] at last
  unfold Text.dropReturn
  rw [List.getLast?_append_of_ne_nil _ filled,List.getLast?_eq_some_getLast filled,if_neg]
  rintro ending
  rw [Option.some.inj ending] at last
  exact absurd last (by decide)

-- The names of the values in a file.
structure Name (name : String) : Prop where
  free : '=' ∉ name.toList
  trimmed : Text.trimmed name.toList = name.toList
  oneLine : '\n' ∉ name.toList

theorem assignment_line {name value : String} (named : Name name) (storable : Storable value) :
    assignment (name.toList ++ '=' :: value.toList) = some (name,value) := by
  have filled : value.toList.isEmpty = false := List.isEmpty_eq_false_iff.mpr storable.filled
  simp [assignment,Text.splitFirst_append named.free,storable.trimmed,named.trimmed,filled]

theorem assignments_line {name value : String} (named : Name name) (storable : Storable value) (rest : List Char) :
    (Text.lines (name.toList ++ '=' :: value.toList ++ '\n' :: rest)).filterMap assignment =
      (name,value) :: (Text.lines rest).filterMap assignment := by
  have free : '\n' ∉ name.toList ++ '=' :: value.toList := by
    simp [named.oneLine,storable.oneLine]
  have kept : Text.dropReturn (name.toList ++ '=' :: value.toList) = name.toList ++ '=' :: value.toList := by
    simpa using dropReturn_assignment (name.toList ++ ['=']) storable
  rw [Text.lines_append free,kept,List.filterMap_cons,assignment_line named storable]

theorem name_username : Name "username" := ⟨by decide,by decide,by decide⟩

theorem name_password : Name "password" := ⟨by decide,by decide,by decide⟩

theorem name_token : Name "system_token" := ⟨by decide,by decide,by decide⟩

theorem render_toList (c : Credentials) :
    c.render.toList = "username".toList ++ '=' :: c.username.toList ++ '\n' ::
      ("password".toList ++ '=' :: c.password.toList ++ '\n' ::
        (match c.token with
          | some token => "system_token".toList ++ '=' :: token.toList ++ '\n' :: []
          | none => [])) := by
  cases c with
  | mk username password token => cases token <;> simp [render]

theorem parse?_render {c : Credentials} (kept : Kept c) : parse? c.render = some c := by
  obtain ⟨username,password,token⟩ := c
  have assigned : (Text.lines (render ⟨username,password,token⟩).toList).filterMap assignment =
      ("username",username) :: ("password",password) :: (token.map fun t => ("system_token",t)).toList := by
    rw [render_toList,assignments_line name_username kept.username,assignments_line name_password kept.password]
    cases token with
    | none => rfl
    | some token =>
      rw [assignments_line name_token (kept.token token rfl)]
      rfl
  unfold parse?
  rw [assigned]
  cases token <;> simp [lookUp]

theorem parse?_render_iff {c : Credentials} : parse? c.render = some c ↔ Kept c := ⟨parse?_kept,parse?_render⟩

end Entitlement.Credentials
