import Entitlement.Proofs.Registration.Runs
import Entitlement.Registration.Status

-- The products of a system: what is installed and, where the system is registered, what is activated besides. They are
-- read by up to three calls, and what is made of the answers is told here from the answers alone.
namespace Entitlement.Registration

section Missing

variable {installed : List Product} {activations : List Activation} {text : String}

def Activated (activations : List Activation) (text : String) : Prop := ∃ a ∈ activations, a.tripletText = text

-- The products of a list that are not known, each once, where it stands first.
def unknown (known : List String) (list : List Product) : List Product :=
  (list.filter fun p => p.tripletText ∉ known).eraseDupsBy fun p q => p.tripletText == q.tripletText

-- To strike a product from the rest of the list is to know it from there on.
theorem unknown_cons (known : List String) (p : Product) (rest : List Product) :
    unknown known (p :: rest) =
      if p.tripletText ∈ known then unknown known rest else p :: unknown (known ++ [p.tripletText]) rest := by
  by_cases present : p.tripletText ∈ known
  · rw [if_pos present,unknown,List.filter_cons_of_neg (by simpa using present)]
    rfl
  · rw [if_neg present,unknown,List.filter_cons_of_pos (by simpa using present),List.eraseDupsBy_cons,List.filter_filter]
    congr 2
    refine List.filter_congr fun q _ => ?_
    simp [and_comm,not_or]

theorem addUnknown_eq (known list : List Product) :
    addUnknown known list = known ++ unknown (tripletTexts known) list := by
  induction list generalizing known with
  | nil => simp [addUnknown,unknown]
  | cons p rest ih =>
    rw [addUnknown,unknown_cons]
    simp only [List.contains_iff_mem]
    split
    · exact ih known
    · rw [ih,List.append_assoc]
      simp [tripletTexts]

theorem mem_tripletTexts_cons {p : Product} {rest : List Product} :
    text ∈ tripletTexts (p :: rest) ↔ text = p.tripletText ∨ text ∈ tripletTexts rest := List.mem_cons

theorem mem_unknown {known : List String} {list : List Product} :
    text ∈ tripletTexts (unknown known list) ↔ text ∈ tripletTexts list ∧ text ∉ known := by
  induction list generalizing known with
  | nil => simp [tripletTexts,unknown]
  | cons p rest ih =>
    rw [unknown_cons,mem_tripletTexts_cons]
    by_cases present : p.tripletText ∈ known
    · rw [if_pos present,ih]
      refine and_congr_left fun fresh => (or_iff_right ?_).symm
      rintro rfl
      exact fresh present
    · rw [if_neg present,mem_tripletTexts_cons,ih,List.mem_append,List.mem_singleton]
      by_cases own : text = p.tripletText
      · subst own
        simp [present]
      · simp [own]

theorem nodup_unknown (known : List String) (list : List Product) : (tripletTexts (unknown known list)).Nodup := by
  induction list generalizing known with
  | nil => exact .nil
  | cons p rest ih =>
    rw [unknown_cons]
    split
    · exact ih known
    · refine List.nodup_cons.mpr ⟨fun again => ?_,ih _⟩
      have fresh := (mem_unknown.mp again).2
      simp at fresh

-- The products that are activated and not installed, in the order of their first activations.
def missing (installed : List Product) (activations : List Activation) : List Product :=
  unknown (tripletTexts installed) (activations.map Activation.product)

structure Merged (installed : List Product) (activations : List Activation) (products : List Product) : Prop where
  appended : products = installed ++ missing installed activations
  once : (tripletTexts (missing installed activations)).Nodup
  union : ∀ text, text ∈ tripletTexts products ↔ text ∈ tripletTexts installed ∨ Activated activations text
  distinct : (tripletTexts installed).Nodup → (tripletTexts products).Nodup

theorem mem_tripletTexts_products :
    text ∈ tripletTexts (activations.map Activation.product) ↔ Activated activations text := by
  simp [tripletTexts,Activated,Activation.tripletText]

theorem tripletTexts_append (first second : List Product) :
    tripletTexts (first ++ second) = tripletTexts first ++ tripletTexts second := List.map_append

theorem merged_addUnknown (installed : List Product) (activations : List Activation) :
    Merged installed activations (addUnknown installed (activations.map Activation.product)) := by
  rw [addUnknown_eq]
  refine ⟨rfl,nodup_unknown _ _,fun text => ?_,fun distinct => ?_⟩
  · rw [tripletTexts_append,List.mem_append,mem_unknown,mem_tripletTexts_products]
    by_cases present : text ∈ tripletTexts installed
    · simp [present]
    · simp [present]
  · rw [tripletTexts_append]
    refine List.nodup_append.mpr ⟨distinct,nodup_unknown _ _,?_⟩
    rintro text present _ added rfl
    exact (mem_unknown.mp added).2 present

end Missing

-- The calls of a reading and what comes of it.
inductive ListsProducts : List Event → Result (List Product) → Prop where
  | uninstalled : ListsProducts [⟨.packages .installedProducts,.error error⟩] (.error error)
  | unregistered : ListsProducts [⟨.packages .installedProducts,.ok installed⟩,⟨.hasSystemCredentials,false⟩]
      (.ok installed)
  | unanswered : ListsProducts [⟨.packages .installedProducts,.ok installed⟩,⟨.hasSystemCredentials,true⟩,
      ⟨.server .activations,.error error⟩] (.error error)
  | merged : ListsProducts [⟨.packages .installedProducts,.ok installed⟩,⟨.hasSystemCredentials,true⟩,
      ⟨.server .activations,.ok activations⟩] (.ok (installed ++ missing installed activations))

theorem ran_systemProducts {result : Result (List Product)} :
    Ran systemProducts events result ↔ ListsProducts events result := by
  constructor
  · intro ran
    rcases ran_packages_bind.mp ran with ⟨error,rfl,rfl⟩ | ⟨installed,_,rfl,listed⟩
    · exact .uninstalled
    obtain ⟨registered,_,rfl,asked⟩ := ran_ask_bind.mp listed
    cases registered with
    | false =>
      obtain ⟨rfl,rfl⟩ := ran_pure.mp asked
      exact .unregistered
    | true =>
      rcases ran_server_bind.mp asked with ⟨error,rfl,rfl⟩ | ⟨activations,_,rfl,merging⟩
      · exact .unanswered
      obtain ⟨rfl,rfl⟩ := ran_pure.mp merging
      rw [addUnknown_eq]
      exact .merged
  · intro lists
    cases lists with
    | uninstalled => exact ran_packages_bind.mpr (.inl ⟨_,rfl,rfl⟩)
    | unregistered =>
      exact ran_packages_bind.mpr (.inr ⟨_,_,rfl,ran_ask_bind.mpr ⟨false,_,rfl,ran_pure.mpr ⟨rfl,rfl⟩⟩⟩)
    | unanswered =>
      refine ran_packages_bind.mpr (.inr ⟨_,_,rfl,ran_ask_bind.mpr ⟨true,_,rfl,?_⟩⟩)
      exact ran_server_bind.mpr (.inl ⟨_,rfl,rfl⟩)
    | merged =>
      refine ran_packages_bind.mpr (.inr ⟨_,_,rfl,ran_ask_bind.mpr ⟨true,_,rfl,?_⟩⟩)
      refine ran_server_bind.mpr (.inr ⟨_,_,rfl,ran_pure.mpr ⟨rfl,?_⟩⟩)
      rw [addUnknown_eq]
      rfl

end Entitlement.Registration
