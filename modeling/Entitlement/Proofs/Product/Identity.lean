import Entitlement.Proofs.Product.Arrangement
import Entitlement.Proofs.Text.Split

-- The text of a triplet in place of the triplet. A text is read exactly if it is written from three proper parts, and it
-- is read as these, so that two products of proper triplets are the same when their texts are.
namespace Entitlement

-- What may stand between the slashes.
structure ProperPart (part : String) : Prop where
  filled : part ≠ ""
  single : '/' ∉ part.toList
  solid : ∀ c ∈ part.toList, Text.isBlank c = false

theorem properPart_iff {part : String} :
    ProperPart part ↔ Triplet.validPart part.toList = true ∧ '/' ∉ part.toList := by
  constructor
  · intro proper
    refine ⟨?_,proper.single⟩
    simpa [Triplet.validPart] using And.intro proper.filled proper.solid
  · intro proper
    obtain ⟨valid,single⟩ := proper
    have told : part ≠ "" ∧ ∀ c ∈ part.toList, Text.isBlank c = false := by simpa [Triplet.validPart] using valid
    exact ⟨told.1,single,told.2⟩

instance {part : String} : Decidable (ProperPart part) := decidable_of_iff _ properPart_iff.symm

namespace Triplet

structure Proper (t : Triplet) : Prop where
  name : ProperPart t.name
  version : ProperPart t.version
  arch : ProperPart t.arch

instance {t : Triplet} : Decidable t.Proper :=
  decidable_of_iff (ProperPart t.name ∧ ProperPart t.version ∧ ProperPart t.arch)
    ⟨fun proper => ⟨proper.1,proper.2.1,proper.2.2⟩,fun proper => ⟨proper.name,proper.version,proper.arch⟩⟩

def parts (t : Triplet) : List (List Char) := [t.name.toList,t.version.toList,t.arch.toList]

variable {t u : Triplet} {raw : String}

theorem text_toList (t : Triplet) : t.text.toList = ['/'].intercalate t.parts := by
  simp [text,parts,List.intercalate_cons_cons]

theorem Proper.single (proper : t.Proper) : ∀ part ∈ t.parts, '/' ∉ part := by
  simp [parts,proper.name.single,proper.version.single,proper.arch.single]

theorem split_text (single : ∀ part ∈ t.parts, '/' ∉ part) : Text.split '/' t.text.toList = t.parts := by
  rw [text_toList]
  exact Text.split_intercalate (List.cons_ne_nil _ _) single

theorem parts_injective (same : t.parts = u.parts) : t = u := by
  cases t
  cases u
  simpa [parts,String.toList_inj] using same

theorem text_eq_iff (proper : t.Proper) (also : u.Proper) : t.text = u.text ↔ t = u := by
  constructor
  · intro same
    apply parts_injective
    rw [← split_text proper.single,← split_text also.single,same]
  · intro same
    rw [same]

-- Without proper parts, two triplets can share their text.
example : text ⟨"a/b","c","d"⟩ = text ⟨"a","b/c","d"⟩ := by decide

theorem proper_of_parts (cut : Text.split '/' raw.toList = t.parts) (valid : ∀ part ∈ t.parts, validPart part = true) :
    t.Proper ∧ t.text = raw := by
  have proper {part : String} (member : part.toList ∈ t.parts) : ProperPart part :=
    properPart_iff.mpr ⟨valid _ member,Text.not_mem_piece (cut ▸ member)⟩
  refine ⟨⟨proper (by simp [parts]),proper (by simp [parts]),proper (by simp [parts])⟩,?_⟩
  apply String.toList_injective
  rw [text_toList,← cut]
  exact Text.intercalate_split '/' raw.toList

theorem parse_eq_ok_iff : parse raw = .ok t ↔ t.Proper ∧ t.text = raw := by
  constructor
  · intro read
    unfold parse at read
    split at read
    · rename_i name version arch cut
      split at read
      · rename_i valid
        cases read
        apply proper_of_parts
        · simpa [parts] using cut
        · simpa [parts,and_assoc] using valid
      · cases read
    · cases read
  · intro written
    obtain ⟨proper,rfl⟩ := written
    have name := (properPart_iff.mp proper.name).1
    have version := (properPart_iff.mp proper.version).1
    have arch := (properPart_iff.mp proper.arch).1
    simp [parse,split_text proper.single,parts,name,version,arch]

theorem parse_refused (unread : ∀ t, parse raw ≠ .ok t) : parse raw = .error (.invalidTriplet raw) := by
  unfold parse at unread ⊢
  split
  · rename_i name version arch cut
    split
    · rename_i valid
      rw [cut] at unread
      simp [valid] at unread
    · rfl
  · rfl

-- What is promised of a text that may be a triplet's.
structure Reads (raw : String) : Prop where
  accepted : (∃ t, parse raw = .ok t) ↔ ∃ name version arch, ProperPart name ∧ ProperPart version ∧ ProperPart arch ∧
    raw = name ++ "/" ++ version ++ "/" ++ arch
  shown : ∀ t, parse raw = .ok t → t.text = raw
  refused : (∀ t, parse raw ≠ .ok t) → parse raw = .error (.invalidTriplet raw)

theorem reads (raw : String) : Reads raw where
  accepted := by
    constructor
    · intro read
      obtain ⟨t,read⟩ := read
      obtain ⟨proper,rfl⟩ := parse_eq_ok_iff.mp read
      exact ⟨t.name,t.version,t.arch,proper.name,proper.version,proper.arch,rfl⟩
    · intro written
      obtain ⟨name,version,arch,first,second,third,rfl⟩ := written
      exact ⟨⟨name,version,arch⟩,parse_eq_ok_iff.mpr ⟨⟨first,second,third⟩,rfl⟩⟩
  shown _ read := (parse_eq_ok_iff.mp read).2
  refused := parse_refused

end Triplet

namespace Product

variable {p q : Product} {products : List Product}

theorem same_iff (proper : p.triplet.Proper) (also : q.triplet.Proper) :
    p.same q = true ↔ p.tripletText = q.tripletText := by
  rw [same,decide_eq_true_iff]
  exact (Triplet.text_eq_iff proper also).symm

theorem mem_tripletTexts_iff (proper : p.triplet.Proper) (each : ∀ q ∈ products, q.triplet.Proper) :
    p.tripletText ∈ tripletTexts products ↔ ∃ q ∈ products, p.same q = true := by
  rw [tripletTexts,List.mem_map]
  refine exists_congr fun q => and_congr_right fun member => ?_
  rw [same_iff proper (each q member)]
  exact eq_comm

end Product

-- The texts of products are looked up in a list and in a set.
theorem tripletText_identifies :
    (∀ raw, Triplet.Reads raw) ∧
    (∀ t : Triplet, t.Proper → Triplet.parse t.text = .ok t) ∧
    (∀ p q : Product, p.triplet.Proper → q.triplet.Proper → (p.same q = true ↔ p.tripletText = q.tripletText)) ∧
    ∀ (products : List Product) (p : Product), (∀ q ∈ products, q.triplet.Proper) → p.triplet.Proper →
      ((TextSet.ofList (tripletTexts products)).contains p.tripletText = true ↔ ∃ q ∈ products, p.same q = true) ∧
      ((tripletTexts products).contains p.tripletText = true ↔ ∃ q ∈ products, p.same q = true) := by
  refine ⟨Triplet.reads,fun t proper => Triplet.parse_eq_ok_iff.mpr ⟨proper,rfl⟩,fun p q => Product.same_iff,?_⟩
  intro products p each proper
  rw [TextSet.contains_ofList,List.contains_iff_mem]
  have identified := Product.mem_tripletTexts_iff proper each
  exact ⟨identified,identified⟩

-- A module, once as a user names it and once with what the server tells of it.
theorem module_identified :
    let named := Product.ofTriplet ⟨"sle-module-python3","15.4","x86_64"⟩
    let offered := { named with friendlyName := "Python 3 Module", free := true }
    let other := { named with version := "15.5" }
    named.triplet.Proper ∧ offered.triplet.Proper ∧ other.triplet.Proper ∧
      Triplet.parse named.tripletText = .ok named.triplet ∧ named.tripletText = offered.tripletText ∧
      (TextSet.ofList (tripletTexts [other,offered])).contains named.tripletText = true ∧
      (tripletTexts [other]).contains named.tripletText = false := by
  intro named offered other
  have proper : named.triplet.Proper := by decide
  have given : offered.triplet.Proper := by decide
  have newer : other.triplet.Proper := by decide
  obtain ⟨_,written,compared,looked⟩ := tripletText_identifies
  have both : ∀ q ∈ [other,offered], q.triplet.Proper := by simp [newer,given]
  have alone : ∀ q ∈ [other], q.triplet.Proper := by simp [newer]
  have found : ∃ q ∈ [other,offered], named.same q = true := ⟨offered,by simp,by decide⟩
  have missing : ¬ ∃ q ∈ [other], named.same q = true := by
    simp only [List.mem_singleton,exists_eq_left]
    decide
  refine ⟨proper,given,newer,written _ proper,(compared _ _ proper given).mp (by decide),?_,?_⟩
  · exact (looked _ _ both proper).1.mpr found
  · rw [Bool.eq_false_iff]
    exact fun present => missing ((looked _ _ alone proper).2.mp present)

end Entitlement
