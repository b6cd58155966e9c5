import Entitlement.Proofs.Product.Tree
import Entitlement.Proofs.Registration.Failures
import Entitlement.Proofs.Registration.Restoration
import Entitlement.Registration.Status

-- The listing of the extensions of a product against the tree that it is made of. It has the limit of every walk, though
-- it counts the levels on its own, and what is listed for a product is read off that product alone.
namespace Entitlement.Registration

namespace Extension

mutual

-- What is listed below a product, in the order in which it is shown, with the levels. What stands below the product
-- directly is on the given level.
def outlineFrom (level : Nat) : Extension → List (Nat × ExtensionFacts)
  | ⟨_,extensions⟩ => outlineAll level extensions

def outlineAll (level : Nat) : List Extension → List (Nat × ExtensionFacts)
  | [] => []
  | e :: rest => (level,e.toExtensionFacts) :: (outlineFrom (level + 1) e ++ outlineAll level rest)

end

def outline (e : Extension) : List (Nat × ExtensionFacts) := outlineFrom 1 e

def factsOf (activated : TextSet) (p : Product) : ExtensionFacts :=
  ⟨p.triplet,p.friendlyName,activated.contains p.tripletText,p.available,p.free⟩

mutual

def listed (activated : TextSet) : Product → Extension
  | ⟨facts,extensions⟩ => ⟨factsOf activated ⟨facts,extensions⟩,listedAll activated extensions⟩

def listedAll (activated : TextSet) : List Product → List Extension
  | [] => []
  | p :: rest => listed activated p :: listedAll activated rest

end

variable {activated : TextSet} {root : String}

mutual

theorem list_eq (levels : Nat) (p : Product) :
    list activated root levels p =
      if p.height ≤ levels then .ok (listed activated p) else .error (.treeTooDeep root depthLimit) := by
  match p with
  | ⟨facts,extensions⟩ =>
    rw [list,listAll_eq levels extensions,Product.height]
    split <;> rfl

theorem listAll_eq (levels : Nat) (products : List Product) :
    listAll activated root levels products =
      if Product.heightAll products ≤ levels then .ok (listedAll activated products)
      else .error (.treeTooDeep root depthLimit) := by
  match products,levels with
  | [],_ => simp [listAll,listedAll,Product.heightAll]
  | p :: rest,0 => simp [listAll,Product.heightAll]
  | p :: rest,levels + 1 =>
    rw [listAll,list_eq levels p,listAll_eq (levels + 1) rest]
    by_cases low : p.height ≤ levels
    · have same : Product.heightAll (p :: rest) ≤ levels + 1 ↔ Product.heightAll rest ≤ levels + 1 := by
        simp only [Product.heightAll]
        omega
      simp only [if_pos low,same]
      split <;> rfl
    · have high : ¬ Product.heightAll (p :: rest) ≤ levels + 1 := by
        simp only [Product.heightAll]
        omega
      rw [if_neg low,if_neg high]
      rfl

end

theorem toExtensionFacts_listed (p : Product) : (listed activated p).toExtensionFacts = factsOf activated p := by
  cases p
  rfl

theorem listed_extensions_eq_nil (p : Product) : (listed activated p).extensions = [] ↔ p.extensions = [] := by
  match p with
  | ⟨_,[]⟩ => exact iff_of_true rfl rfl
  | ⟨_,_ :: _⟩ => exact iff_of_false (List.cons_ne_nil _ _) (List.cons_ne_nil _ _)

-- The listing goes through the tree in the order of a walk.

mutual

theorem outlineFrom_listed (level : Nat) (p : Product) :
    ((listed activated p).outlineFrom level).map Prod.snd = p.descendants.map (factsOf activated) := by
  match p with
  | ⟨_,extensions⟩ => exact outlineAll_listed level extensions

theorem outlineAll_listed (level : Nat) (products : List Product) :
    (outlineAll level (listedAll activated products)).map Prod.snd =
      (Product.descendantsAll products).map (factsOf activated) := by
  match products with
  | [] => rfl
  | p :: rest =>
    have below := outlineFrom_listed (level + 1) p
    have beside := outlineAll_listed level rest
    simp [listedAll,outlineAll,Product.descendantsAll,below,beside,toExtensionFacts_listed]

end

theorem outline_listed (p : Product) :
    (listed activated p).outline.map Prod.snd = p.descendants.map (factsOf activated) := outlineFrom_listed 1 p

theorem outline_products (p : Product) :
    (listed activated p).outline.map (·.2.product) = p.descendants.map Product.triplet := by
  rw [← Function.comp_def,← List.map_map,outline_listed,List.map_map]
  rfl

end Extension

-- The runs of the listing. What is listed is settled by the activations and the tree that were read.

def activatedTexts (activations : List Activation) : TextSet :=
  TextSet.ofList (activations.map Activation.tripletText)

inductive ListsTree : List Event → Result Extension → Prop where
  | unregistered : ListsTree [⟨.hasSystemCredentials,false⟩] (.error .systemNotRegistered)
  | undetected : Ran baseProduct detecting (.error error) →
      ListsTree (⟨.hasSystemCredentials,true⟩ :: detecting) (.error error)
  | unread : findBase installed = some base →
      ListsTree [⟨.hasSystemCredentials,true⟩,⟨.packages .installedProducts,.ok installed⟩,
        ⟨.server .activations,.error error⟩] (.error error)
  | unfetched : findBase installed = some base →
      ListsTree [⟨.hasSystemCredentials,true⟩,⟨.packages .installedProducts,.ok installed⟩,
        ⟨.server .activations,.ok activations⟩,⟨.server (.productTree base),.error error⟩] (.error error)
  | fetched : findBase installed = some base →
      ListsTree [⟨.hasSystemCredentials,true⟩,⟨.packages .installedProducts,.ok installed⟩,
        ⟨.server .activations,.ok activations⟩,⟨.server (.productTree base),.ok tree⟩]
        (Extension.list (activatedTexts activations) tree.tripletText depthLimit tree)

theorem listsTree_of_ran {result : Result Extension} (ran : Ran extensionTree events result) :
    ListsTree events result := by
  rcases ran_requireRegistration_bind.mp ran with ⟨rfl,rfl⟩ | ⟨_,rfl,registered⟩
  · exact .unregistered
  rcases ran_bind.mp registered with ⟨error,failed,rfl⟩ | ⟨_,base,_,rfl,detected,reading⟩
  · exact .undetected failed
  obtain ⟨installed,rfl,found⟩ := ran_baseProduct_ok.mp detected
  rcases ran_server_bind.mp reading with ⟨error,rfl,rfl⟩ | ⟨activations,_,rfl,fetching⟩
  · exact .unread found
  rcases ran_server_bind.mp fetching with ⟨error,rfl,rfl⟩ | ⟨tree,_,rfl,settled⟩
  · exact .unfetched found
  obtain ⟨rfl,rfl⟩ := ran_settled.mp settled
  exact .fetched found

-- A run that has fetched the tree has read the activations before, and ends as the listing does.
theorem ListsTree.result_eq {result : Result Extension} {base tree : Product} (lists : ListsTree events result)
    (fetched : ⟨.server (.productTree base),.ok tree⟩ ∈ events) :
    ∃ activations, ⟨.server .activations,.ok activations⟩ ∈ events ∧
      result = Extension.list (activatedTexts activations) tree.tripletText depthLimit tree := by
  cases lists with
  | unregistered => simp at fetched
  | undetected failed =>
    rcases ran_baseProduct_error.mp failed with rfl | ⟨_,rfl,_⟩
    · simp at fetched
    · simp at fetched
  | unread _ => simp at fetched
  | unfetched _ => simp at fetched
  | @fetched _ _ activations _ _ =>
    simp only [List.mem_cons,Program.Event.mk.injEq,reduceCtorEq,false_and,heq_eq_eq,Except.ok.injEq,
      Question.server.injEq,ServerCall.productTree.injEq,List.not_mem_nil,or_false,false_or] at fetched
    obtain ⟨rfl,rfl⟩ := fetched
    exact ⟨activations,by simp,rfl⟩

-- A system with activations: each is a subscription, or has no code of one.

def activationOf (name regcode : String) (product : Product) : Activation :=
  { name := name, status := "ACTIVE", regcode := regcode, kind := "full", startsAt := none, expiresAt := none
    service := serviceOf product }

def activating (activations : List Activation) (installed : List Product) (tree : Product) :
    Program.Behaviour collaboration
  | _, .server .activations => .ok activations
  | past, q => obliging true installed tree past q

def desktopTree : Product := { server154 with extensions := [{ desktop154 with extensions := [python154] }] }

end Entitlement.Registration
