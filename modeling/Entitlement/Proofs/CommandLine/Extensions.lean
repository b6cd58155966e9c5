import Entitlement.CommandLine.Lines
import Entitlement.Proofs.Registration.Extensions

-- What people read in the list of extensions. Each extension of the tree has its lines, in the order of a walk through
-- the tree and indented by its level, and they name the command that changes its own activation.
namespace Entitlement.CommandLine

open Registration

def indent (level : Nat) : String := String.ofList (List.replicate (4 * (level - 1)) ' ')

def caption (e : ExtensionFacts) : String :=
  (if e.friendlyName.isEmpty then e.product.text else e.friendlyName) ++
    if e.activated then " (Activated)" else if e.available then "" else " (Not available)"

def remedy (e : ExtensionFacts) : String :=
  if e.activated then "Deactivate with: entitle deactivate " ++ e.product.text
  else "Activate with: entitle activate " ++ e.product.text ++ if e.free then "" else " -r ADDITIONAL REGCODE"

-- The lines of an extension on a level.
def block : Nat × ExtensionFacts → List String
  | (level,e) => [indent level ++ caption e,indent level ++ remedy e,""]

theorem linesOf_eq_block (level : Nat) (e : ExtensionFacts) : extensionLinesOf level e = block (level + 1,e) := by
  obtain ⟨product,name,activated,available,free⟩ := e
  cases activated <;> cases free <;> simp [extensionLinesOf,block,indent,caption,remedy,String.append_assoc]

mutual

theorem linesFrom_eq (level : Nat) (e : Extension) :
    extensionLinesFrom level e = block (level + 1,e.toExtensionFacts) ++ (e.outlineFrom (level + 2)).flatMap block := by
  match e with
  | ⟨facts,extensions⟩ =>
    rw [extensionLinesFrom,linesOf_eq_block,linesOfAll_eq (level + 1) extensions]
    rfl

theorem linesOfAll_eq (level : Nat) (list : List Extension) :
    extensionLinesOfAll level list = (Extension.outlineAll (level + 1) list).flatMap block := by
  match list with
  | [] => rfl
  | e :: rest =>
    rw [extensionLinesOfAll,linesFrom_eq level e,linesOfAll_eq level rest]
    simp [Extension.outlineAll]

end

theorem extensionLines_eq (listing : Extension) :
    extensionLines listing =
      if listing.extensions = [] then ["No extensions available for " ++ listing.product.text]
      else listing.outline.flatMap block := by
  match listing with
  | ⟨_,[]⟩ => rfl
  | ⟨_,e :: rest⟩ => exact linesOfAll_eq 0 (e :: rest)

-- The line that stands alone is shown for nothing else: the lines of an extension are never one.
theorem extensionLines_alone (listing : Extension) :
    (extensionLines listing).length = 1 ↔ listing.extensions = [] := by
  match listing with
  | ⟨_,[]⟩ => exact iff_of_true rfl rfl
  | ⟨_,e :: rest⟩ =>
    refine iff_of_false ?_ (List.cons_ne_nil e rest)
    rw [extensionLines_eq,if_neg (List.cons_ne_nil e rest)]
    simp [Extension.outline,Extension.outlineFrom,Extension.outlineAll,block]

-- The listing of a tree beside the walk through it, and the lines that are shown for it.
structure ListsAs (tree : Product) (result : Result Extension) : Prop where
  succeeds_iff : (∃ listing, result = .ok listing) ↔ ∃ products, tree.flatten = .ok products
  fails_iff : ∀ error, result = .error error ↔ tree.flatten = .error error
  inOrder : ∀ listing products, result = .ok listing → tree.flatten = .ok products →
    listing.outline.map (·.2.product) = products.map Product.triplet
  rendered : ∀ listing, result = .ok listing → tree.extensions ≠ [] →
    extensionLines listing = listing.outline.flatMap block
  none_iff : ∀ listing, result = .ok listing →
    (extensionLines listing = ["No extensions available for " ++ tree.tripletText] ↔ tree.extensions = [])

theorem listsAs_list (activated : TextSet) (tree : Product) :
    ListsAs tree (Extension.list activated tree.tripletText depthLimit tree) := by
  rw [Extension.list_eq]
  by_cases low : tree.height ≤ depthLimit
  · have flat : tree.flatten = .ok tree.descendants := by rw [Product.flatten_eq,if_pos low]
    rw [if_pos low]
    refine ⟨iff_of_true ⟨_,rfl⟩ ⟨_,flat⟩,fun error => by simp [flat],?_,?_,?_⟩
    · rintro _ products ⟨⟩ walked
      cases flat.symm.trans walked
      exact Extension.outline_products tree
    · rintro _ ⟨⟩ some
      rw [extensionLines_eq,if_neg (mt (Extension.listed_extensions_eq_nil tree).mp some)]
    · rintro _ ⟨⟩
      rw [← @Extension.listed_extensions_eq_nil activated tree]
      constructor
      · intro alone
        exact (extensionLines_alone _).mp (by rw [alone]; rfl)
      · intro bare
        rw [extensionLines_eq,if_pos bare,Extension.toExtensionFacts_listed]
        rfl
  · have stopped : tree.flatten = .error (.treeTooDeep tree.tripletText depthLimit) := by
      rw [Product.flatten_eq,if_neg low]
    rw [if_neg low]
    exact ⟨iff_of_false (by simp) (by simp [stopped]),fun error => by simp [stopped],nofun,nofun,nofun⟩

theorem extensionTree_listsAs {result : Result Extension} {base tree : Product} (ran : Ran extensionTree events result)
    (fetched : ⟨.server (.productTree base),.ok tree⟩ ∈ events) : ListsAs tree result := by
  obtain ⟨activations,_,rfl⟩ := (listsTree_of_ran ran).result_eq fetched
  exact listsAs_list _ tree

theorem desktopTree_listsAs :
    let world := activating [activationOf "Python" "" python154] [server154] desktopTree
    let ran := Program.play world [] extensionTree.run
    ⟨.server (.productTree server154),.ok desktopTree⟩ ∈ ran.1 ∧ ListsAs desktopTree ran.2 := by
  intro world ran
  have fetched : ⟨.server (.productTree server154),.ok desktopTree⟩ ∈ ran.1 := .tail _ (.tail _ (.tail _ (.head _)))
  exact ⟨fetched,extensionTree_listsAs (Program.runs_play world [] extensionTree.run) fetched⟩

end Entitlement.CommandLine
