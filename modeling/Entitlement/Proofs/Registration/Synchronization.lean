import Mathlib.Data.List.Nodup
import Entitlement.Proofs.Registration.Upgrades

-- What the server is told of a system that is migrated: the products that it will have. Products are matched by their
-- names. A product of the path stands in the place of the installed one of its name, and one whose name is new comes last.
namespace Entitlement

namespace MigrationPath

-- The product that a product is replaced by.
def substitute (path : MigrationPath) (p : Product) : Product :=
  (path.find? fun target => target.name == p.name).getD p

-- What is listed, by names and then by whole products. Where two products of the path have one name, the first stands for
-- both; where they have not, nothing of an installed product of such a name is left.
structure ReachesTarget (installed : List Product) (path : MigrationPath) (listed : List Product) : Prop where
  names : ∀ name, name ∈ listed.map (·.name) ↔ name ∈ installed.map (·.name) ∨ name ∈ path.map (·.name)
  ordered : (listed.take installed.length).map (·.name) = installed.map (·.name)
  targeted : ∀ p ∈ listed, p.name ∈ path.map (·.name) → p ∈ path ∧ p.triplet ∈ path.map Product.triplet
  exactly : (path.map (·.name)).Nodup →
    (∀ t, t ∈ listed.map Product.triplet ↔
      t ∈ path.map Product.triplet ∨ ∃ p ∈ installed, p.name ∉ path.map (·.name) ∧ p.triplet = t) ∧
    (∀ p ∈ path, p ∈ listed) ∧ ∀ p ∈ installed, p.name ∉ path.map (·.name) → p ∈ listed
  once : (path.map (·.name)).Nodup → (installed.map (·.name)).Nodup → (listed.map Product.triplet).Nodup

section Substitution

variable {path : MigrationPath} {installed : List Product} {p : Product}

theorem applyTo_eq (installed : List Product) (path : MigrationPath) :
    applyTo installed path =
      installed.map (substitute path) ++ path.filter fun target => !installed.any fun p => p.name == target.name := rfl

theorem substitute_cases (path : MigrationPath) (p : Product) :
    (substitute path p ∈ path ∧ (substitute path p).name = p.name) ∨
      (substitute path p = p ∧ p.name ∉ path.map (·.name)) := by
  unfold substitute
  cases found : path.find? fun target => target.name == p.name with
  | some target =>
    have named : target.name = p.name := by simpa using List.find?_some found
    exact .inl ⟨List.mem_of_find?_eq_some found,named⟩
  | none =>
    rw [List.find?_eq_none] at found
    refine .inr ⟨rfl,?_⟩
    intro member
    obtain ⟨target,among,named⟩ := List.mem_map.mp member
    exact found target among (by simpa using named)

theorem substitute_name (path : MigrationPath) (p : Product) : (substitute path p).name = p.name := by
  rcases substitute_cases path p with ⟨_,named⟩ | ⟨same,_⟩
  · exact named
  · rw [same]

theorem substitute_eq_self (new : p.name ∉ path.map (·.name)) : substitute path p = p := by
  rcases substitute_cases path p with ⟨member,named⟩ | ⟨same,_⟩
  · exact absurd (named ▸ List.mem_map_of_mem member) new
  · exact same

-- Where no two products of the path have one name, the name tells the product.
theorem substitute_of_mem {target : Product} (distinct : (path.map (·.name)).Nodup) (member : target ∈ path)
    (named : p.name = target.name) : substitute path p = target := by
  rcases substitute_cases path p with ⟨among,same⟩ | ⟨_,new⟩
  · exact List.inj_on_of_nodup_map distinct among member (same.trans named)
  · exact absurd (named ▸ List.mem_map_of_mem member) new

theorem map_substitute_name (installed : List Product) (path : MigrationPath) :
    (installed.map (substitute path)).map (·.name) = installed.map (·.name) := by
  rw [List.map_map]
  exact List.map_congr_left fun p _ => substitute_name path p

theorem mem_added : p ∈ path.filter (fun target => !installed.any fun old => old.name == target.name) ↔
    p ∈ path ∧ p.name ∉ installed.map (·.name) := by
  rw [List.mem_filter,Bool.not_eq_true',List.any_eq_false,List.mem_map,not_exists]
  refine and_congr_right fun _ => forall_congr' fun old => ?_
  rw [not_and,beq_iff_eq]

theorem mem_applyTo : p ∈ applyTo installed path ↔
    (∃ old ∈ installed, substitute path old = p) ∨ p ∈ path ∧ p.name ∉ installed.map (·.name) := by
  rw [applyTo_eq,List.mem_append,List.mem_map,mem_added]

theorem mem_names_applyTo {name : String} : name ∈ (applyTo installed path).map (·.name) ↔
    name ∈ installed.map (·.name) ∨ name ∈ path.map (·.name) := by
  rw [applyTo_eq,List.map_append,List.mem_append,map_substitute_name]
  constructor
  · intro member
    rcases member with kept | added
    · exact .inl kept
    · obtain ⟨p,among,rfl⟩ := List.mem_map.mp added
      exact .inr (List.mem_map_of_mem (mem_added.mp among).1)
  · intro member
    by_cases known : name ∈ installed.map (·.name)
    · exact .inl known
    · obtain ⟨p,among,rfl⟩ := List.mem_map.mp (member.resolve_left known)
      exact .inr (List.mem_map_of_mem (mem_added.mpr ⟨among,known⟩))

theorem mem_path_of_listed (listed : p ∈ applyTo installed path) (named : p.name ∈ path.map (·.name)) : p ∈ path := by
  rcases mem_applyTo.mp listed with ⟨old,_,rfl⟩ | ⟨among,_⟩
  · rcases substitute_cases path old with ⟨among,_⟩ | ⟨same,new⟩
    · exact among
    · rw [same] at named
      exact absurd named new
  · exact among

theorem listed_of_mem_path (distinct : (path.map (·.name)).Nodup) (member : p ∈ path) : p ∈ applyTo installed path := by
  rw [mem_applyTo]
  by_cases known : p.name ∈ installed.map (·.name)
  · obtain ⟨old,among,named⟩ := List.mem_map.mp known
    exact .inl ⟨old,among,substitute_of_mem distinct member named⟩
  · exact .inr ⟨member,known⟩

theorem listed_of_installed (member : p ∈ installed) (new : p.name ∉ path.map (·.name)) : p ∈ applyTo installed path :=
  mem_applyTo.mpr (.inl ⟨p,member,substitute_eq_self new⟩)

theorem installed_of_listed (listed : p ∈ applyTo installed path) (new : p.name ∉ path.map (·.name)) : p ∈ installed := by
  rcases mem_applyTo.mp listed with ⟨old,among,rfl⟩ | ⟨among,_⟩
  · rw [substitute_name] at new
    rwa [substitute_eq_self new]
  · exact absurd (List.mem_map_of_mem among) new

theorem nodup_names_applyTo (pathDistinct : (path.map (·.name)).Nodup)
    (installedDistinct : (installed.map (·.name)).Nodup) : ((applyTo installed path).map (·.name)).Nodup := by
  rw [applyTo_eq,List.map_append,map_substitute_name]
  refine List.Nodup.append installedDistinct (pathDistinct.sublist (List.filter_sublist.map _)) ?_
  intro name known added
  obtain ⟨p,among,rfl⟩ := List.mem_map.mp added
  exact (mem_added.mp among).2 known

end Substitution

theorem applyTo_reachesTarget (installed : List Product) (path : MigrationPath) :
    ReachesTarget installed path (applyTo installed path) where
  names _ := mem_names_applyTo
  ordered := by
    rw [applyTo_eq,List.take_left' (List.length_map _),map_substitute_name]
  targeted p listed named := by
    have member := mem_path_of_listed listed named
    exact ⟨member,List.mem_map_of_mem member⟩
  exactly distinct := by
    refine ⟨?_,fun p => listed_of_mem_path distinct,fun p => listed_of_installed⟩
    intro t
    constructor
    · intro member
      obtain ⟨p,listed,rfl⟩ := List.mem_map.mp member
      by_cases named : p.name ∈ path.map (·.name)
      · exact .inl (List.mem_map_of_mem (mem_path_of_listed listed named))
      · exact .inr ⟨p,installed_of_listed listed named,named,rfl⟩
    · intro member
      rcases member with given | ⟨p,among,new,rfl⟩
      · obtain ⟨p,among,rfl⟩ := List.mem_map.mp given
        exact List.mem_map_of_mem (listed_of_mem_path distinct among)
      · exact List.mem_map_of_mem (listed_of_installed among new)
  once pathDistinct installedDistinct := by
    have names := nodup_names_applyTo pathDistinct installedDistinct
    have split : (applyTo installed path).map (·.name) = ((applyTo installed path).map Product.triplet).map (·.name) := by
      rw [List.map_map]
      rfl
    rw [split] at names
    exact List.Nodup.of_map _ names

end MigrationPath

namespace Registration

-- The server is told once, of the products that were installed when the migration began.
theorem Migrates.synchronized {path : MigrationPath} {result : Result String} (migrates : Migrates path events result) :
    requests synchronizeOf events = [] ∨ ∃ installed rest, events = migrationOpens installed ++ rest ∧
      requests synchronizeOf events = [MigrationPath.applyTo installed path] := by
  have told {installed : List Product} {upgrading closing : List Event} {reply : Result (List Product)} {values : List Unit}
      (gathers : Gathers upgradeProduct path upgrading values) (silent : requests synchronizeOf closing = []) :
      requests synchronizeOf (migrationOpens installed ++ (upgrading ++ synchronization installed path reply :: closing)) =
        [MigrationPath.applyTo installed path] := by
    rw [requests_append,requests_append,(requests_upgrades gathers).2.1]
    exact congrArg (MigrationPath.applyTo installed path :: ·) silent
  cases migrates with
  | unregistered => exact .inl rfl
  | unlisted => exact .inl rfl
  | @stopped upgrading _ _ breaks =>
    obtain ⟨_,_,_,_,_,_,_,silent,_⟩ := upgrades_halt breaks
    exact .inl silent
  | refused gathers => exact .inr ⟨_,_,rfl,told gathers rfl⟩
  | unpinned gathers => exact .inr ⟨_,_,rfl,told gathers rfl⟩
  | finished gathers =>
    refine .inr ⟨_,_,rfl,told gathers ?_⟩
    rw [requests_of_local synchronizeOf_of_local,requests_pinning.1]
    rfl

theorem synchronized_reachesTarget (path : MigrationPath) :
    (∀ installed, MigrationPath.ReachesTarget installed path (MigrationPath.applyTo installed path)) ∧
    ∀ events result, Ran (migrateSystem path) events result → ∀ listed ∈ requests synchronizeOf events,
      ∃ installed rest, events = migrationOpens installed ++ rest ∧ MigrationPath.ReachesTarget installed path listed := by
  refine ⟨fun installed => MigrationPath.applyTo_reachesTarget installed path,?_⟩
  intro events result ran listed member
  rcases (migrates_of_ran ran).synchronized with silent | ⟨installed,rest,opens,told⟩
  · rw [silent] at member
    exact absurd member List.not_mem_nil
  · rw [told,List.mem_singleton] at member
    rw [member]
    exact ⟨installed,rest,opens,MigrationPath.applyTo_reachesTarget installed path⟩

-- A server with a product of its own, which is brought to another version and becomes a desktop besides.

def server153 : Product := { server154 with version := "15.3" }

def tool : Product := { Product.blank with name := "tool", version := "7", arch := "noarch" }

theorem server_synchronized :
    let ran := Program.play (obliging true [server153,tool] server153) [] (migrateSystem [desktop154,server154]).run
    requests synchronizeOf ran.1 = [[server154,tool,desktop154]] ∧
      ([desktop154,server154].map (·.name)).Nodup ∧ ([server153,tool].map (·.name)).Nodup ∧
      ∃ installed rest, ran.1 = migrationOpens installed ++ rest ∧
        MigrationPath.ReachesTarget installed [desktop154,server154] [server154,tool,desktop154] := by
  intro ran
  have told : requests synchronizeOf ran.1 = [[server154,tool,desktop154]] := rfl
  have running := Program.runs_play (obliging true [server153,tool] server153) [] (migrateSystem [desktop154,server154]).run
  refine ⟨told,by decide,by decide,?_⟩
  apply (synchronized_reachesTarget [desktop154,server154]).2 ran.1 ran.2 running
  rw [told]
  exact List.mem_singleton_self _

end Registration
end Entitlement
