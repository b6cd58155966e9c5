import Entitlement.Proofs.Registration.Deregister
import Entitlement.Proofs.Registration.Failures
import Entitlement.Proofs.Text.Split

-- Which services a cleanup removes. It looks for the address of the server anywhere in the address of a service, so it
-- takes along the services of others that only mention it.
namespace Entitlement.Registration

variable {settings : Settings} {server url : String} {services cleared : List InstalledService}

def Mentions (server url : String) : Prop := server.toList <:+: url.toList

-- What can follow an address within a longer one of the same host.
def EndsHost : List Char → Prop
  | [] => True
  | c :: _ => c = '/' ∨ c = '?' ∨ c = '#'

instance : DecidablePred EndsHost
  | [] => isTrue trivial
  | c :: _ => inferInstanceAs (Decidable (c = '/' ∨ c = '?' ∨ c = '#'))

def PointsAt (server url : String) : Prop := ∃ rest, url.toList = server.toList ++ rest ∧ EndsHost rest

theorem occurs_iff : Text.occurs server url = true ↔ Mentions server url := Text.contains_iff

instance : Decidable (Mentions server url) := decidable_of_iff _ occurs_iff

theorem pointsAt_iff : PointsAt server url ↔
    server.toList <+: url.toList ∧ EndsHost (url.toList.drop server.toList.length) := by
  constructor
  · rintro ⟨rest,same,ends⟩
    rw [same,List.drop_left]
    exact ⟨List.prefix_append _ _,ends⟩
  · rintro ⟨⟨rest,same⟩,ends⟩
    rw [← same,List.drop_left] at ends
    exact ⟨rest,same.symm,ends⟩

instance : Decidable (PointsAt server url) := decidable_of_iff _ pointsAt_iff.symm

theorem PointsAt.mentions (points : PointsAt server url) : Mentions server url :=
  (pointsAt_iff.mp points).1.isInfix

theorem mentions_empty : Mentions "" url := List.nil_infix

-- The removal of services, one after the other up to one that fails.

def uninstallOf : Question → Option String
  | .packages (.removeService name) => some name
  | _ => none

def forgetOf : Question → Option String
  | .store (.removeService name) => some name
  | _ => none

-- The services of a list up to one whose removal fails, in the order of the list.
structure Sweeps (services cleared : List InstalledService) (events : List Event) (result : Result Unit) : Prop where
  begins : cleared <+: services
  uninstalled : requests uninstallOf events = cleared.map (·.name)
  forgotten : requests forgetOf events <+: cleared.map (·.name)
  through : result = .ok () → cleared = services ∧ requests forgetOf events = cleared.map (·.name)

theorem requests_removeServer {s : InstalledService} {note : String} {result : Result Unit}
    (ran : Ran (debug note >>= fun _ => removeService s.name) events result) :
    requests uninstallOf events = [s.name] ∧
      (requests forgetOf events = [s.name] ∨ requests forgetOf events = [] ∧ result ≠ .ok ()) := by
  obtain ⟨_,rfl,removing⟩ := ran_report_bind.mp ran
  rcases ran_packages_bind.mp removing with ⟨error,rfl,rfl⟩ | ⟨_,_,rfl,stored⟩
  · exact ⟨rfl,.inr ⟨rfl,nofun⟩⟩
  · cases ran_store.mp stored
    exact ⟨rfl,.inl rfl⟩

theorem sweeps_removeServices {result : Result Unit} (ran : Ran (removeServices services) events result) :
    ∃ cleared, Sweeps services cleared events result := by
  induction services generalizing events with
  | nil =>
    obtain ⟨rfl,rfl⟩ := ran_pure.mp ran
    exact ⟨[],List.prefix_rfl,rfl,List.prefix_rfl,fun _ => ⟨rfl,rfl⟩⟩
  | cons s rest ih =>
    rcases ran_bind.mp ran with ⟨error,failed,rfl⟩ | ⟨first,_,second,rfl,removed,later⟩
    · obtain ⟨uninstalled,forgotten⟩ := requests_removeServer failed
      refine ⟨[s],⟨rest,rfl⟩,uninstalled,?_,nofun⟩
      rcases forgotten with same | ⟨none,_⟩
      · exact same ▸ List.prefix_rfl
      · exact none ▸ List.nil_prefix
    · obtain ⟨uninstalled,forgotten⟩ := requests_removeServer removed
      have same : requests forgetOf first = [s.name] := forgotten.resolve_right fun failed => failed.2 rfl
      obtain ⟨cleared,sweeps⟩ := ih later
      refine ⟨s :: cleared,List.cons_prefix_cons.mpr ⟨rfl,sweeps.begins⟩,?_,?_,fun ok => ?_⟩
      · rw [requests_append,uninstalled,sweeps.uninstalled]
        rfl
      · rw [requests_append,same]
        exact List.cons_prefix_cons.mpr ⟨rfl,sweeps.forgotten⟩
      · obtain ⟨all,forgot⟩ := sweeps.through ok
        rw [requests_append,same,forgot,all]
        exact ⟨rfl,rfl⟩

-- The services of a list that mention the server.
def mentioning (settings : Settings) (services : List InstalledService) : List InstalledService :=
  services.filter fun s => Mentions settings.baseUrl s.url

theorem filter_isServerService : services.filter (isServerService settings) = mentioning settings services := by
  refine List.filter_congr fun s _ => ?_
  rw [Bool.eq_iff_iff,isServerService,occurs_iff,decide_eq_true_iff]

-- What a cleanup does to the installed services. It spares the services of others exactly where none of them mentions
-- the server, and without an address of the server it spares none.
structure Clears (settings : Settings) (services cleared : List InstalledService) (events : List Event) : Prop where
  begins : cleared <+: mentioning settings services
  uninstalled : requests uninstallOf events = cleared.map (·.name)
  forgotten : requests forgetOf events <+: cleared.map (·.name)
  through : RemovalsSucceed events →
    cleared = mentioning settings services ∧ requests forgetOf events = cleared.map (·.name)
  found : RemovalsSucceed events → ∀ s ∈ services, PointsAt settings.baseUrl s.url → s ∈ cleared
  spares : (∀ s ∈ services, Mentions settings.baseUrl s.url → PointsAt settings.baseUrl s.url) →
    ∀ s ∈ cleared, PointsAt settings.baseUrl s.url
  spares_iff : RemovalsSucceed events → ((∀ s ∈ cleared, PointsAt settings.baseUrl s.url) ↔
    ∀ s ∈ services, Mentions settings.baseUrl s.url → PointsAt settings.baseUrl s.url)
  everything : RemovalsSucceed events → settings.baseUrl = "" → cleared = services

theorem mem_mentioning {s : InstalledService} :
    s ∈ mentioning settings services ↔ s ∈ services ∧ Mentions settings.baseUrl s.url := by
  simp [mentioning]

theorem Sweeps.clears {result : Result Unit} (sweeps : Sweeps (mentioning settings services) cleared events result)
    (tells : result = .ok () ↔ RemovalsSucceed events) : Clears settings services cleared events where
  begins := sweeps.begins
  uninstalled := sweeps.uninstalled
  forgotten := sweeps.forgotten
  through succeed := sweeps.through (tells.mpr succeed)
  found succeed s installed points := by
    rw [(sweeps.through (tells.mpr succeed)).1,mem_mentioning]
    exact ⟨installed,points.mentions⟩
  spares own s removed := by
    obtain ⟨installed,mentions⟩ := mem_mentioning.mp (sweeps.begins.subset removed)
    exact own s installed mentions
  spares_iff succeed := by
    rw [(sweeps.through (tells.mpr succeed)).1]
    simp only [mem_mentioning,and_imp]
  everything succeed bare := by
    rw [(sweeps.through (tells.mpr succeed)).1,mentioning,List.filter_eq_self]
    intro s _
    rw [bare]
    exact decide_eq_true mentions_empty

-- The credentials of the system are removed after the services.
theorem Sweeps.leave {result : Result Unit} (sweeps : Sweeps services cleared events result) (reply : Result Unit) :
    Sweeps services cleared (events ++ [⟨.store .removeSystem,reply⟩]) result := by
  have uninstalls : requests uninstallOf (events ++ [⟨.store .removeSystem,reply⟩]) = requests uninstallOf events := by
    rw [requests_append]
    exact List.append_nil _
  have forgets : requests forgetOf (events ++ [⟨.store .removeSystem,reply⟩]) = requests forgetOf events := by
    rw [requests_append]
    exact List.append_nil _
  refine ⟨sweeps.begins,uninstalls.trans sweeps.uninstalled,?_,?_⟩
  · rw [forgets]
    exact sweeps.forgotten
  · rw [forgets]
    exact sweeps.through

theorem removalsSucceed_leave {reply : Result Unit} :
    RemovalsSucceed (events ++ [⟨.store .removeSystem,reply⟩]) ↔ RemovalsSucceed events := by
  rw [removalsSucceed_append]
  exact and_iff_left (by simp [RemovalsSucceed,removalFails])

theorem eq_ok_iff {result : Result Unit} : result = .ok () ↔ result.isOk = true := by
  cases result <;> simp [Except.isOk,Except.toBool]

theorem cleanup_clears {result : Result Unit} (ran : Ran (cleanup settings) events result) :
    ∃ listed after cleared,
      events = ⟨.report .info "Cleaning up ...",()⟩ :: ⟨.packages .installedServices,listed⟩ :: after ∧
      Clears settings (listed.toOption.getD []) cleared after := by
  obtain ⟨listed,after,rfl,ends⟩ := ran_cleanup.mp ran
  refine ⟨listed,after,?_⟩
  cases listed with
  | error error =>
    obtain ⟨rfl,_⟩ := ends
    have sweeps : Sweeps (mentioning settings []) [] [] (.ok ()) :=
      ⟨List.prefix_rfl,rfl,List.prefix_rfl,fun _ => ⟨rfl,rfl⟩⟩
    exact ⟨[],rfl,sweeps.clears (iff_of_true rfl (by simp [RemovalsSucceed]))⟩
  | ok services =>
    simp only [filter_isServerService] at ends
    rcases ends with ⟨error,failed,_⟩ | ⟨removing,removed,rfl⟩
    · obtain ⟨cleared,sweeps⟩ := sweeps_removeServices failed
      exact ⟨cleared,rfl,sweeps.clears (eq_ok_iff.trans (tells_removeServices _ _ failed))⟩
    · obtain ⟨cleared,sweeps⟩ := sweeps_removeServices removed
      refine ⟨cleared,rfl,(sweeps.leave result).clears ?_⟩
      rw [removalsSucceed_leave]
      exact eq_ok_iff.trans (tells_removeServices _ _ removed)

-- A mirror whose host only starts like that of the server, and a service that hands its address on.

def stocked (services : List InstalledService) : Program.Behaviour collaboration
  | _, .packages .installedServices => .ok services
  | past, q => obliging true [] default past q

def neighbours : List InstalledService :=
  [⟨"mirror","https://scc.suse.com.mirror.example/repo"⟩,⟨"elsewhere","https://mirror.example/?from=https://scc.suse.com/"⟩,
    ⟨"scc","https://scc.suse.com/access/services/1"⟩]

theorem neighbours_cleared :
    let ran := Program.play (stocked neighbours) [] (cleanup {}).run
    ∃ listed after cleared,
      ran.1 = ⟨.report .info "Cleaning up ...",()⟩ :: ⟨.packages .installedServices,listed⟩ :: after ∧
      Clears {} (listed.toOption.getD []) cleared after := by
  intro ran
  exact cleanup_clears (Program.runs_play (stocked neighbours) [] (cleanup {}).run)

theorem strangers_cleared :
    let ran := Program.play (stocked neighbours) [] (cleanup {}).run
    ran.2 = .ok () ∧ requests uninstallOf ran.1 = ["mirror","elsewhere","scc"] ∧
      requests forgetOf ran.1 = ["mirror","elsewhere","scc"] ∧
      ¬ ∀ s ∈ neighbours, s.name ∈ requests uninstallOf ran.1 → PointsAt (Settings.baseUrl {}) s.url := by
  intro ran
  refine ⟨rfl,by decide +kernel,by decide +kernel,by decide +kernel⟩

end Entitlement.Registration
