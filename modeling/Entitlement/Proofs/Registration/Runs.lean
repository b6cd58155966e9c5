import Entitlement.Proofs.Actions
import Entitlement.Registration.Collaboration

-- The runs of a step of a registration. Each law says what a step asks, in which order, and what it does with
-- each answer; what a larger step does is read off from these.
namespace Entitlement.Registration

abbrev Event := Program.Event collaboration

-- The type of a reply depends on the call, which is found first.
theorem ran_server {call : ServerCall} {result : Result call.Reply} :
    @Ran collaboration Error (no_index call.Reply) (server call) events result ↔ events = [⟨.server call,result⟩] :=
  Program.runs_question

theorem ran_packages {call : PackageCall} {result : Result call.Reply} :
    @Ran collaboration Error (no_index call.Reply) (packages call) events result ↔ events = [⟨.packages call,result⟩] :=
  Program.runs_question

theorem ran_store {call : StoreCall} {result : Result call.Reply} :
    @Ran collaboration Error (no_index call.Reply) (store call) events result ↔ events = [⟨.store call,result⟩] :=
  Program.runs_question

theorem ran_ask {q : Question} {result : Result q.Answer} :
    @Ran collaboration Error (no_index q.Answer) (ask q) events result ↔
      ∃ answer, events = [⟨q,answer⟩] ∧ result = .ok answer := by
  refine Program.runs_bind.trans ⟨?_,?_⟩
  · rintro ⟨first,answer,second,rfl,before,after⟩
    obtain ⟨rfl,rfl⟩ := Program.runs_done.mp after
    exact ⟨answer,by simpa using Program.runs_question.mp before,rfl⟩
  · rintro ⟨answer,rfl,rfl⟩
    exact ⟨_,answer,[],rfl,Program.runs_question.mpr rfl,.done⟩

theorem ran_server_bind {call : ServerCall} {next : call.Reply → Action β} :
    Ran (@bind Action _ (no_index call.Reply) β (server call) next) events result ↔
      (∃ error, events = [⟨.server call,.error error⟩] ∧ result = .error error) ∨
      ∃ reply rest, events = ⟨.server call,.ok reply⟩ :: rest ∧ Ran (next reply) rest result :=
  ran_call_bind ran_server

theorem ran_packages_bind {call : PackageCall} {next : call.Reply → Action β} :
    Ran (@bind Action _ (no_index call.Reply) β (packages call) next) events result ↔
      (∃ error, events = [⟨.packages call,.error error⟩] ∧ result = .error error) ∨
      ∃ reply rest, events = ⟨.packages call,.ok reply⟩ :: rest ∧ Ran (next reply) rest result :=
  ran_call_bind ran_packages

theorem ran_ask_bind {q : Question} {next : q.Answer → Action β} :
    Ran (@bind Action _ (no_index q.Answer) β (ask q) next) events result ↔
      ∃ answer rest, events = ⟨q,answer⟩ :: rest ∧ Ran (next answer) rest result := by
  simp only [ran_bind,ran_ask]
  constructor
  · rintro (⟨_,⟨_,_,impossible⟩,_⟩ | ⟨_,answer,rest,rfl,⟨_,rfl,same⟩,after⟩)
    · cases impossible
    · cases same; exact ⟨answer,rest,rfl,after⟩
  · rintro ⟨answer,rest,rfl,after⟩; exact .inr ⟨_,answer,rest,rfl,⟨answer,rfl,rfl⟩,after⟩

-- Reports and guards.

theorem ran_report {level : Level} {text : String} {result : Result Unit} :
    Ran (ask (.report level text)) events result ↔ events = [⟨.report level text,()⟩] ∧ result = .ok () := by
  rw [ran_ask]
  constructor
  · rintro ⟨⟨⟩,rfl,rfl⟩; exact ⟨rfl,rfl⟩
  · rintro ⟨rfl,rfl⟩; exact ⟨(),rfl,rfl⟩

theorem ran_report_bind {level : Level} {text : String} {next : Unit → Action α} :
    Ran (ask (.report level text) >>= next) events result ↔
      ∃ rest, events = ⟨.report level text,()⟩ :: rest ∧ Ran (next ()) rest result := by
  rw [ran_ask_bind]
  constructor
  · rintro ⟨⟨⟩,rest,rfl,later⟩; exact ⟨rest,rfl,later⟩
  · rintro ⟨rest,rfl,later⟩; exact ⟨(),rest,rfl,later⟩

theorem ran_warn {text : String} :
    Ran (warn text) events result ↔ events = [⟨.report .warn text,()⟩] ∧ result = .ok () := ran_report

theorem ran_info_bind {text : String} {next : Unit → Action α} :
    Ran (info text >>= next) events result ↔
      ∃ rest, events = ⟨.report .info text,()⟩ :: rest ∧ Ran (next ()) rest result := ran_report_bind

theorem ran_warn_bind {text : String} {next : Unit → Action α} :
    Ran (warn text >>= next) events result ↔
      ∃ rest, events = ⟨.report .warn text,()⟩ :: rest ∧ Ran (next ()) rest result := ran_report_bind

theorem ran_requireRegistration_bind {next : Unit → Action α} :
    Ran (requireRegistration >>= next) events result ↔
      (events = [⟨.hasSystemCredentials,false⟩] ∧ result = .error .systemNotRegistered) ∨
      ∃ rest, events = ⟨.hasSystemCredentials,true⟩ :: rest ∧ Ran (next ()) rest result := by
  simp only [requireRegistration,isRegistered,bind_assoc,ran_ask_bind]
  constructor
  · rintro ⟨registered,rest,rfl,later⟩
    cases registered with
    | true => exact .inr ⟨rest,rfl,later⟩
    | false =>
      obtain ⟨rfl,rfl⟩ := ran_throw.mp later
      exact .inl ⟨rfl,rfl⟩
  · rintro (⟨rfl,rfl⟩ | ⟨rest,rfl,later⟩)
    · exact ⟨false,[],rfl,ran_throw.mpr ⟨rfl,rfl⟩⟩
    · exact ⟨true,rest,rfl,later⟩

theorem ran_baseProduct {result : Result Product} :
    Ran baseProduct events result ↔
      (∃ error, events = [⟨.packages .installedProducts,.error error⟩] ∧ result = .error error) ∨
      ∃ installed, events = [⟨.packages .installedProducts,.ok installed⟩] ∧
        result = (findBase installed).elim (.error .cannotDetectBaseProduct) .ok := by
  simp only [baseProduct,ran_packages_bind]
  refine or_congr Iff.rfl (exists_congr fun installed => ?_)
  cases findBase installed with
  | none =>
    constructor
    · rintro ⟨_,rfl,later⟩; obtain ⟨rfl,rfl⟩ := ran_throw.mp later; exact ⟨rfl,rfl⟩
    · rintro ⟨rfl,rfl⟩; exact ⟨[],rfl,ran_throw.mpr ⟨rfl,rfl⟩⟩
  | some base =>
    constructor
    · rintro ⟨_,rfl,later⟩; obtain ⟨rfl,rfl⟩ := ran_pure.mp later; exact ⟨rfl,rfl⟩
    · rintro ⟨rfl,rfl⟩; exact ⟨[],rfl,ran_pure.mpr ⟨rfl,rfl⟩⟩

theorem ran_baseProduct_ok :
    Ran baseProduct events (.ok base) ↔
      ∃ installed, events = [⟨.packages .installedProducts,.ok installed⟩] ∧ findBase installed = some base := by
  rw [ran_baseProduct]
  constructor
  · intro ran
    rcases ran with ⟨_,_,impossible⟩ | ⟨installed,rfl,same⟩
    · cases impossible
    refine ⟨installed,rfl,?_⟩
    cases found : findBase installed with
    | none => rw [found] at same; cases same
    | some other => rw [found] at same; cases same; rfl
  · intro found
    obtain ⟨installed,rfl,found⟩ := found
    exact .inr ⟨installed,rfl,by rw [found]; rfl⟩

theorem ran_baseProduct_error :
    Ran baseProduct events (.error error) ↔ events = [⟨.packages .installedProducts,.error error⟩] ∨
      ∃ installed, events = [⟨.packages .installedProducts,.ok installed⟩] ∧ findBase installed = none ∧
        error = .cannotDetectBaseProduct := by
  rw [ran_baseProduct]
  refine or_congr ?_ (exists_congr fun installed => and_congr_right fun _ => ?_)
  · constructor
    · intro ran
      obtain ⟨_,rfl,same⟩ := ran
      cases same
      rfl
    · intro asked
      exact ⟨error,asked,rfl⟩
  · cases findBase installed with
    | none => simp
    | some base => simp

theorem asks_server {call : ServerCall} (fits : allowed (.server call)) : Asks allowed (server call) :=
  asks_call ran_server fun _ => fits

theorem asks_packages {call : PackageCall} (fits : allowed (.packages call)) : Asks allowed (packages call) :=
  asks_call ran_packages fun _ => fits

theorem asks_store {call : StoreCall} (fits : allowed (.store call)) : Asks allowed (store call) :=
  asks_call ran_store fun _ => fits

theorem asks_ask {q : Question} (fits : allowed q) : Asks allowed (ask q) := by
  intro events result ran event member
  obtain ⟨answer,rfl,_⟩ := ran_ask.mp ran
  rw [List.mem_singleton] at member
  rw [member]; exact fits

theorem asks_requireRegistration (fits : allowed .hasSystemCredentials) : Asks allowed requireRegistration := by
  refine asks_bind (asks_ask fits) fun registered => ?_
  split
  · exact asks_pure
  · exact asks_throw

theorem asks_baseProduct (fits : allowed (.packages .installedProducts)) : Asks allowed baseProduct := by
  refine asks_bind (asks_packages fits) fun installed => ?_
  split
  · exact asks_pure
  · exact asks_throw

-- The trees that calls are answered with.

section Trees

variable {product tree : Product}

def fetch (product : Product) (reply : Result Product) : Event := ⟨.server (.productTree product),reply⟩

def treeOf : Event → Option Product
  | ⟨.server (.productTree _),.ok tree⟩ => some tree
  | _ => none

def Treeless (events : List Event) : Prop := events.filterMap treeOf = []

-- The tree of a product is fetched, and no other.
def Fetched (product tree : Product) (events : List Event) : Prop :=
  fetch product (.ok tree) ∈ events ∧ events.filterMap treeOf = [tree]

theorem Treeless.append {first second : List Event} (before : Treeless first) (after : Treeless second) :
    Treeless (first ++ second) := by
  rw [Treeless,List.filterMap_append,before,after]
  rfl

theorem Fetched.around {row later : List Event} (before : Treeless row) (after : Treeless later) :
    Fetched product tree (row ++ fetch product (.ok tree) :: later) := by
  refine ⟨by simp,?_⟩
  rw [List.filterMap_append,before]
  exact congrArg (tree :: ·) after

theorem Fetched.after {first row : List Event} (fetched : Fetched product tree row) (before : Treeless first) :
    Fetched product tree (first ++ row) := by
  obtain ⟨member,only⟩ := fetched
  refine ⟨by simp [member],?_⟩
  rw [List.filterMap_append,before,only]
  rfl

theorem Fetched.before {row last : List Event} (fetched : Fetched product tree row) (after : Treeless last) :
    Fetched product tree (row ++ last) := by
  obtain ⟨member,only⟩ := fetched
  refine ⟨by simp [member],?_⟩
  rw [List.filterMap_append,only,after]
  rfl

theorem Fetched.not_treeless (fetched : Fetched product tree events) : ¬ Treeless events := by
  intro treeless
  rw [Treeless,fetched.2] at treeless
  cases treeless

end Trees

end Entitlement.Registration
