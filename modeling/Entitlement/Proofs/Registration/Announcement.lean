import Entitlement.Proofs.Registration.Collaborators
import Entitlement.Proofs.Registration.RegisterOrder
import Entitlement.Proofs.Server.Sending

-- The token that comes with the announcement of a system. It comes before there are credentials to keep it with, and
-- the credentials that are written next are those of the login alone.
namespace Entitlement.Registration

open FileSystem

variable {settings : Settings} {options : RegisterOptions} {system : SystemInfo} {c : Collaborators}
  {fs after : FileSystem} {events : List Host.Event}

-- The requests of a registration.

-- The request by which a system is made known. It carries the registration code, and no token.
def Announces (s : Server) (regcode : String) (info : SystemInfo) (request : Http.Request) : Prop :=
  ∃ url, Server.endpoint s.baseUrl Server.announcePath [] = .ok url ∧
    let sent := Server.moveLogin url (Server.commonHeaders s.language ++ Server.regcodeHeaders regcode)
    request = ⟨.post,sent.1,sent.2,some info.toJson.compact⟩

-- The credentials that are read again when the login in a response was written to a file.
def ReadsBack (response : Http.Response) (c : Credentials) : Prop :=
  ∃ login, Login.format.decode response.body = .ok login ∧ Credentials.parse? login.credentials.render = some c

-- What is sent once the file of the system's credentials was written: nothing, or first a request that carries what is
-- read from there.
inductive Resumes (c : Collaborators) (text : String) : List (Http.Exchange × Option Http.Response) → Prop where
  | silent : Resumes c text []
  | carries : Credentials.parse? text = some kept → Server.Carries c.server kept next.request.headers →
      Resumes c text ((next,reply) :: more)

section Resumes

variable {product tree : Product} {release announced : Bool} {place : Location} {text : String} {mode : Nat}

theorem ActivatesAll.resumes {result : Result (List ProductService)} (shared : c.server.store = c.store)
    (course : ActivatesAll settings options release product tree calls result)
    (enacts : Program.Enacts c.answer calls events) (follows : Host.Follows fs events after)
    (holds : Holds fs c.store.systemPath place (Text.encode text) mode) :
    Resumes c text (Server.exchanges events) := by
  obtain ⟨answer,rest,rfl,refusal⟩ := course.opens
  obtain ⟨noting,_,rfl,noted,activating⟩ := Program.enacts_cons.mp enacts
  obtain ⟨_,followsNoting,followsRest⟩ := Host.follows_append.mp follows
  obtain ⟨_,same,quiet⟩ := Host.yields_report _ _ _ noted followsNoting
  obtain rfl := same.symm
  obtain ⟨row,later,rfl,activated,enactsLater⟩ := Program.enacts_cons.mp activating
  obtain ⟨_,followsRow,_⟩ := Host.follows_append.mp followsRest
  rw [Server.exchanges_append,Server.exchanges_quiet quiet,List.nil_append]
  rcases Server.sent_of_ran activated with ⟨silent,error,same⟩ | ⟨before,next,reply,ending,rfl,silent,_,_⟩
  · obtain rfl := refusal error same
    cases enactsLater
    rw [List.append_nil,Server.exchanges_quiet silent]
    exact .silent
  by_cases stored : ∃ kept, CredentialStore.Stores fs c.server.store.systemPath kept
  · obtain ⟨kept,stores⟩ := stored
    have parsed := (CredentialStore.stores_iff_of_holds holds).mp (shared ▸ stores)
    have system : Server.AsSystem (activation options product) := trivial
    have carries := (Server.keeps_perform system _ _ _ _ _ stores activated followsRow).1 before next reply ending rfl
    rw [Server.latest_quiet silent] at carries
    rw [List.append_assoc,List.cons_append,Server.exchanges_single silent]
    exact .carries parsed carries
  · -- What cannot be read cannot be sent.
    obtain ⟨error,unsent⟩ := Server.yields_send_unread fun kept stores => stored ⟨kept,stores⟩
    obtain ⟨_,_,nothing⟩ := Host.yields_stops unsent _ _ _ activated followsRow
    exact absurd rfl (nothing ⟨.exchange next,reply⟩ (by simp) next)

theorem Proceeds.resumes {result : Result RegisterOutcome} (wired : Wired c fs)
    (proceeds : Proceeds settings options release product tree (.ok announced) calls result)
    (enacts : Program.Enacts c.answer calls events) (follows : Host.Follows fs events after)
    (holds : Holds fs c.store.systemPath place (Text.encode text) mode) :
    Resumes c text (Server.exchanges events) := by
  have elsewhere : ∀ path ∈ c.store.registryConfigs, fs.destination path ≠ place := by
    rw [eq_destination_of_locate holds.located]
    exact wired.apart
  cases proceeds with
  | stopped links course =>
    obtain ⟨_,_,rfl,linking,activating⟩ := Program.enacts_append.mp enacts
    obtain ⟨_,followsLinking,followsRest⟩ := Host.follows_append.mp follows
    obtain ⟨quiet,bypasses⟩ := enacts_linking (asks_addRegistryLogin _ _ links) linking elsewhere followsLinking
    rw [Server.exchanges_append,Server.exchanges_quiet quiet]
    exact course.resumes wired.shared activating followsRest (bypasses.holds holds)
  | registered links course =>
    obtain ⟨_,_,rfl,linking,rest⟩ := Program.enacts_append.mp enacts
    obtain ⟨_,_,rfl,activating,closing⟩ := Program.enacts_append.mp rest
    obtain ⟨_,followsLinking,followsRest⟩ := Host.follows_append.mp follows
    obtain ⟨_,followsRow,followsClosing⟩ := Host.follows_append.mp followsRest
    obtain ⟨quiet,bypasses⟩ := enacts_linking (asks_addRegistryLogin _ _ links) linking elsewhere followsLinking
    have noted : ∀ event ∈ [registeredNote], Looks event.question := by simp [registeredNote,Looks]
    obtain ⟨silent,_⟩ := enacts_looking noted closing followsClosing
    rw [Server.exchanges_append,Server.exchanges_append,Server.exchanges_quiet quiet,Server.exchanges_quiet silent,
      List.append_nil]
    exact course.resumes wired.shared activating followsRow (bypasses.holds holds)

end Resumes

-- How the requests of a registration begin where the system is unknown.
inductive Opens (c : Collaborators) (options : RegisterOptions) (system : SystemInfo) :
    List (Http.Exchange × Option Http.Response) → Prop where
  | silent : Opens c options system []
  | announced : Announces c.server options.regcode system announcing.request →
      Opens c options system [(announcing,answer)]
  | activated : Announces c.server options.regcode system announcing.request → ReadsBack response kept →
      Server.Carries c.server kept next.request.headers →
      Opens c options system ((announcing,some response) :: (next,reply) :: more)

theorem announces_of_ran {reply : Result Login}
    (ran : Program.Runs (c.answer (.server (.announce options.regcode system))) events reply) :
    (Host.Quiet events ∧ ∃ error, reply = .error error) ∨
    ∃ announcing answer, Server.exchanges events = [(announcing,answer)] ∧
      Announces c.server options.regcode system announcing.request ∧
      ∀ login, reply = .ok login → ∃ response, answer = some response ∧
        Login.format.decode response.body = .ok login := by
  rcases Server.sent_of_ran ran with fails | ⟨before,announcing,answer,ending,rfl,silent,silentToo,sent⟩
  · exact .inl fails
  obtain ⟨url,headers,reading,address,gathered,request⟩ := sent.request
  obtain ⟨_,same⟩ := ran_pure.mp gathered
  cases same
  refine .inr ⟨announcing,answer,?_,⟨url,address,request⟩,sent.answered⟩
  rw [Server.exchanges_single silent,Server.exchanges_quiet silentToo]

-- A system without credentials is announced.
theorem enacts_introduction {known : Bool} (unknown : ∀ kept, ¬ CredentialStore.Stores fs c.store.systemPath kept)
    (enacts : Program.Enacts c.answer (⟨.hasSystemCredentials,known⟩ :: calls) events)
    (follows : Host.Follows fs events after) :
    known = false ∧ ∃ asking rest, events = asking ++ rest ∧ Host.Quiet asking ∧ Program.Enacts c.answer calls rest ∧
      Host.Follows fs rest after := by
  obtain ⟨asking,rest,rfl,asked,later⟩ := Program.enacts_cons.mp enacts
  obtain ⟨_,followsAsking,followsRest⟩ := Host.follows_append.mp follows
  obtain ⟨answered,rfl,quiet⟩ := CredentialStore.yields_hasSystem unknown _ _ _ asked followsAsking
  exact ⟨answered,asking,rest,rfl,quiet,later,followsRest⟩

theorem Introduces.opens {known release : Bool} {product tree : Product} {made : Result Bool}
    {introducing rest : List Event} {result : Result RegisterOutcome} (wired : Wired c fs)
    (unknown : ∀ kept, ¬ CredentialStore.Stores fs c.store.systemPath kept)
    (introduces : Introduces options system known introducing made)
    (proceeds : Proceeds settings options release product tree made rest result)
    (enacts : Program.Enacts c.answer (introducing ++ rest) events) (follows : Host.Follows fs events after) :
    Opens c options system (Server.exchanges events) := by
  cases introduces with
  | updated reply => cases (enacts_introduction unknown enacts follows).1
  | unannounced =>
    cases proceeds
    obtain ⟨_,asking,_,rfl,quiet,announcing,_⟩ := enacts_introduction unknown enacts follows
    obtain ⟨row,_,rfl,announced,nothing⟩ := Program.enacts_cons.mp announcing
    cases nothing
    rw [Server.exchanges_append,Server.exchanges_quiet quiet,List.append_nil,List.nil_append]
    rcases announces_of_ran announced with ⟨silent,_⟩ | ⟨exchange,answer,sent,announces,_⟩
    · rw [Server.exchanges_quiet silent]
      exact .silent
    · rw [sent]
      exact .announced announces
  | @announced login reply =>
    obtain ⟨_,asking,_,rfl,quiet,announcing,followsRest⟩ := enacts_introduction unknown enacts follows
    obtain ⟨row,_,rfl,announced,writing⟩ := Program.enacts_cons.mp announcing
    obtain ⟨written,later,rfl,wrote,proceeding⟩ := Program.enacts_cons.mp writing
    rcases announces_of_ran announced with ⟨_,_,impossible⟩ | ⟨exchange,answer,sent,announces,yields⟩
    · cases impossible
    obtain ⟨response,rfl,decoded⟩ := yields login rfl
    have silent : Host.Quiet written := Host.quiet_of_edits (CredentialStore.edits_writeSystem _ _ wrote)
    have begins : Server.exchanges (asking ++ (row ++ (written ++ later))) =
        (exchange,some response) :: Server.exchanges later := by
      simp only [Server.exchanges_append,Server.exchanges_quiet quiet,sent,Server.exchanges_quiet silent,
        List.nil_append,List.singleton_append]
    rw [begins]
    cases reply with
    | error error =>
      cases proceeds
      cases proceeding
      exact .announced announces
    | ok value =>
      obtain ⟨_,followsRow,followsWriting⟩ := Host.follows_append.mp followsRest
      obtain ⟨_,followsWritten,followsLater⟩ := Host.follows_append.mp followsWriting
      obtain ⟨place,mode,holds⟩ := CredentialStore.holds_of_writeSystem wrote followsWritten
      have wiredThen := (wired.later followsRow).later followsWritten
      have resumes := proceeds.resumes wiredThen proceeding followsLater holds
      generalize Server.exchanges later = sending at resumes
      cases resumes with
      | silent => exact .announced announces
      | carries parsed carries => exact .activated announces ⟨login,decoded,parsed⟩ carries

theorem register_opens {result : Result RegisterOutcome} (wired : Wired c fs)
    (unknown : ∀ kept, ¬ CredentialStore.Stores fs c.store.systemPath kept)
    (ran : Ran (c.perform (register settings options system)) events result) (follows : Host.Follows fs events after) :
    Opens c options system (Server.exchanges events) := by
  obtain ⟨calls,registering,enacts⟩ := Program.runs_run.mp ran
  rcases ran_register registering with ⟨error,failed,rfl⟩ |
    ⟨looking,product,release,known,introducing,made,tree,rest,rfl,chosen,introduces,proceeds⟩
  · obtain ⟨quiet,_⟩ := enacts_looking (asks_requestedProduct _ _ failed) enacts follows
    rw [Server.exchanges_quiet quiet]
    exact .silent
  have looks : ∀ event ∈ looking ++ [registerNote settings], Looks event.question :=
    List.forall_mem_append.mpr ⟨asks_requestedProduct _ _ chosen,by simp [registerNote,Looks]⟩
  have whole : (looking ++ registerNote settings :: introducing) ++ rest =
      (looking ++ [registerNote settings]) ++ (introducing ++ rest) := by simp
  rw [whole] at enacts
  obtain ⟨_,_,rfl,opening,proceeding⟩ := Program.enacts_append.mp enacts
  obtain ⟨_,followsOpening,followsRest⟩ := Host.follows_append.mp follows
  obtain ⟨quiet,rfl⟩ := enacts_looking looks opening followsOpening
  rw [Server.exchanges_append,Server.exchanges_quiet quiet]
  exact introduces.opens wired unknown proceeds proceeding followsRest

-- What becomes of the token that comes with the announcement. The request after it carries what is read back of the
-- login, whatever token came, and that is none for a login that a file can keep.
structure DropsToken (c : Collaborators) (options : RegisterOptions) (system : SystemInfo)
    (sent : List (Http.Exchange × Option Http.Response)) : Prop where
  announces : ∀ announcing answer more, sent = (announcing,answer) :: more →
    Announces c.server options.regcode system announcing.request
  carries : ∀ announcing answer next reply more, sent = (announcing,answer) :: (next,reply) :: more →
    ∃ response kept, answer = some response ∧ ReadsBack response kept ∧
      Server.Carries c.server kept next.request.headers
  survives_iff : ∀ announcing response next reply more token,
    sent = (announcing,some response) :: (next,reply) :: more → Server.Brings response token →
      (Server.values Server.tokenHeader next.request.headers = [token] ↔
        ∃ kept, ReadsBack response kept ∧ kept.token = some token)
  drops : ∀ announcing response next reply more login, sent = (announcing,some response) :: (next,reply) :: more →
    Login.format.decode response.body = .ok login → Credentials.Kept login.credentials →
      Server.values Server.tokenHeader next.request.headers = []

theorem ReadsBack.unique {response : Http.Response} {one other : Credentials} (first : ReadsBack response one)
    (second : ReadsBack response other) : one = other := by
  obtain ⟨login,decoded,parsed⟩ := first
  obtain ⟨_,again,parsedAgain⟩ := second
  cases decoded.symm.trans again
  exact Option.some.inj (parsed.symm.trans parsedAgain)

theorem Opens.dropsToken {sent : List (Http.Exchange × Option Http.Response)} (opens : Opens c options system sent) :
    DropsToken c options system sent := by
  have carries : ∀ announcing answer next reply more, sent = (announcing,answer) :: (next,reply) :: more →
      ∃ response kept, answer = some response ∧ ReadsBack response kept ∧
        Server.Carries c.server kept next.request.headers := by
    intro announcing answer next reply more same
    cases opens with
    | silent => cases same
    | announced _ => cases same
    | activated _ reads carries =>
      cases same
      exact ⟨_,_,rfl,reads,carries⟩
  constructor
  · intro announcing answer more same
    cases opens with
    | silent => cases same
    | announced announces => cases same; exact announces
    | activated announces _ _ => cases same; exact announces
  · exact carries
  · intro announcing response next reply more token same _
    obtain ⟨_,kept,answered,reads,carried⟩ := carries _ _ _ _ _ same
    cases answered
    rw [carried.token]
    constructor
    · intro single
      exact ⟨kept,reads,Option.toList_eq_singleton_iff.mp single⟩
    · intro survives
      obtain ⟨other,again,held⟩ := survives
      rw [reads.unique again,held]
      rfl
  · intro announcing response next reply more login same decoded kept
    obtain ⟨_,_,answered,reads,carried⟩ := carries _ _ _ _ _ same
    cases answered
    have plain : ReadsBack response login.credentials := ⟨login,decoded,Credentials.parse?_render kept⟩
    rw [carried.token,reads.unique plain]
    rfl

theorem register_dropsToken {result : Result RegisterOutcome} (wired : Wired c fs)
    (unknown : ∀ kept, ¬ CredentialStore.Stores fs c.store.systemPath kept)
    (ran : Ran (c.perform (register settings options system)) events result) (follows : Host.Follows fs events after) :
    DropsToken c options system (Server.exchanges events) := (register_opens wired unknown ran follows).dropsToken

-- A new system, and a server that brings a token with the announcement.

def newcomer : Collaborators :=
  let store : CredentialStore := ⟨"/",["/root/.docker/config.json"]⟩
  ⟨⟨"http://localhost",none,store,.direct⟩,.ofSettings {},store⟩

def welcome : Http.Response where
  status := 201
  headers := [(Server.tokenHeader,Text.encode "fresh")]
  body := Text.encode "\x7b\"login\":\"SCC_1\",\"password\":\"swordfish\"\x7d"

def welcoming : Host.Machine Host.Script where
  files := ⟨[],[]⟩
  environment := []
  accountHome := none
  hardware := default
  input := []
  printed := []
  events := []
  surroundings := ⟨[],(Url.parse newcomer.server.baseUrl).toOption,[some welcome],[]⟩

def requesting : RegisterOptions := { product := some ⟨"SLES","15.4","x86_64"⟩ }

def joining : Host.Action RegisterOutcome := newcomer.perform (register {} requesting default)

def joined : List Host.Event := Host.transcript Host.Script.surroundings joining.run welcoming

theorem wired_newcomer : Wired newcomer welcoming.files := ⟨rfl,by decide +kernel⟩

theorem unknown_newcomer (kept : Credentials) :
    ¬ CredentialStore.Stores welcoming.files newcomer.store.systemPath kept := by
  intro stores
  obtain ⟨_,_,read,_,_⟩ := stores
  have absent : welcoming.files.readFile newcomer.store.systemPath = .error .notFound := by decide +kernel
  cases absent.symm.trans read

theorem brings_welcome : Server.Brings welcome "fresh" := Server.newToken?_eq_some_iff.mp (by decide +kernel)

theorem joined_eq : ∃ announcing next, Server.exchanges joined =
    [(announcing,some welcome),(next,some Host.Script.outOfAnswers)] ∧
      Server.values Server.tokenHeader next.request.headers = [] := by
  have sent : (Server.exchanges joined).map (fun e => (e.2,Server.values Server.tokenHeader e.1.request.headers)) =
      [(some welcome,[]),(some Host.Script.outOfAnswers,[])] := by decide +kernel
  obtain ⟨⟨announcing,_⟩,rest,same,told,later⟩ := List.map_eq_cons_iff.mp sent
  obtain ⟨⟨next,_⟩,nothing,rfl,toldNext,ends⟩ := List.map_eq_cons_iff.mp later
  obtain rfl := List.map_eq_nil_iff.mp ends
  obtain ⟨rfl,_⟩ := Prod.mk.inj told
  obtain ⟨rfl,none⟩ := Prod.mk.inj toldNext
  exact ⟨announcing,next,same,none⟩

theorem newcomer_dropsToken :
    DropsToken newcomer requesting default (Server.exchanges joined) ∧ Server.Brings welcome "fresh" ∧
      ∃ announcing next reply, Server.exchanges joined = [(announcing,some welcome),(next,reply)] ∧
        Server.values Server.tokenHeader next.request.headers = [] := by
  obtain ⟨run,follows⟩ := Host.run_transcript Host.Script.surroundings joining.run welcoming
  obtain ⟨announcing,next,sent,none⟩ := joined_eq
  exact ⟨register_dropsToken wired_newcomer unknown_newcomer run follows,brings_welcome,announcing,next,_,sent,none⟩

-- What every response is to be kept for is lost with the first one.
theorem announced_token_lost :
    ¬ ∀ (c : Collaborators) (settings : Settings) (options : RegisterOptions) (system : SystemInfo)
      (fs after : FileSystem) (events : List Host.Event) (result : Result RegisterOutcome),
      Wired c fs → (∀ kept, ¬ CredentialStore.Stores fs c.store.systemPath kept) →
      Ran (c.perform (register settings options system)) events result → Host.Follows fs events after →
      ∀ announcing response next reply more token,
        Server.exchanges events = (announcing,some response) :: (next,reply) :: more → response.isSuccess = true →
        Server.Brings response token → Server.values Server.tokenHeader next.request.headers = [token] := by
  intro survives
  obtain ⟨run,follows⟩ := Host.run_transcript Host.Script.surroundings joining.run welcoming
  obtain ⟨announcing,next,sent,none⟩ := joined_eq
  have carried := survives newcomer {} requesting default _ _ _ _ wired_newcomer unknown_newcomer run follows
    announcing welcome next _ [] "fresh" sent (by decide) brings_welcome
  cases none.symm.trans carried

end Entitlement.Registration
