import Entitlement.Host.Script
import Entitlement.Proofs.Server.Token

-- The login of a system over a session: any calls of the server in any order, with any responses. Between two of them the
-- credentials file holds the username and the password from before the session, and the latest token.
namespace Entitlement.Server

open Host CredentialStore
open Registration (ServerCall)

-- The token that came with the response to a request.
def Brought (event : Host.Event) (token : String) : Prop :=
  ∃ exchange response, event = ⟨.exchange exchange,some response⟩ ∧ Brings response token

-- The token that a system has after a row of events, if it had the first one before.
inductive Latest (first : Option String) (events : List Host.Event) : Option String → Prop where
  | brought (before : List Host.Event) : events = before ++ event :: after → Brought event token →
      (∀ later ∈ after, ∀ other, ¬ Brought later other) → Latest first events (some token)
  | first : (∀ event ∈ events, ∀ token, ¬ Brought event token) → Latest first events first

-- The same as a function.

def tokenIn? : Host.Event → Option String
  | ⟨.exchange _,some response⟩ => newToken? response
  | _ => none

def newTokens (events : List Host.Event) : List String := events.filterMap tokenIn?

def latest (first : Option String) (events : List Host.Event) : Option String := (newTokens events).getLast?.or first

theorem newTokens_append (first second : List Host.Event) :
    newTokens (first ++ second) = newTokens first ++ newTokens second := List.filterMap_append

theorem latest_append (first second : List Host.Event) (token : Option String) :
    latest token (first ++ second) = latest (latest token first) second := by
  simp only [latest,newTokens_append,List.getLast?_append,Option.or_assoc]

theorem latest_single (token : Option String) (event : Host.Event) :
    latest token [event] = (tokenIn? event).or token := by
  cases brings : tokenIn? event <;> simp [latest,newTokens,brings]

theorem newTokens_quiet {events : List Host.Event} (quiet : Quiet events) : newTokens events = [] := by
  rw [newTokens,List.filterMap_eq_nil_iff]
  rintro ⟨q,answer⟩ member
  cases q with
  | exchange exchange => exact absurd rfl (quiet _ member exchange)
  | _ => rfl

theorem latest_quiet {events : List Host.Event} (quiet : Quiet events) (token : Option String) :
    latest token events = token := by
  rw [latest,newTokens_quiet quiet]
  rfl

-- The values of all headers of a name.
def values (name : String) (headers : List (String × String)) : List String :=
  (headers.filter fun h => h.1 == name).map (·.2)

-- How a request authenticates: by what the address of the server says of itself, by the login, and by the token.
structure Carries (s : Server) (c : Credentials) (headers : List (String × String)) : Prop where
  login : ∃ path pairs url, endpoint s.baseUrl path pairs = .ok url ∧ values "authorization" headers =
    (Http.Route.loginIn? url).toList ++ [Http.basicAuthorization c.username c.password]
  token : values tokenHeader headers = c.token.toList

theorem carries_systemHeaders {s : Server} {c : Credentials} {path : String} {pairs : List (String × String)} {url : Url}
    (address : endpoint s.baseUrl path pairs = .ok url) :
    Carries s c (moveLogin url (commonHeaders s.language ++ systemHeaders c)).2 := by
  have login : values "authorization" (commonHeaders s.language ++ systemHeaders c) =
      [Http.basicAuthorization c.username c.password] := by
    obtain ⟨username,password,known⟩ := c
    cases s.language <;> cases known <;> simp [values,commonHeaders,systemHeaders,tokenHeader]
  have token : values tokenHeader (commonHeaders s.language ++ systemHeaders c) = c.token.toList := by
    obtain ⟨username,password,known⟩ := c
    cases s.language <;> cases known <;> simp [values,commonHeaders,systemHeaders,tokenHeader]
  unfold moveLogin
  cases found : Http.Route.loginIn? url with
  | none => exact ⟨⟨path,pairs,url,address,by simp [found,login]⟩,token⟩
  | some user =>
    have first : values "authorization" (("authorization",user) :: (commonHeaders s.language ++ systemHeaders c)) =
        user :: values "authorization" (commonHeaders s.language ++ systemHeaders c) := by simp [values]
    have apart : values tokenHeader (("authorization",user) :: (commonHeaders s.language ++ systemHeaders c)) =
        values tokenHeader (commonHeaders s.language ++ systemHeaders c) := by simp [values,tokenHeader]
    exact ⟨⟨path,pairs,url,address,by simp [found,first,login]⟩,apart.trans token⟩

-- Every request carries the login and the token that was the latest when it was sent.
def Authenticates (s : Server) (c : Credentials) (events : List Host.Event) : Prop :=
  ∀ before exchange answer after, events = before ++ ⟨.exchange exchange,answer⟩ :: after →
    Carries s { c with token := latest c.token before } exchange.request.headers

variable {s : Server} {c : Credentials}

theorem authenticates_append {first second : List Host.Event} (early : Authenticates s c first)
    (late : Authenticates s { c with token := latest c.token first } second) : Authenticates s c (first ++ second) := by
  intro before exchange answer after same
  rcases List.append_eq_append_iff.mp same with ⟨gap,rfl,rest⟩ | ⟨gap,whole,rest⟩
  · have carries := late gap exchange answer after rest
    rwa [← latest_append] at carries
  · cases gap with
    | nil =>
      rw [List.append_nil] at whole
      have carries := late [] exchange answer after rest.symm
      rwa [← whole]
    | cons head tail =>
      obtain ⟨rfl,_⟩ := List.cons.inj rest
      exact early before exchange answer tail whole

theorem authenticates_quiet {events : List Host.Event} (quiet : Quiet events) : Authenticates s c events := by
  rintro before exchange answer after rfl
  exact absurd rfl (quiet ⟨.exchange exchange,answer⟩ (by simp) exchange)

theorem authenticates_single {exchange : Http.Exchange} {answer : Option Http.Response}
    (carries : Carries s c exchange.request.headers) : Authenticates s c [⟨.exchange exchange,answer⟩] := by
  intro before other reply after same
  cases before with
  | nil => cases same; exact carries
  | cons head tail => simp at same

-- What an operation does to the login, if the credentials of the system are there.
def Keeps (s : Server) (p : Operation α) : Prop :=
  ∀ fs c events result after, Stores fs s.store.systemPath c → Program.Runs p events result → Follows fs events after →
    Authenticates s c events ∧ Stores after s.store.systemPath { c with token := latest c.token events }

theorem keeps_pure {value : α} : Keeps s (pure value) := by
  intro fs c events result after stores run follows
  obtain ⟨rfl,rfl⟩ := Program.runs_done.mp run
  cases follows
  exact ⟨authenticates_quiet (fun _ member => nomatch member),stores⟩

theorem keeps_bind {p : Operation α} {next : α → Operation β} (early : Keeps s p)
    (late : ∀ value, Keeps s (next value)) : Keeps s (p >>= next) := by
  intro fs c events result after stores run follows
  obtain ⟨first,value,second,rfl,before,later⟩ := Program.runs_bind.mp run
  obtain ⟨_,followsBefore,followsLater⟩ := follows_append.mp follows
  obtain ⟨authenticated,stored⟩ := early _ _ _ _ _ stores before followsBefore
  obtain ⟨authenticatedLater,storedLater⟩ := late value _ _ _ _ _ stored later followsLater
  refine ⟨authenticates_append authenticated authenticatedLater,?_⟩
  rwa [latest_append]

-- What is not sent changes nothing, neither before a request nor after it.

variable {fs after : FileSystem}

theorem keeps_quiet {events : List Host.Event} (quiet : Quiet events) (stores : Stores fs s.store.systemPath c) :
    Authenticates s c events ∧ Stores fs s.store.systemPath { c with token := latest c.token events } := by
  refine ⟨authenticates_quiet quiet,?_⟩
  rwa [latest_quiet quiet]

theorem keeps_after {first second : List Host.Event} (quiet : Quiet first) (later : Authenticates s c second ∧
      Stores after s.store.systemPath { c with token := latest c.token second }) :
    Authenticates s c (first ++ second) ∧
      Stores after s.store.systemPath { c with token := latest c.token (first ++ second) } := by
  rw [latest_append,latest_quiet quiet]
  refine ⟨authenticates_append (authenticates_quiet quiet) ?_,later.2⟩
  rw [latest_quiet quiet]
  exact later.1

-- What is done with a response once its token is kept.
theorem ran_received {response : Http.Response} {events : List Host.Event} {result : Result Bytes}
    (ran : Ran (if !response.isWhole then throw (.transport "error decoding response body")
      else if response.isSuccess then pure response.body
      else throw (refusal response.status response.body) : Action Bytes) events result) :
    events = [] ∧ ∀ bytes, result = .ok bytes → response.body = bytes := by
  by_cases whole : response.isWhole
  · simp only [whole,Bool.not_true,Bool.false_eq_true,if_false] at ran
    by_cases succeeded : response.isSuccess
    · rw [if_pos succeeded] at ran
      obtain ⟨nothing,same⟩ := ran_pure.mp ran
      exact ⟨nothing,fun bytes other => Except.ok.inj (same.symm.trans other)⟩
    · rw [if_neg succeeded] at ran
      obtain ⟨nothing,same⟩ := ran_throw.mp ran
      exact ⟨nothing,fun bytes other => nomatch same.symm.trans other⟩
  · simp only [whole,Bool.not_false,if_true] at ran
    obtain ⟨nothing,same⟩ := ran_throw.mp ran
    exact ⟨nothing,fun bytes other => nomatch same.symm.trans other⟩

theorem keeps_send {method : Http.Method} {path : String} {pairs : List (String × String)} {body : Option String} :
    Keeps s (s.send method path .system pairs body).run := by
  intro fs c events result after stores run follows
  rcases ran_liftExcept_bind.mp run with ⟨_,_,rfl,rfl⟩ | ⟨url,address,addressed⟩
  · cases follows
    exact keeps_quiet (fun _ member => nomatch member) stores
  obtain ⟨noting,_,rfl,silentNoting,noted,followsNoted⟩ := (yields_lift yields_report).ran_bind addressed follows
  refine keeps_after silentNoting ?_
  have reading : Yields (s.headersFor .system).run fs (.ok (commonHeaders s.language ++ systemHeaders c)) fs :=
    yields_then (yields_readFile stores) yields_pure
  obtain ⟨looking,_,rfl,silentLooking,looked,followsLooked⟩ := reading.ran_bind noted followsNoted
  refine keeps_after silentLooking ?_
  rcases ran_liftExcept_bind.mp looked with ⟨_,_,rfl,rfl⟩ | ⟨_,_,checked⟩
  · cases followsLooked
    exact keeps_quiet (fun _ member => nomatch member) stores
  have carries := @carries_systemHeaders s c path pairs url address
  obtain ⟨sending,answer,receiving,rfl,sent,received⟩ := ran_lift_bind.mp checked
  cases Program.runs_question.mp sent
  obtain ⟨_,followsSending,followsReceiving⟩ := follows_append.mp followsLooked
  cases followsSending with
  | other _ nothing =>
  cases nothing
  cases answer with
  | none =>
    obtain ⟨rfl,_⟩ := ran_throw.mp received
    cases followsReceiving
    exact ⟨authenticates_single carries,stores⟩
  | some response =>
    obtain ⟨_,keeping,stored⟩ := yields_keepToken s response stores
    obtain ⟨kept,last,rfl,silent,ends,followsEnds⟩ := (yields_lift keeping).ran_bind received followsReceiving
    obtain ⟨rfl,_⟩ := ran_received ends
    cases followsEnds
    rw [List.append_nil]
    refine ⟨authenticates_append (authenticates_single carries) (authenticates_quiet silent),?_⟩
    rw [latest_append,latest_quiet silent,latest_single]
    exact stored

-- Only a system that the server does not know yet has another way to authenticate.
def AsSystem : ServerCall → Prop
  | .announce _ _ => False
  | _ => True

theorem keeps_decoded {action : Action Bytes} {format : Json.Format α} (keeps : Keeps s action.run) :
    Keeps s (do liftExcept (format.decode (← action)) : Action α).run := by
  refine keeps_bind keeps fun result => ?_
  cases result with
  | error error => exact keeps_pure
  | ok body =>
    change Keeps s (liftExcept (format.decode body) : Action α).run
    cases format.decode body with
    | error error => exact keeps_pure
    | ok value => exact keeps_pure

theorem keeps_discard {action : Action α} (keeps : Keeps s action.run) : Keeps s (discard action : Action Unit).run := by
  refine keeps_bind keeps fun result => ?_
  cases result with
  | error error => exact keeps_pure
  | ok value => exact keeps_pure

theorem keeps_perform {call : ServerCall} (system : AsSystem call) : Keeps s (s.perform call).run := by
  cases call with
  | announce regcode info => cases system
  | updateSystem info => exact keeps_discard keeps_send
  | activate p regcode email => exact keeps_decoded keeps_send
  | upgrade p => exact keeps_decoded keeps_send
  | downgrade p => exact keeps_decoded keeps_send
  | deactivate p => exact keeps_decoded keeps_send
  | productTree p => exact keeps_decoded keeps_send
  | activations => exact keeps_decoded keeps_send
  | migrations installed target => exact keeps_decoded keeps_send
  | synchronize products => exact keeps_decoded keeps_send
  | deregister => exact keeps_discard keeps_send

-- Calls one after the other, whatever becomes of each.
def session (s : Server) : List ServerCall → Operation Unit
  | [] => pure ()
  | call :: rest => do
    let _ ← (s.perform call).run
    session s rest

-- The login over a session that takes one file system to another: every request carries it with the latest token, and
-- the file holds both between any two calls as after the last.
structure KeepsLogin (s : Server) (c : Credentials) (calls : List ServerCall) (fs : FileSystem)
    (events : List Host.Event) (after : FileSystem) : Prop where
  carries : ∀ before exchange answer rest, events = before ++ ⟨.exchange exchange,answer⟩ :: rest →
    ∃ token, Latest c.token before token ∧ Carries s { c with token := token } exchange.request.headers
  stores : ∀ done left, calls = done ++ left → ∃ before between rest token, events = before ++ rest ∧
    Program.Runs (s.session done) before () ∧ Follows fs before between ∧
    Latest c.token before token ∧ Stores between s.store.systemPath { c with token := token } ∧
    Program.Runs (s.session left) rest () ∧ Follows between rest after

def known : Credentials := ⟨"SCC_1","swordfish",some "first"⟩

end Entitlement.Server
