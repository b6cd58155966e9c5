import Entitlement.Proofs.Credentials.Writing
import Entitlement.Proofs.Server.Session

-- What is sent for a call: one request at most, and none without which the call succeeds.
namespace Entitlement.Server

open Host CredentialStore
open Registration (ServerCall)

-- The requests in a row of events, each with its answer.

def exchangeIn? : Host.Event → Option (Http.Exchange × Option Http.Response)
  | ⟨.exchange exchange,answer⟩ => some (exchange,answer)
  | _ => none

def exchanges (events : List Host.Event) : List (Http.Exchange × Option Http.Response) := events.filterMap exchangeIn?

theorem exchanges_append (first second : List Host.Event) :
    exchanges (first ++ second) = exchanges first ++ exchanges second := List.filterMap_append

theorem exchanges_quiet {events : List Host.Event} (quiet : Quiet events) : exchanges events = [] := by
  rw [exchanges,List.filterMap_eq_nil_iff]
  intro event member
  obtain ⟨q,answer⟩ := event
  cases q with
  | exchange exchange => exact absurd rfl (quiet _ member exchange)
  | _ => rfl

-- A call is sent after all that has to be read for it, or fails.
inductive Sends (s : Server) (method : Http.Method) (path : String) (authentication : Authentication)
    (pairs : List (String × String)) (body : Option String) : List Host.Event → Result Bytes → Prop where
  | unsent : Quiet events → Sends s method path authentication pairs body events (.error error)
  | sent {exchange : Http.Exchange} {answer : Option Http.Response} : endpoint s.baseUrl path pairs = .ok url →
      Ran (s.headersFor authentication) reading (.ok headers) →
      exchange.request = ⟨method,(moveLogin url headers).1,(moveLogin url headers).2,body⟩ →
      Quiet before → Quiet after →
      (∀ bytes, result = .ok bytes → ∃ response, answer = some response ∧ response.body = bytes) →
      Sends s method path authentication pairs body (before ++ ⟨.exchange exchange,answer⟩ :: after) result

variable {s : Server} {method : Http.Method} {path : String} {authentication : Authentication}
  {pairs : List (String × String)} {body : Option String} {fs : FileSystem}

theorem edits_keepToken {response : Http.Response} :
    Program.Confined (Edits [s.store.systemPath]) (s.keepToken response) := by
  unfold keepToken
  cases newToken? response with
  | none => exact Program.confined_done
  | some token =>
    have updates : Asks (Edits [s.store.systemPath]) (s.store.updateToken token) := by
      refine asks_bind (peeks_readFile.mono fun _ peeks => edits_of_reads peeks.reads) fun c => ?_
      split
      · exact asks_pure
      · exact edits_writeSystem
    refine Program.confined_bind updates fun reply => ?_
    cases reply with
    | ok value => exact Program.confined_done
    | error error => exact confined_ask trivial

theorem peeks_headersFor : Asks Peeks (s.headersFor authentication) := by
  cases authentication with
  | system => exact asks_bind peeks_readFile fun _ => asks_pure
  | regcode regcode => exact asks_pure

theorem sends_of_ran {events : List Host.Event} {result : Result Bytes}
    (ran : Ran (s.send method path authentication pairs body) events result) :
    Sends s method path authentication pairs body events result := by
  rcases ran_liftExcept_bind.mp ran with ⟨_,_,rfl,rfl⟩ | ⟨url,address,addressed⟩
  · exact .unsent fun _ member => nomatch member
  obtain ⟨noting,_,_,rfl,noted,later⟩ := ran_lift_bind.mp addressed
  have silent : Quiet noting := quiet_of_reads (confined_ask trivial _ _ noted)
  have reads : Asks Reads (s.headersFor authentication) := peeks_headersFor.mono fun _ => Peeks.reads
  rcases ran_bind.mp later with ⟨error,failed,rfl⟩ | ⟨reading,headers,_,rfl,gathered,rest⟩
  · exact .unsent (quiet_append.mpr ⟨silent,quiet_of_reads (reads _ _ failed)⟩)
  have before : Quiet (noting ++ reading) := quiet_append.mpr ⟨silent,quiet_of_reads (reads _ _ gathered)⟩
  rw [← List.append_assoc]
  rcases ran_liftExcept_bind.mp rest with ⟨_,_,rfl,rfl⟩ | ⟨_,_,checked⟩
  · exact .unsent (quiet_append.mpr ⟨before,fun _ member => nomatch member⟩)
  obtain ⟨sending,answer,receiving,rfl,asked,received⟩ := ran_lift_bind.mp checked
  cases Program.runs_question.mp asked
  cases answer with
  | none =>
    obtain ⟨rfl,rfl⟩ := ran_throw.mp received
    exact .sent address gathered rfl before (fun _ member => nomatch member) fun _ same => nomatch same
  | some response =>
    obtain ⟨keeping,_,ending,rfl,kept,ends⟩ := ran_lift_bind.mp received
    have after : Quiet keeping := quiet_of_edits (edits_keepToken _ _ kept)
    obtain ⟨rfl,yields⟩ := ran_received ends
    rw [List.append_nil]
    exact .sent address gathered rfl before after fun bytes same => ⟨response,rfl,yields bytes same⟩

-- A response is decoded when the call is over.
theorem ran_decoded {action : Action Bytes} {format : Json.Format α} {events : List Host.Event} {result : Result α}
    (ran : Ran (do liftExcept (format.decode (← action)) : Action α) events result) :
    (∃ error, Ran action events (.error error) ∧ result = .error error) ∨
    ∃ bytes, Ran action events (.ok bytes) ∧ result = format.decode bytes := by
  rcases ran_bind.mp ran with ⟨error,failed,rfl⟩ | ⟨first,bytes,second,rfl,received,settled⟩
  · exact .inl ⟨error,failed,rfl⟩
  refine .inr ⟨bytes,?_⟩
  cases decoded : format.decode bytes with
  | ok value =>
    rw [decoded] at settled
    obtain ⟨rfl,rfl⟩ := ran_pure.mp settled
    exact ⟨by rwa [List.append_nil],rfl⟩
  | error error =>
    rw [decoded] at settled
    obtain ⟨rfl,rfl⟩ := ran_throw.mp settled
    exact ⟨by rwa [List.append_nil],rfl⟩

-- A call with a payload, by the one request that is sent for it.
structure Sent (s : Server) (method : Http.Method) (path : String) (authentication : Authentication) (payload : Json)
    (format : Json.Format α) (exchange : Http.Exchange) (answer : Option Http.Response) (result : Result α) : Prop where
  request : ∃ url headers reading, endpoint s.baseUrl path [] = .ok url ∧
    Ran (s.headersFor authentication) reading (.ok headers) ∧
    exchange.request = ⟨method,(moveLogin url headers).1,(moveLogin url headers).2,some payload.compact⟩
  answered : ∀ value, result = .ok value → ∃ response, answer = some response ∧ format.decode response.body = .ok value

theorem sent_of_ran {payload : Json} {format : Json.Format α} {events : List Host.Event} {result : Result α}
    (ran : Ran (s.exchange method path authentication payload format) events result) :
    (Quiet events ∧ ∃ error, result = .error error) ∨
    ∃ before exchange answer after, events = before ++ ⟨.exchange exchange,answer⟩ :: after ∧ Quiet before ∧
      Quiet after ∧ Sent s method path authentication payload format exchange answer result := by
  rcases ran_decoded ran with ⟨error,failed,rfl⟩ | ⟨bytes,received,rfl⟩
  · cases sends_of_ran failed with
    | unsent silent => exact .inl ⟨silent,error,rfl⟩
    | sent address gathered request before after _ =>
      exact .inr ⟨_,_,_,_,rfl,before,after,⟨_,_,_,address,gathered,request⟩,fun _ same => nomatch same⟩
  · cases sends_of_ran received with
    | sent address gathered request before after yields =>
      obtain ⟨response,rfl,rfl⟩ := yields bytes rfl
      exact .inr ⟨_,_,_,_,rfl,before,after,⟨_,_,_,address,gathered,request⟩,fun _ same => ⟨response,rfl,same⟩⟩

theorem exchanges_single {before after : List Host.Event} {exchange : Http.Exchange} {answer : Option Http.Response}
    (silent : Quiet before) : exchanges (before ++ ⟨.exchange exchange,answer⟩ :: after) =
      (exchange,answer) :: exchanges after := by
  rw [exchanges_append,exchanges_quiet silent]
  rfl

-- Without credentials there is nothing to authenticate with.
theorem yields_send_unread (unread : ∀ c, ¬ Stores fs s.store.systemPath c) :
    ∃ error, Yields (s.send method path .system pairs body).run fs (.error error) fs := by
  obtain ⟨error,reading⟩ := yields_unread unread
  unfold send
  cases endpoint s.baseUrl path pairs with
  | error fault => exact ⟨fault,yields_stops yields_throw⟩
  | ok url =>
    refine ⟨error,yields_then yields_pure (yields_then (yields_lift yields_report) ?_)⟩
    exact yields_stops (yields_stops reading)

end Entitlement.Server
