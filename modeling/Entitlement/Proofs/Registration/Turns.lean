import Entitlement.Proofs.Registration.Failures

-- Loops over products that ask the server once for each. Whatever else a step does is local to the system, so that
-- the calls to the server follow the list, and each is made when the steps before it are done with.
namespace Entitlement.Registration

structure Turn (step : α → Action β) (note : α → Event) (call : α → ServerCall) : Prop where
  quiet : ∀ item, Local (note item).question
  opens : ∀ item events result, Ran (step item) events result →
    ∃ answer rest, events = note item :: ⟨.server (call item),answer⟩ :: rest ∧ requests serverOf rest = []

-- Every call to the server is that of a member, made after its note and after the steps of the members before it.
def InTurn (step : α → Action β) (note : α → Event) (call : α → ServerCall) (list : List α)
    (events : List Event) : Prop :=
  ∀ before asked answer after, events = before ++ ⟨.server asked,answer⟩ :: after →
    ∃ done item rest first values, list = done ++ item :: rest ∧ before = first ++ [note item] ∧ asked = call item ∧
      Gathers step done first values

-- Where local steps make no call of a kind, those calls are picked from what is asked of the server.
theorem requests_of_local {pick : Question → Option γ} (silent : ∀ q, Local q → pick q = none) (events : List Event) :
    requests pick events = (requests serverOf events).filterMap fun call => pick (.server call) := by
  rw [requests,requests,List.filterMap_filterMap]
  refine congrArg (List.filterMap · events) (funext fun event => ?_)
  obtain ⟨q,answer⟩ := event
  cases q with
  | server call => rfl
  | _ => exact silent _ rfl

section Turn

variable {step : α → Action β} {note : α → Event} {call : α → ServerCall} {list : List α}

theorem Turn.asks_once {item : α} (turn : Turn step note call) (ran : Ran (step item) events result) :
    requests serverOf events = [call item] := by
  obtain ⟨answer,rest,rfl,silent⟩ := turn.opens _ _ _ ran
  refine (List.filterMap_cons_none ?_).trans ?_
  · exact turn.quiet item
  · exact congrArg (call item :: ·) silent

theorem Turn.position {item : α} {asked : ServerCall} {answer : Result asked.Reply} {beginning ending : List Event}
    (turn : Turn step note call) (ran : Ran (step item) (beginning ++ ⟨.server asked,answer⟩ :: ending) result) :
    beginning = [note item] ∧ asked = call item := by
  obtain ⟨reply,rest,parts,silent⟩ := turn.opens _ _ _ ran
  match beginning with
  | [] =>
    have quiet := turn.quiet item
    obtain ⟨same,_⟩ := List.cons.inj parts
    rw [← same] at quiet
    cases quiet
  | [first] =>
    obtain ⟨rfl,same⟩ := List.cons.inj parts
    cases same
    exact ⟨rfl,rfl⟩
  | first :: second :: others =>
    -- A second call would come after that of the member.
    obtain ⟨_,same⟩ := List.cons.inj parts
    obtain ⟨_,rfl⟩ := List.cons.inj same
    cases unasked silent

theorem Turn.inOrder (turn : Turn step note call) (gathers : Gathers step list events values) :
    requests serverOf events = list.map call :=
  gathers.requests_eq fun _ _ _ ran => turn.asks_once ran

theorem Turn.inTurn_gathers (turn : Turn step note call) (gathers : Gathers step list events values) :
    InTurn step note call list events := by
  intro before asked answer after parts
  cases gathers.placed parts with
  | within earlier own _ =>
    obtain ⟨rfl,rfl⟩ := turn.position own
    exact ⟨_,_,_,_,_,rfl,rfl,rfl,earlier⟩

theorem Turn.inTurn_breaks (turn : Turn step note call) (breaks : Breaks step list events error) :
    InTurn step note call list events := by
  obtain ⟨done,failing,rest,first,second,values,rfl,rfl,gathers,failed⟩ := breaks
  intro before asked answer after parts
  rcases append_eq_split.mp parts with ⟨between,early,_⟩ | ⟨between,rfl,rfl⟩
  · obtain ⟨earlier,item,later,_,_,rfl,turned⟩ := turn.inTurn_gathers gathers _ _ _ _ early
    exact ⟨earlier,item,later ++ failing :: rest,_,_,by simp,turned⟩
  · obtain ⟨rfl,rfl⟩ := turn.position failed
    exact ⟨done,failing,rest,first,values,rfl,rfl,rfl,gathers⟩

end Turn

end Entitlement.Registration
