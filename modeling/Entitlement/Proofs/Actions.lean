import Entitlement.Proofs.Runs

-- Programs that may fail, by their runs. Each law says what a step asks, in which order, and what it does with each
-- answer; what a larger step does is read off from these.
namespace Entitlement

variable {inquiry : Inquiry}

def Ran (action : ExceptT ε (Program inquiry) α) (events : List (Program.Event inquiry)) (result : Except ε α) : Prop :=
  Program.Runs action.run events result

variable {ε α β : Type} {action : ExceptT ε (Program inquiry) α} {next : α → ExceptT ε (Program inquiry) β}

theorem ran_pure {value : α} :
    Ran (pure value) events result ↔ events = [] ∧ result = .ok value := Program.runs_done

theorem ran_throw {error : ε} :
    Ran (throw error : ExceptT ε (Program inquiry) α) events result ↔ events = [] ∧ result = .error error :=
  Program.runs_done

theorem ran_settled {settled : Except ε α} :
    Ran (ExceptT.mk (pure settled)) events result ↔ events = [] ∧ result = settled := Program.runs_done

-- A step that fails is the last one.
theorem ran_bind :
    Ran (action >>= next) events result ↔
      (∃ error, Ran action events (.error error) ∧ result = .error error) ∨
      ∃ first middle second, events = first ++ second ∧ Ran action first (.ok middle) ∧
        Ran (next middle) second result := by
  refine Program.runs_bind.trans ⟨?_,?_⟩
  · rintro ⟨first,middle,second,rfl,before,after⟩
    cases middle with
    | ok value => exact .inr ⟨first,value,second,rfl,before,after⟩
    | error error =>
      obtain ⟨rfl,rfl⟩ := Program.runs_done.mp after
      exact .inl ⟨error,by rwa [List.append_nil],rfl⟩
  · rintro (⟨error,before,rfl⟩ | ⟨first,middle,second,rfl,before,after⟩)
    · exact ⟨events,.error error,[],by simp,before,.done⟩
    · exact ⟨first,.ok middle,second,rfl,before,after⟩

-- A row that begins as a step does goes on after that step.
theorem ran_resume {value : α} (early : Ran action first (.ok value)) (ran : Ran (action >>= next) events result)
    (same : first ++ rest = events ++ tail) :
    ∃ last, events = first ++ last ∧ rest = last ++ tail ∧ Ran (next value) last result := by
  rcases ran_bind.mp ran with ⟨error,failed,_⟩ | ⟨before,middle,second,rfl,ranBefore,ranAfter⟩
  · cases (Program.Runs.unique early failed same).2
  · rw [List.append_assoc] at same
    obtain ⟨rfl,value⟩ := Program.Runs.unique early ranBefore same
    cases value
    exact ⟨second,rfl,List.append_cancel_left same,ranAfter⟩

-- A step that is a single call, whose answer is its result.
theorem ran_call_bind {event : Except ε α → Program.Event inquiry}
    (call : ∀ {events result}, Ran action events result ↔ events = [event result]) :
    Ran (action >>= next) events result ↔
      (∃ error, events = [event (.error error)] ∧ result = .error error) ∨
      ∃ reply rest, events = event (.ok reply) :: rest ∧ Ran (next reply) rest result := by
  simp only [ran_bind,call]
  refine or_congr Iff.rfl ⟨?_,?_⟩
  · rintro ⟨_,reply,rest,rfl,rfl,after⟩; exact ⟨reply,rest,rfl,after⟩
  · rintro ⟨reply,rest,rfl,after⟩; exact ⟨_,reply,rest,rfl,rfl,after⟩

theorem ran_bind_ok {value : β} :
    Ran (action >>= next) events (.ok value) ↔
      ∃ first middle second, events = first ++ second ∧ Ran action first (.ok middle) ∧
        Ran (next middle) second (.ok value) := by
  rw [ran_bind]; simp

theorem ran_then_ok {action : ExceptT ε (Program inquiry) Unit} {next : Unit → ExceptT ε (Program inquiry) β}
    {value : β} :
    Ran (action >>= next) events (.ok value) ↔
      ∃ first second, events = first ++ second ∧ Ran action first (.ok ()) ∧ Ran (next ()) second (.ok value) := by
  rw [ran_bind_ok]
  exact exists_congr fun first => ⟨fun ⟨_,rest⟩ => rest,fun rest => ⟨(),rest⟩⟩

theorem ran_outcome :
    Ran (outcome action) events result ↔ ∃ before, Ran action events before ∧ result = .ok before := by
  refine Program.runs_bind.trans ⟨?_,?_⟩
  · rintro ⟨first,middle,second,rfl,before,after⟩
    obtain ⟨rfl,rfl⟩ := Program.runs_done.mp after
    exact ⟨middle,by rwa [List.append_nil],rfl⟩
  · rintro ⟨before,ran,rfl⟩
    exact ⟨events,before,[],by simp,ran,.done⟩

theorem ran_outcome_bind {next : Except ε α → ExceptT ε (Program inquiry) β} :
    Ran (outcome action >>= next) events result ↔
      ∃ first before second, events = first ++ second ∧ Ran action first before ∧ Ran (next before) second result := by
  simp only [ran_bind,ran_outcome]
  constructor
  · rintro (⟨_,⟨_,_,impossible⟩,_⟩ | ⟨first,_,second,rfl,⟨before,ran,same⟩,after⟩)
    · cases impossible
    · cases same; exact ⟨first,_,second,rfl,ran,after⟩
  · rintro ⟨first,before,second,rfl,ran,after⟩; exact .inr ⟨first,before,second,rfl,⟨before,ran,rfl⟩,after⟩

theorem ran_adapt {f : ε → δ} :
    Ran (ExceptT.adapt f action) events result ↔ ∃ before, Ran action events before ∧ result = before.mapError f := by
  refine Program.runs_bind.trans ⟨?_,?_⟩
  · rintro ⟨first,middle,second,rfl,before,after⟩
    obtain ⟨rfl,rfl⟩ := Program.runs_done.mp after
    exact ⟨middle,by rwa [List.append_nil],rfl⟩
  · rintro ⟨before,ran,rfl⟩
    exact ⟨events,before,[],by simp,ran,.done⟩

theorem ran_lift_bind {p : Program inquiry α} {next : α → ExceptT ε (Program inquiry) β} :
    Ran (ExceptT.lift p >>= next) events result ↔
      ∃ first value second, events = first ++ second ∧ Program.Runs p first value ∧ Ran (next value) second result := by
  refine Program.runs_bind.trans ⟨?_,?_⟩
  · rintro ⟨_,_,second,rfl,lifted,later⟩
    obtain ⟨first,value,_,rfl,before,settled⟩ := Program.runs_bind.mp lifted
    obtain ⟨rfl,rfl⟩ := Program.runs_done.mp settled
    exact ⟨first,value,second,by simp,before,later⟩
  · rintro ⟨first,value,second,rfl,before,later⟩
    exact ⟨first,.ok value,second,rfl,Program.runs_bind.mpr ⟨first,value,[],by simp,before,.done⟩,later⟩

theorem ran_liftExcept_bind {settled : Except ε α} {next : α → ExceptT ε (Program inquiry) β} :
    Ran (liftExcept settled >>= next) events result ↔
      (∃ error, settled = .error error ∧ events = [] ∧ result = .error error) ∨
      ∃ value, settled = .ok value ∧ Ran (next value) events result := by
  cases settled with
  | error error =>
    refine Iff.trans Program.runs_done ?_
    simp
  | ok value =>
    change Ran (next value) events result ↔ _
    simp

-- A step taken for each member of a list in turn, each time with success.
inductive Rounds (step : α → ExceptT ε (Program inquiry) Unit) : List α → List (Program.Event inquiry) → Prop where
  | nil : Rounds step [] []
  | cons : Ran (step head) first (.ok ()) → Rounds step rest second → Rounds step (head :: rest) (first ++ second)

theorem ran_forM_ok {step : α → ExceptT ε (Program inquiry) Unit} {list : List α} :
    Ran (list.forM step) events (.ok ()) ↔ Rounds step list events := by
  induction list generalizing events with
  | nil =>
    constructor
    · intro ran; obtain ⟨rfl,_⟩ := ran_pure.mp ran; exact .nil
    · intro rounds; cases rounds; exact ran_pure.mpr ⟨rfl,rfl⟩
  | cons head rest ih =>
    refine Iff.trans ran_bind_ok ⟨?_,?_⟩
    · rintro ⟨first,_,second,rfl,before,after⟩; exact .cons before (ih.mp after)
    · intro rounds
      cases rounds with
      | cons before after => exact ⟨_,(),_,rfl,before,ih.mpr after⟩

-- What is asked for in a row of calls, in order.
def requests (pick : inquiry.Question → Option β) (events : List (Program.Event inquiry)) : List β :=
  events.filterMap fun event => pick event.question

theorem requests_append {pick : inquiry.Question → Option β} {first second : List (Program.Event inquiry)} :
    requests pick (first ++ second) = requests pick first ++ requests pick second := List.filterMap_append

theorem unasked {pick : inquiry.Question → Option β} {before after : List (Program.Event inquiry)}
    (silent : requests pick (before ++ event :: after) = []) : pick event.question = none := by
  rw [requests,List.filterMap_eq_nil_iff] at silent
  exact silent event (by simp)

-- What holds of a row of calls when it holds of the rows that it is put together from.
structure Composes (holds : List (Program.Event inquiry) → Prop) : Prop where
  nil : holds []
  append : ∀ first second, holds first → holds second → holds (first ++ second)

-- What holds of every row of calls of a program.
def Rows (holds : List (Program.Event inquiry) → Prop) (p : Program inquiry α) : Prop :=
  ∀ events result, Program.Runs p events result → holds events

section Rows

variable {holds : List (Program.Event inquiry) → Prop}

theorem rows_done {value : α} (composes : Composes holds) : Rows holds (.done value : Program inquiry α) := by
  intro events result run
  rw [(Program.runs_done.mp run).1]
  exact composes.nil

theorem rows_bind {p : Program inquiry α} {next : α → Program inquiry β} (composes : Composes holds)
    (before : Rows holds p) (after : ∀ value, Rows holds (next value)) : Rows holds (p.bind next) := by
  intro events result run
  obtain ⟨first,value,second,rfl,early,late⟩ := Program.runs_bind.mp run
  exact composes.append _ _ (before _ _ early) (after value _ _ late)

theorem rows_of_enacts {inner : Inquiry} {answer : (q : inner.Question) → Program inquiry (inner.Answer q)}
    {calls : List (Program.Event inner)} (composes : Composes holds) (each : ∀ q, Rows holds (answer q))
    (enacts : Program.Enacts answer calls events) : holds events := by
  induction enacts with
  | nil => exact composes.nil
  | cons called _ ih => exact composes.append _ _ (each _ _ _ called) ih

end Rows

-- What holds of every row of calls that a step makes.
def Makes (holds : List (Program.Event inquiry) → Prop) (action : ExceptT ε (Program inquiry) α) : Prop :=
  ∀ events result, Ran action events result → holds events

section Makes

variable {holds : List (Program.Event inquiry) → Prop}

theorem makes_settled {settled : Except ε α} (composes : Composes holds) :
    Makes holds (ExceptT.mk (pure settled)) := by
  intro events result ran
  rw [(ran_settled.mp ran).1]
  exact composes.nil

theorem makes_pure {value : α} (composes : Composes holds) :
    Makes holds (pure value : ExceptT ε (Program inquiry) α) := makes_settled composes

theorem makes_throw {error : ε} (composes : Composes holds) :
    Makes holds (throw error : ExceptT ε (Program inquiry) α) := makes_settled composes

theorem makes_bind (composes : Composes holds) (before : Makes holds action)
    (after : ∀ value, Makes holds (next value)) : Makes holds (action >>= next) := by
  intro events result ran
  rcases ran_bind.mp ran with ⟨_,failed,_⟩ | ⟨first,middle,second,rfl,ranBefore,ranAfter⟩
  · exact before _ _ failed
  · exact composes.append _ _ (before _ _ ranBefore) (after middle _ _ ranAfter)

theorem makes_lift {p : Program inquiry α} (composes : Composes holds) (rows : Rows holds p) :
    Makes holds (ExceptT.lift p : ExceptT ε (Program inquiry) α) := rows_bind composes rows fun _ => rows_done composes

theorem makes_liftExcept {settled : Except ε α} (composes : Composes holds) :
    Makes holds (liftExcept settled : ExceptT ε (Program inquiry) α) := by
  cases settled with
  | ok value => exact makes_pure composes
  | error error => exact makes_throw composes

theorem makes_outcome (makes : Makes holds action) : Makes holds (outcome action) := by
  intro events result ran
  obtain ⟨before,first,_⟩ := ran_outcome.mp ran
  exact makes _ _ first

theorem makes_adapt {f : ε → δ} (makes : Makes holds action) : Makes holds (ExceptT.adapt f action) := by
  intro events result ran
  obtain ⟨before,first,_⟩ := ran_adapt.mp ran
  exact makes _ _ first

theorem makes_forM {step : α → ExceptT ε (Program inquiry) Unit} {list : List α} (composes : Composes holds)
    (each : ∀ item, Makes holds (step item)) : Makes holds (list.forM step) := by
  induction list with
  | nil => exact makes_pure composes
  | cons head rest ih => exact makes_bind composes (each head) fun _ => ih

theorem makes_mapM {step : α → ExceptT ε (Program inquiry) β} {list : List α} (composes : Composes holds)
    (each : ∀ item, Makes holds (step item)) : Makes holds (list.mapM step) := by
  induction list with
  | nil => exact makes_pure composes
  | cons head rest ih =>
    rw [List.mapM_cons]
    exact makes_bind composes (each head) fun _ => makes_bind composes ih fun _ => makes_pure composes

end Makes

-- What a step may ask, whatever it is told.
def Asks (allowed : inquiry.Question → Prop) (action : ExceptT ε (Program inquiry) α) : Prop :=
  ∀ events result, Ran action events result → ∀ event ∈ events, allowed event.question

variable {allowed : inquiry.Question → Prop}

theorem composes_allowed :
    Composes fun events : List (Program.Event inquiry) => ∀ event ∈ events, allowed event.question where
  nil _ member := nomatch member
  append _ _ early late := List.forall_mem_append.mpr ⟨early,late⟩

theorem Asks.mono {wider : inquiry.Question → Prop} (asks : Asks allowed action)
    (implies : ∀ q, allowed q → wider q) : Asks wider action :=
  fun events result ran event member => implies _ (asks events result ran event member)

theorem Asks.filterMap_eq_nil {f : Program.Event inquiry → Option β} (asks : Asks allowed action)
    (passes : ∀ event, allowed event.question → f event = none) (ran : Ran action events result) :
    events.filterMap f = [] := by
  rw [List.filterMap_eq_nil_iff]
  exact fun event member => passes event (asks _ _ ran event member)

theorem Asks.requests_eq_nil {pick : inquiry.Question → Option β} (asks : Asks allowed action)
    (passes : ∀ q, allowed q → pick q = none) (ran : Ran action events result) : requests pick events = [] :=
  asks.filterMap_eq_nil (fun event fits => passes event.question fits) ran

theorem asks_settled {settled : Except ε α} : Asks allowed (ExceptT.mk (pure settled)) := makes_settled composes_allowed

theorem asks_pure {value : α} : Asks allowed (pure value : ExceptT ε (Program inquiry) α) := asks_settled

theorem asks_throw {error : ε} : Asks allowed (throw error : ExceptT ε (Program inquiry) α) := asks_settled

theorem asks_call {event : Except ε α → Program.Event inquiry}
    (call : ∀ {events result}, Ran action events result ↔ events = [event result])
    (fits : ∀ result, allowed (event result).question) : Asks allowed action := by
  intro events result ran other member
  rw [call.mp ran,List.mem_singleton] at member
  rw [member]; exact fits result

theorem asks_liftExcept {settled : Except ε α} :
    Asks allowed (liftExcept settled : ExceptT ε (Program inquiry) α) := makes_liftExcept composes_allowed

theorem asks_lift {p : Program inquiry α} (confined : Program.Confined allowed p) :
    Asks allowed (ExceptT.lift p : ExceptT ε (Program inquiry) α) :=
  Program.confined_bind confined fun _ => Program.confined_done

theorem asks_bind (before : Asks allowed action)
    (after : ∀ value, Asks allowed (next value)) : Asks allowed (action >>= next) :=
  makes_bind composes_allowed before after

theorem asks_outcome (asks : Asks allowed action) : Asks allowed (outcome action) := makes_outcome asks

theorem asks_adapt {f : ε → δ} (asks : Asks allowed action) : Asks allowed (ExceptT.adapt f action) := makes_adapt asks

theorem asks_forM {step : α → ExceptT ε (Program inquiry) Unit} {list : List α}
    (each : ∀ item, Asks allowed (step item)) : Asks allowed (list.forM step) := makes_forM composes_allowed each

theorem asks_mapM {step : α → ExceptT ε (Program inquiry) β} {list : List α}
    (each : ∀ item, Asks allowed (step item)) : Asks allowed (list.mapM step) := makes_mapM composes_allowed each

end Entitlement
