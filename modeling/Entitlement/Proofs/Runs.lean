import Entitlement.Program

-- A program by what it asks and what it is told. Nothing is assumed of the answers: every row of answers is a
-- run, so that what holds of all runs holds of all worlds, those that change their mind included.
namespace Entitlement.Program

variable {inquiry : Inquiry}

structure Event (inquiry : Inquiry) where
  question : inquiry.Question
  answer : inquiry.Answer question

inductive Runs : Program inquiry α → List (Event inquiry) → α → Prop where
  | done : Runs (.done result) [] result
  | ask {resume : inquiry.Answer q → Program inquiry α} : Runs (resume answer) events result →
      Runs (.ask q resume) (⟨q,answer⟩ :: events) result

theorem runs_done {value result : α} {events : List (Event inquiry)} :
    Runs (.done value) events result ↔ events = [] ∧ result = value := by
  constructor
  · intro run; cases run; exact ⟨rfl,rfl⟩
  · rintro ⟨rfl,rfl⟩; exact .done

theorem runs_ask {q : inquiry.Question} {resume : inquiry.Answer q → Program inquiry α} :
    Runs (.ask q resume) events result ↔
      ∃ answer rest, events = ⟨q,answer⟩ :: rest ∧ Runs (resume answer) rest result := by
  constructor
  · intro run
    cases run with
    | ask later => exact ⟨_,_,rfl,later⟩
  · rintro ⟨answer,rest,rfl,later⟩; exact .ask later

theorem runs_question {q : inquiry.Question} {events : List (Event inquiry)} {answer : inquiry.Answer q} :
    Runs (ask q done) events answer ↔ events = [⟨q,answer⟩] := by
  refine runs_ask.trans ⟨?_,?_⟩
  · rintro ⟨_,rest,rfl,later⟩
    obtain ⟨rfl,rfl⟩ := runs_done.mp later
    rfl
  · rintro rfl; exact ⟨answer,[],rfl,.done⟩

theorem runs_bind {p : Program inquiry α} {next : α → Program inquiry β} :
    Runs (p.bind next) events result ↔
      ∃ first middle second, events = first ++ second ∧ Runs p first middle ∧ Runs (next middle) second result := by
  induction p generalizing events with
  | done value =>
    simp only [bind,runs_done]
    constructor
    · intro run; exact ⟨[],value,events,rfl,⟨rfl,rfl⟩,run⟩
    · rintro ⟨_,_,second,rfl,⟨rfl,rfl⟩,run⟩; exact run
  | ask q resume ih =>
    simp only [bind,runs_ask,ih]
    constructor
    · rintro ⟨answer,_,rfl,first,middle,second,rfl,before,after⟩
      exact ⟨_,middle,second,rfl,⟨answer,first,rfl,before⟩,after⟩
    · rintro ⟨_,middle,second,rfl,⟨answer,first,rfl,before⟩,after⟩
      exact ⟨answer,_,rfl,first,middle,second,rfl,before,after⟩

-- The answers settle how far a program comes: no run is a part of another.
theorem Runs.unique {p : Program inquiry α} (one : Runs p first a) (other : Runs p second b)
    (same : first ++ rest = second ++ tail) : first = second ∧ a = b := by
  induction one generalizing second with
  | done => cases other; exact ⟨rfl,rfl⟩
  | ask later ih =>
    cases other with
    | ask also =>
      simp only [List.cons_append,List.cons.injEq,Event.mk.injEq,heq_eq_eq,true_and] at same
      obtain ⟨rfl,same⟩ := same
      obtain ⟨rfl,rfl⟩ := ih also same
      exact ⟨rfl,rfl⟩

theorem Runs.result_unique {p : Program inquiry α} (one : Runs p events a) (other : Runs p events b) : a = b :=
  (Runs.unique one other (rfl : events ++ [] = events ++ [])).2

-- A world that answers, and may remember all that was asked of it before.
abbrev Behaviour (inquiry : Inquiry) :=
  List (Event inquiry) → (q : inquiry.Question) → inquiry.Answer q

def play (behaviour : Behaviour inquiry) (past : List (Event inquiry)) :
    Program inquiry α → List (Event inquiry) × α
  | done result => ([],result)
  | ask q resume =>
    let event : Event inquiry := ⟨q,behaviour past q⟩
    let later := play behaviour (past ++ [event]) (resume event.answer)
    (event :: later.1,later.2)

-- No behaviour leaves a program without a result.
theorem runs_play (behaviour : Behaviour inquiry) (past : List (Event inquiry)) (p : Program inquiry α) :
    Runs p (play behaviour past p).1 (play behaviour past p).2 := by
  induction p generalizing past with
  | done result => exact .done
  | ask q resume ih => exact .ask (ih _ _)

theorem play_answered (behaviour : Behaviour inquiry) (past : List (Event inquiry)) (p : Program inquiry α) :
    ∀ event ∈ (play behaviour past p).1, ∃ before, event.answer = behaviour before event.question := by
  induction p generalizing past with
  | done result => intro event member; cases member
  | ask q resume ih =>
    intro event member
    rcases List.mem_cons.mp member with rfl | later
    · exact ⟨past,rfl⟩
    · exact ih _ _ event later

theorem bind_done (p : Program inquiry α) : p.bind done = p := by
  induction p with
  | done result => rfl
  | ask q resume ih => exact congrArg (ask q) (funext ih)

theorem bind_assoc (p : Program inquiry α) (next : α → Program inquiry β) (last : β → Program inquiry γ) :
    (p.bind next).bind last = p.bind fun a => (next a).bind last := by
  induction p with
  | done result => rfl
  | ask q resume ih => exact congrArg (ask q) (funext ih)

instance : LawfulMonad (Program inquiry) :=
  LawfulMonad.mk' (Program inquiry) bind_done (fun _ _ => rfl) bind_assoc

-- What a program may ask, whatever it is told.

def Confined (allowed : inquiry.Question → Prop) (p : Program inquiry α) : Prop :=
  ∀ events result, Runs p events result → ∀ event ∈ events, allowed event.question

variable {allowed : inquiry.Question → Prop}

theorem Confined.mono {wider : inquiry.Question → Prop} {p : Program inquiry α} (confined : Confined allowed p)
    (implies : ∀ q, allowed q → wider q) : Confined wider p :=
  fun events result run event member => implies _ (confined events result run event member)

theorem confined_done {value : α} : Confined allowed (done value) := by
  intro events result run event member
  obtain ⟨rfl,_⟩ := runs_done.mp run
  cases member

theorem confined_question {q : inquiry.Question} (fits : allowed q) : Confined allowed (question q) := by
  intro events answer run event member
  rw [runs_question.mp run,List.mem_singleton] at member
  rw [member]
  exact fits

theorem confined_bind {p : Program inquiry α} {next : α → Program inquiry β} (before : Confined allowed p)
    (after : ∀ value, Confined allowed (next value)) : Confined allowed (p.bind next) := by
  intro events result run
  obtain ⟨first,value,second,rfl,early,late⟩ := runs_bind.mp run
  exact List.forall_mem_append.mpr ⟨before _ _ early,after value _ _ late⟩

-- Where the calls of a program are programs themselves, each call comes to a row of events of its own.

section Enacts

variable {inner outer : Inquiry} {answer : (q : inner.Question) → Program outer (inner.Answer q)}

inductive Enacts (answer : (q : inner.Question) → Program outer (inner.Answer q)) :
    List (Event inner) → List (Event outer) → Prop where
  | nil : Enacts answer [] []
  | cons : Runs (answer q) row reply → Enacts answer calls rest → Enacts answer (⟨q,reply⟩ :: calls) (row ++ rest)

theorem enacts_cons {q : inner.Question} {reply : inner.Answer q} :
    Enacts answer (⟨q,reply⟩ :: calls) events ↔
      ∃ row rest, events = row ++ rest ∧ Runs (answer q) row reply ∧ Enacts answer calls rest := by
  constructor
  · intro enacts
    cases enacts with
    | cons called later => exact ⟨_,_,rfl,called,later⟩
  · intro parts
    obtain ⟨row,rest,rfl,called,later⟩ := parts
    exact .cons called later

theorem enacts_append :
    Enacts answer (first ++ second) events ↔
      ∃ early late, events = early ++ late ∧ Enacts answer first early ∧ Enacts answer second late := by
  induction first generalizing events with
  | nil =>
    constructor
    · intro enacts
      exact ⟨[],events,rfl,.nil,enacts⟩
    · intro parts
      obtain ⟨early,late,rfl,nothing,enacts⟩ := parts
      cases nothing
      exact enacts
  | cons event rest ih =>
    obtain ⟨q,reply⟩ := event
    simp only [List.cons_append,enacts_cons,ih]
    constructor
    · intro parts
      obtain ⟨row,_,rfl,called,early,late,rfl,before,after⟩ := parts
      exact ⟨row ++ early,late,by simp,⟨row,early,rfl,called,before⟩,after⟩
    · intro parts
      obtain ⟨_,late,rfl,⟨row,early,rfl,called,before⟩,after⟩ := parts
      exact ⟨row,early ++ late,by simp,called,early,late,rfl,before,after⟩

theorem enacts_confined {allowed : outer.Question → Prop}
    (fits : ∀ event ∈ calls, Confined allowed (answer event.question)) (enacts : Enacts answer calls events) : ∀ event ∈ events, allowed event.question := by
  induction enacts with
  | nil => intro event member; cases member
  | cons called _ ih =>
    obtain ⟨first,later⟩ := List.forall_mem_cons.mp fits
    exact List.forall_mem_append.mpr ⟨first _ _ called,ih later⟩

theorem runs_run {p : Program inner α} :
    Runs (run answer p) events result ↔ ∃ calls, Runs p calls result ∧ Enacts answer calls events := by
  induction p generalizing events with
  | done value =>
    constructor
    · intro running
      obtain ⟨rfl,rfl⟩ := runs_done.mp running
      exact ⟨[],.done,.nil⟩
    · intro parts
      obtain ⟨calls,running,enacts⟩ := parts
      obtain ⟨rfl,rfl⟩ := runs_done.mp running
      cases enacts
      exact .done
  | ask q resume ih =>
    refine runs_bind.trans ⟨?_,?_⟩
    · intro parts
      obtain ⟨row,reply,rest,rfl,called,later⟩ := parts
      obtain ⟨calls,running,enacts⟩ := (ih reply).mp later
      exact ⟨_,.ask running,.cons called enacts⟩
    · intro parts
      obtain ⟨_,running,enacts⟩ := parts
      obtain ⟨reply,calls,rfl,later⟩ := runs_ask.mp running
      obtain ⟨row,rest,rfl,called,enacting⟩ := enacts_cons.mp enacts
      exact ⟨row,reply,rest,rfl,called,(ih reply).mpr ⟨calls,later,enacting⟩⟩

end Enacts

end Entitlement.Program
