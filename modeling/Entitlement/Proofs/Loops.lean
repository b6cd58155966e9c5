import Entitlement.Proofs.Actions

-- Loops over a list, by their runs. A loop that does not come to its end has gone through the first part of its list
-- with success, and ends as the next step does. A call in the middle of a loop belongs to the step for one member.
namespace Entitlement

variable {inquiry : Inquiry} {ε α β γ : Type} {step : α → ExceptT ε (Program inquiry) β} {list : List α}

-- A step taken for each member of a list in turn, each time with success, and what came of it.
inductive Gathers (step : α → ExceptT ε (Program inquiry) β) :
    List α → List (Program.Event inquiry) → List β → Prop where
  | nil : Gathers step [] [] []
  | cons : Ran (step head) first (.ok value) → Gathers step rest second values →
      Gathers step (head :: rest) (first ++ second) (value :: values)

-- The steps for the members before one for which it fails, and that one.
def Breaks (step : α → ExceptT ε (Program inquiry) β) (list : List α) (events : List (Program.Event inquiry))
    (error : ε) : Prop :=
  ∃ done failing rest first second values, list = done ++ failing :: rest ∧ events = first ++ second ∧
    Gathers step done first values ∧ Ran (step failing) second (.error error)

theorem Breaks.later {head : α} {value : β} (ran : Ran (step head) first (.ok value))
    (breaks : Breaks step list second error) : Breaks step (head :: list) (first ++ second) error := by
  obtain ⟨done,failing,rest,before,last,values,rfl,rfl,gathers,failed⟩ := breaks
  exact ⟨head :: done,failing,rest,first ++ before,last,value :: values,rfl,by simp,.cons ran gathers,failed⟩

theorem ran_mapM {result : Except ε (List β)} :
    Ran (list.mapM step) events result ↔
      (∃ values, Gathers step list events values ∧ result = .ok values) ∨
      ∃ error, Breaks step list events error ∧ result = .error error := by
  constructor
  · intro ran
    induction list generalizing events result with
    | nil =>
      obtain ⟨rfl,rfl⟩ := ran_pure.mp ran
      exact .inl ⟨[],.nil,rfl⟩
    | cons head rest ih =>
      rw [List.mapM_cons] at ran
      rcases ran_bind.mp ran with ⟨error,failed,rfl⟩ | ⟨first,value,_,rfl,done,later⟩
      · exact .inr ⟨error,⟨[],head,rest,[],events,[],rfl,rfl,.nil,failed⟩,rfl⟩
      rcases ran_bind.mp later with ⟨error,failed,rfl⟩ | ⟨second,values,_,rfl,gathered,last⟩
      · rcases ih failed with ⟨_,_,impossible⟩ | ⟨_,breaks,same⟩
        · cases impossible
        · cases same; exact .inr ⟨error,breaks.later done,rfl⟩
      · obtain ⟨rfl,rfl⟩ := ran_pure.mp last
        rcases ih gathered with ⟨_,gathers,same⟩ | ⟨_,_,impossible⟩
        · cases same; exact .inl ⟨_,by simpa using Gathers.cons done gathers,rfl⟩
        · cases impossible
  · intro ends
    rcases ends with ⟨values,gathers,rfl⟩ |
      ⟨error,⟨done,failing,rest,first,second,values,rfl,rfl,gathers,failed⟩,rfl⟩
    · induction gathers with
      | nil => exact ran_pure.mpr ⟨rfl,rfl⟩
      | cons ran _ ih =>
        rw [List.mapM_cons]
        refine ran_bind.mpr (.inr ⟨_,_,_,rfl,ran,ran_bind.mpr (.inr ⟨_,_,[],?_,ih,ran_pure.mpr ⟨rfl,rfl⟩⟩)⟩)
        simp
    · induction gathers with
      | nil =>
        rw [List.nil_append,List.mapM_cons]
        exact ran_bind.mpr (.inl ⟨error,failed,rfl⟩)
      | cons ran _ ih =>
        rw [List.cons_append,List.mapM_cons,List.append_assoc]
        exact ran_bind.mpr (.inr ⟨_,_,_,rfl,ran,ran_bind.mpr (.inl ⟨error,ih,rfl⟩)⟩)

-- A loop that yields nothing is one whose results are dropped.
theorem forM_eq_mapM {step : α → ExceptT ε (Program inquiry) Unit} :
    list.forM step = list.mapM step >>= fun _ => pure () := by
  induction list with
  | nil => rfl
  | cons head rest ih =>
    rw [List.mapM_cons,bind_assoc]
    change (step head >>= fun _ => rest.forM step) = _
    rw [ih]
    simp only [bind_assoc,pure_bind]

theorem ran_forM {step : α → ExceptT ε (Program inquiry) Unit} :
    Ran (list.forM step) events result ↔
      (∃ values, Gathers step list events values ∧ result = .ok ()) ∨
      ∃ error, Breaks step list events error ∧ result = .error error := by
  rw [forM_eq_mapM,ran_bind]
  simp only [ran_mapM,ran_pure]
  constructor
  · intro ends
    rcases ends with ⟨error,⟨_,_,impossible⟩ | ⟨_,breaks,same⟩,rfl⟩ |
      ⟨first,_,_,rfl,⟨values,gathers,_⟩ | ⟨_,_,impossible⟩,rfl,rfl⟩
    · cases impossible
    · cases same; exact .inr ⟨error,breaks,rfl⟩
    · exact .inl ⟨values,by simpa using gathers,rfl⟩
    · cases impossible
  · intro ends
    rcases ends with ⟨values,gathers,rfl⟩ | ⟨error,breaks,rfl⟩
    · exact .inr ⟨events,values,[],by simp,.inl ⟨values,gathers,rfl⟩,rfl,rfl⟩
    · exact .inl ⟨error,.inr ⟨error,breaks,rfl⟩,rfl⟩

section Requests

variable {pick : inquiry.Question → Option γ} {each : α → γ}

theorem Gathers.requests_eq (asked : ∀ item events result, Ran (step item) events result →
    requests pick events = [each item]) (gathers : Gathers step list events values) :
    requests pick events = list.map each := by
  induction gathers with
  | nil => rfl
  | cons ran _ ih => rw [requests_append,asked _ _ _ ran,ih]; rfl

-- Where every step makes one call of a kind, a loop makes those calls in the order of its list.
theorem Breaks.requests_eq (asked : ∀ item events result, Ran (step item) events result →
    requests pick events = [each item]) (breaks : Breaks step list events error) :
    ∃ done failing rest, list = done ++ failing :: rest ∧ requests pick events = (done ++ [failing]).map each := by
  obtain ⟨done,failing,rest,first,second,values,same,rfl,gathers,failed⟩ := breaks
  refine ⟨done,failing,rest,same,?_⟩
  rw [requests_append,gathers.requests_eq asked,asked _ _ _ failed,List.map_append]
  rfl

theorem Breaks.requests_begin (asked : ∀ item events result, Ran (step item) events result →
    requests pick events = [each item]) (breaks : Breaks step list events error) :
    requests pick events <+: list.map each := by
  obtain ⟨done,failing,rest,rfl,same⟩ := breaks.requests_eq asked
  refine ⟨rest.map each,?_⟩
  rw [same]
  simp

end Requests

-- A member of two lists, one after the other, stands in the first or in the second.
theorem append_eq_split {first second before after : List α} {item : α} :
    first ++ second = before ++ item :: after ↔
      (∃ between, first = before ++ item :: between ∧ after = between ++ second) ∨
      ∃ between, second = between ++ item :: after ∧ before = first ++ between := by
  rw [List.append_eq_append_iff]
  constructor
  · intro parts
    rcases parts with ⟨between,same,rest⟩ | ⟨gap,same,rest⟩
    · exact .inr ⟨between,rest,same⟩
    · cases gap with
      | nil => exact .inr ⟨[],rest.symm,by simpa using same.symm⟩
      | cons head gap =>
        obtain ⟨rfl,rfl⟩ := List.cons.inj rest
        exact .inl ⟨gap,same,rfl⟩
  · intro parts
    rcases parts with ⟨between,rfl,rfl⟩ | ⟨between,rfl,rfl⟩
    · exact .inr ⟨item :: between,rfl,rfl⟩
    · exact .inl ⟨between,rfl,rfl⟩

-- A call of a kind that is made neither before nor after a row is made in it.
theorem within_row {pick : inquiry.Question → Option γ} {opening row closing : List (Program.Event inquiry)}
    {event : Program.Event inquiry} (parts : opening ++ (row ++ closing) = before ++ event :: after)
    (opens : requests pick opening = []) (closes : requests pick closing = [])
    (asked : pick event.question ≠ none) :
    ∃ beginning ending, before = opening ++ beginning ∧ row = beginning ++ event :: ending := by
  rcases append_eq_split.mp parts with ⟨_,rfl,_⟩ | ⟨beginning,later,rfl⟩
  · exact absurd (unasked opens) asked
  rcases append_eq_split.mp later with ⟨ending,rfl,_⟩ | ⟨_,rfl,_⟩
  · exact ⟨beginning,ending,rfl,rfl⟩
  · exact absurd (unasked closes) asked

-- A call in the middle of a loop belongs to the step for one member, and other steps come before and after it.
inductive Placed (step : α → ExceptT ε (Program inquiry) β) :
    List α → List (Program.Event inquiry) → Program.Event inquiry → List (Program.Event inquiry) → Prop where
  | within : Gathers step done first earlier → Ran (step item) (beginning ++ event :: ending) (.ok value) →
      Gathers step rest last later → Placed step (done ++ item :: rest) (first ++ beginning) event (ending ++ last)

theorem Placed.later {head : α} {value : β} (ran : Ran (step head) first (.ok value))
    (placed : Placed step list before event after) : Placed step (head :: list) (first ++ before) event after := by
  cases placed with
  | within gathers own rest =>
    rw [← List.append_assoc]
    exact .within (.cons ran gathers) own rest

theorem Gathers.placed (gathers : Gathers step list events values) (parts : events = before ++ event :: after) :
    Placed step list before event after := by
  induction gathers generalizing before with
  | nil => simp at parts
  | cons ran gathers ih =>
    rcases append_eq_split.mp parts with ⟨between,rfl,rfl⟩ | ⟨between,rfl,rfl⟩
    · have atHead := Placed.within .nil ran gathers
      exact atHead
    · exact .later ran (ih rfl)

end Entitlement
