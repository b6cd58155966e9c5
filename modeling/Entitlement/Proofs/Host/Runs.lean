import Entitlement.Host.Machine
import Entitlement.Proofs.Actions

-- The runs of an operation on a machine. The file system answers for itself and nothing but a call for a file changes
-- it; what everything else answers is left open, the servers' responses above all.
namespace Entitlement.Host

abbrev Event := Program.Event inquiry

def changed (fs : FileSystem) : Except Obstacle FileSystem → Except Obstacle Unit × FileSystem
  | .ok after => (.ok (),after)
  | .error obstacle => (.error obstacle,fs)

-- What is answered to a call, and the file system after it.
def fileReply (fs : FileSystem) : (call : FileCall) → call.Reply × FileSystem
  | .look path => (fs.pathExists path,fs)
  | .read path => (fs.readFile path,fs)
  | .write path content => changed fs (fs.writeFile path content)
  | .createDirectories path => changed fs (fs.createDirectories path)
  | .setMode path mode => changed fs (fs.setMode path mode)
  | .remove path => changed fs (fs.removeFile path)

inductive Follows : FileSystem → List Event → FileSystem → Prop where
  | nil : Follows fs [] fs
  | file : Follows (fileReply fs call).2 events after → Follows fs (⟨.file call,(fileReply fs call).1⟩ :: events) after
  | other : (∀ call, q ≠ .file call) → Follows fs events after → Follows fs (⟨q,answer⟩ :: events) after

theorem follows_append {fs after : FileSystem} :
    Follows fs (first ++ second) after ↔ ∃ between, Follows fs first between ∧ Follows between second after := by
  constructor
  · intro follows
    induction first generalizing fs with
    | nil => exact ⟨fs,.nil,follows⟩
    | cons event rest ih =>
      cases follows with
      | file later =>
        obtain ⟨between,before,left⟩ := ih later
        exact ⟨between,.file before,left⟩
      | other apart later =>
        obtain ⟨between,before,left⟩ := ih later
        exact ⟨between,.other apart before,left⟩
  · rintro ⟨between,before,left⟩
    induction before with
    | nil => exact left
    | file _ ih => exact .file (ih left)
    | other apart _ ih => exact .other apart (ih left)

variable {σ : Type}

theorem change_eq (m : Machine σ) (edit : FileSystem → Except Obstacle FileSystem) :
    Machine.change edit m = ((changed m.files (edit m.files)).1,{ m with files := (changed m.files (edit m.files)).2 }) := by
  unfold Machine.change
  cases edit m.files with
  | ok after => rfl
  | error obstacle => rfl

theorem answerFile_eq (m : Machine σ) (call : FileCall) :
    Machine.answerFile call m = ((fileReply m.files call).1,{ m with files := (fileReply m.files call).2 }) := by
  cases call with
  | look path => rfl
  | read path => rfl
  | write path content => exact change_eq m fun files => files.writeFile path content
  | createDirectories path => exact change_eq m fun files => files.createDirectories path
  | setMode path mode => exact change_eq m fun files => files.setMode path mode
  | remove path => exact change_eq m fun files => files.removeFile path

theorem answer_files (s : Surroundings σ) (m : Machine σ) (q : Question) (apart : ∀ call, q ≠ .file call) :
    (Machine.answer s q m).2.files = m.files := by
  cases q with
  | file call => exact absurd rfl (apart call)
  | environment name => rfl
  | accountHome => rfl
  | run command => rfl
  | exchange exchange => rfl
  | hardware => rfl
  | print text => rfl
  | readLine => rfl
  | linesLeft => rfl
  | report level event => rfl

-- What an operation asks of a machine, and what it is told.
def transcript (s : Surroundings σ) : Operation α → Machine σ → List Event
  | .done _,_ => []
  | .ask q resume,m =>
    let told := Machine.answer s q m
    ⟨q,told.1⟩ :: transcript s (resume told.1) told.2

-- What an operation does on a machine is one of its runs.
theorem run_transcript (s : Surroundings σ) (p : Operation α) (m : Machine σ) :
    Program.Runs p (transcript s p m) (Machine.run s p m).1 ∧
      Follows m.files (transcript s p m) (Machine.run s p m).2.files := by
  induction p generalizing m with
  | done result => exact ⟨.done,.nil⟩
  | ask q resume ih =>
    obtain ⟨later,follows⟩ := ih (Machine.answer s q m).1 (Machine.answer s q m).2
    have whole : Machine.run s (.ask q resume) m =
      Machine.run s (resume (Machine.answer s q m).1) (Machine.answer s q m).2 := rfl
    refine ⟨.ask later,?_⟩
    rw [whole,transcript]
    by_cases file : ∃ call, q = .file call
    · obtain ⟨call,rfl⟩ := file
      have answered : Machine.answer s (.file call) m = _ := answerFile_eq m call
      rw [answered] at follows ⊢
      exact .file follows
    · have apart : ∀ call, q ≠ .file call := fun call same => file ⟨call,same⟩
      rw [answer_files s m q apart] at follows
      exact .other apart follows

theorem run_follows (s : Surroundings σ) (p : Operation α) (m : Machine σ) :
    ∃ events, Program.Runs p events (Machine.run s p m).1 ∧ Follows m.files events (Machine.run s p m).2.files :=
  ⟨transcript s p m,run_transcript s p m⟩

-- Nothing is sent.
def Quiet (events : List Event) : Prop := ∀ event ∈ events, ∀ exchange, event.question ≠ .exchange exchange

theorem quiet_append {first second : List Event} : Quiet (first ++ second) ↔ Quiet first ∧ Quiet second :=
  List.forall_mem_append

-- What an operation comes to, whatever is answered besides, when it sends nothing.
def Yields (p : Operation α) (fs : FileSystem) (result : α) (after : FileSystem) : Prop :=
  ∀ events answer left, Program.Runs p events answer → Follows fs events left →
    answer = result ∧ left = after ∧ Quiet events

variable {fs between after : FileSystem}

theorem yields_pure {value : α} : Yields (pure value) fs value fs := by
  intro events answer left run follows
  obtain ⟨rfl,rfl⟩ := Program.runs_done.mp run
  cases follows
  exact ⟨rfl,rfl,fun _ member => nomatch member⟩

theorem yields_bind {p : Operation α} {next : α → Operation β} {value : α} {result : β}
    (first : Yields p fs value between) (later : Yields (next value) between result after) :
    Yields (p >>= next) fs result after := by
  intro events answer left run follows
  obtain ⟨before,_,rest,rfl,early,late⟩ := Program.runs_bind.mp run
  obtain ⟨_,followsEarly,followsLate⟩ := follows_append.mp follows
  obtain ⟨rfl,rfl,quietEarly⟩ := first _ _ _ early followsEarly
  obtain ⟨rfl,rfl,quietLate⟩ := later _ _ _ late followsLate
  exact ⟨rfl,rfl,quiet_append.mpr ⟨quietEarly,quietLate⟩⟩

theorem yields_file {call : FileCall} : Yields (ask (.file call)) fs (fileReply fs call).1 (fileReply fs call).2 := by
  intro events answer left run follows
  cases Program.runs_question.mp run
  cases follows with
  | file later => cases later; exact ⟨rfl,rfl,by simp [Quiet]⟩
  | other apart _ => exact absurd rfl (apart call)

theorem yields_report {level : Level} {text : String} : Yields (ask (.report level text)) fs () fs := by
  intro events answer left run follows
  cases Program.runs_question.mp run
  cases follows with
  | other _ later => cases later; exact ⟨rfl,rfl,by simp [Quiet]⟩

theorem yields_fileExists {path : String} {there : Bool} (same : fs.pathExists path = there) :
    Yields (fileExists path) fs there fs := same ▸ yields_file

theorem yields_lift {p : Operation α} {value : α} (yields : Yields p fs value after) :
    Yields (ExceptT.lift p : Action α).run fs (.ok value) after := yields_bind yields yields_pure

theorem yields_then {action : Action α} {next : α → Action β} {value : α} {result : Result β}
    (first : Yields action.run fs (.ok value) between) (later : Yields (next value).run between result after) :
    Yields (action >>= next).run fs result after := yields_bind first later

theorem yields_throw {error : Error} : Yields (throw error : Action α).run fs (.error error) fs := yields_pure

theorem yields_stops {action : Action α} {next : α → Action β} {error : Error}
    (stops : Yields action.run fs (.error error) after) : Yields (action >>= next).run fs (.error error) after :=
  yields_bind stops yields_pure

theorem yields_liftExcept {settled result : Result α} (same : settled = result) :
    Yields (liftExcept settled : Action α).run fs result fs := by
  subst same
  cases settled with
  | ok value => exact yields_pure
  | error error => exact yields_throw

theorem yields_orFail {context : String} {operation : Operation (Except Obstacle α)} {value : α}
    (yields : Yields operation fs (.ok value) after) : Yields (orFail context operation).run fs (.ok value) after :=
  yields_then (yields_lift yields) yields_pure

theorem Yields.ran_bind {action : Action α} {next : α → Action β} {value : α} {result : Result β}
    (yields : Yields action.run fs (.ok value) between) (ran : Ran (action >>= next) events result)
    (follows : Follows fs events after) :
    ∃ first second, events = first ++ second ∧ Quiet first ∧ Ran (next value) second result ∧
      Follows between second after := by
  obtain ⟨first,_,second,rfl,early,late⟩ := Program.runs_bind.mp ran
  obtain ⟨_,followsEarly,followsLate⟩ := follows_append.mp follows
  obtain ⟨rfl,rfl,quiet⟩ := yields _ _ _ early followsEarly
  exact ⟨first,second,rfl,quiet,late,followsLate⟩

-- What a question about a file comes to.

theorem ran_orFail {context : String} {operation : Operation (Except Obstacle α)} {events : List Event}
    (ran : Ran (orFail context operation) events result) :
    ∃ reply, Program.Runs operation events reply ∧ result = reply.mapError fun obstacle => .io context obstacle.message := by
  obtain ⟨first,reply,_,rfl,asked,later⟩ := ran_lift_bind.mp ran
  cases reply with
  | ok given =>
    obtain ⟨rfl,same⟩ := ran_pure.mp later
    exact ⟨.ok given,by rwa [List.append_nil],same⟩
  | error obstacle =>
    obtain ⟨rfl,same⟩ := ran_throw.mp later
    exact ⟨.error obstacle,by rwa [List.append_nil],same⟩

theorem ran_orFail_ok {context : String} {operation : Operation (Except Obstacle α)} {value : α}
    {events : List Event} (ran : Ran (orFail context operation) events (.ok value)) :
    Program.Runs operation events (.ok value) := by
  obtain ⟨reply,asked,same⟩ := ran_orFail ran
  cases reply with
  | ok given => cases same; exact asked
  | error obstacle => cases same

theorem changed_eq {fs after : FileSystem} {reply : Except Obstacle FileSystem} {answer : Except Obstacle Unit}
    (same : changed fs reply = (answer,after)) :
    (answer = .ok () ∧ reply = .ok after) ∨ ∃ obstacle, answer = .error obstacle ∧ reply = .error obstacle ∧ after = fs := by
  cases reply with
  | ok other => cases same; exact .inl ⟨rfl,rfl⟩
  | error obstacle => cases same; exact .inr ⟨obstacle,rfl,rfl,rfl⟩

theorem changed_eq_ok {fs after : FileSystem} {reply : Except Obstacle FileSystem}
    (same : changed fs reply = (.ok (),after)) : reply = .ok after := by
  rcases changed_eq same with ⟨_,made⟩ | ⟨_,stuck,_⟩
  · exact made
  · cases stuck

theorem fileReply_of_runs {call : FileCall} {events : List Event} {answer : call.Reply}
    (runs : Program.Runs (ask (.file call)) events answer) (follows : Follows fs events after) :
    fileReply fs call = (answer,after) := by
  obtain ⟨rfl,rfl,_⟩ := yields_file _ _ _ runs follows
  rfl

end Entitlement.Host
