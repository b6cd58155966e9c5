import Entitlement.Proofs.Json.Fields
import Entitlement.Server

-- What a refusal says. A server means the localized error before the error, and neither when it is blank. It is understood
-- if both are texts, null or missing, and neither is written twice; if one of them is anything else, the other one is lost
-- with it and the refusal says what its status stands for. An array of two is taken for the two members.
namespace Entitlement.Server

open Json

variable {members : List (Scribed × Node)} {fields : Fields} {name : String} {room status : Nat} {body : Bytes}
  {error localized : Option String}

def wordsOf : Option Node → Option String
  | some (.string text) => text
  | _ => none

-- What a member of an object says. A blank text says nothing.
def spoken? (name : String) (members : List (Scribed × Node)) : Option String :=
  (wordsOf ((members.find? fun m => m.1 == some name).map Prod.snd)).filter fun text => !Text.isBlankText text

-- What a refusal says for a server that says nothing.
def silent (status : Nat) : String := (Http.reason? status).getD "unexpected response"

-- What the server means, whatever else stands in its answer.
def meant (status : Nat) : Option Node → String
  | some (.object members) =>
    ((spoken? "localized_error" members).or (spoken? "error" members)).getD (silent status)
  | _ => silent status

def Textual (node : Node) : Prop := node = .null ∨ ∃ text : String, node = .string (some text)

structure Legible (members : List (Scribed × Node)) : Prop extends Regular refusalFields members where
  textual : ∀ name ∈ refusalFields, ∀ node, (some name,node) ∈ members → Textual node

-- The answers that are understood.
def Heeded : Option Node → Prop
  | some (.object members) => Legible members
  | some (.array [error,localized]) => ¬ (Textual error ∧ Textual localized)
  | _ => True

theorem nullable_textual {found : Option Node} (got : fields.get? name = found)
    (textual : ∀ node, found = some node → Textual node) :
    fields.nullable name room Reader.string = some (wordsOf found) := by
  rw [Fields.nullable,Fields.optional,got]
  cases found with
  | none => rfl
  | some node =>
    rcases textual node rfl with rfl | ⟨text,rfl⟩
    · rfl
    · rfl

theorem nullable_untextual {node : Node} (got : fields.get? name = some node) (untextual : ¬ Textual node) :
    fields.nullable name room Reader.string = none := by
  rw [Fields.nullable,Fields.optional,got]
  cases node with
  | null => exact absurd (.inl rfl) untextual
  | string text =>
    cases text with
    | none => rfl
    | some text => exact absurd (.inr ⟨text,rfl⟩) untextual
  | _ => rfl

-- The two messages, once the fields are found.
def messages (fields : Fields) (room : Nat) : Option (Option String × Option String) :=
  (fields.nullable "error" room Reader.string).bind fun error =>
    (fields.nullable "localized_error" room Reader.string).bind fun localized => some (error,localized)

theorem readRefusal_eq {node : Node} : readRefusal room node =
    (Fields.ofNode? refusalFields refusalFields.length room node).bind fun found => messages found.1 found.2 := rfl

theorem messages_textual (textual : ∀ name ∈ refusalFields, ∀ node, fields.get? name = some node → Textual node) :
    messages fields room = some (wordsOf (fields.get? "error"),wordsOf (fields.get? "localized_error")) := by
  rw [messages,nullable_textual rfl (textual "error" (by decide)),
    nullable_textual rfl (textual "localized_error" (by decide))]
  rfl

theorem messages_untextual {node : Node} (known : name ∈ refusalFields) (got : fields.get? name = some node)
    (untextual : ¬ Textual node) : messages fields room = none := by
  have failed : fields.nullable name room Reader.string = none := nullable_untextual got untextual
  simp only [refusalFields,List.mem_cons,List.not_mem_nil,or_false] at known
  rcases known with rfl | rfl
  · rw [messages,failed,Option.bind_none]
  · rw [messages,failed]
    exact Option.bind_fun_none _

theorem readRefusal_legible (legible : Legible members) : readRefusal (room + 1) (.object members) =
    some (wordsOf ((members.find? fun m => m.1 == some "error").map Prod.snd),
      wordsOf ((members.find? fun m => m.1 == some "localized_error").map Prod.snd)) := by
  have found : Fields.ofNode? refusalFields refusalFields.length (room + 1) (.object members) =
      some (kept refusalFields members,room) := by
    rw [Fields.ofNode?,ofMembers?_regular legible.toRegular]
    rfl
  rw [readRefusal_eq,found,Option.bind_some,messages_textual,get?_kept (by decide),get?_kept (by decide)]
  intro name known node got
  exact legible.textual name known node (mem_kept.mp (Fields.mem_of_get? got)).1

theorem readRefusal_illegible (illegible : ¬ Legible members) : readRefusal room (.object members) = none := by
  cases room with
  | zero => rfl
  | succ room =>
    rw [readRefusal_eq,Fields.ofNode?]
    by_cases regular : Regular refusalFields members
    · obtain ⟨name,known,node,member,untextual⟩ :
          ∃ name ∈ refusalFields, ∃ node, (some name,node) ∈ members ∧ ¬ Textual node := by
        by_contra all
        push Not at all
        exact illegible ⟨regular,all⟩
      rw [ofMembers?_regular regular]
      exact messages_untextual known (Fields.get?_of_mem regular.distinct (mem_kept.mpr ⟨member,known⟩)) untextual
    · rw [ofMembers?_irregular regular]
      rfl

section Pairs

variable {first second : Node}

def pair (first second : Node) : Fields := [("error",first),("localized_error",second)]

theorem readRefusal_pair : readRefusal (room + 1) (.array [first,second]) = messages (pair first second) room := rfl

theorem readRefusal_textual (one : Textual first) (other : Textual second) :
    readRefusal (room + 1) (.array [first,second]) = some (wordsOf (some first),wordsOf (some second)) := by
  rw [readRefusal_pair,messages_textual]
  · rfl
  · simp only [refusalFields,List.forall_mem_cons]
    refine ⟨fun node got => ?_,fun node got => ?_,nofun⟩
    · cases got; exact one
    · cases got; exact other

theorem readRefusal_untextual (untextual : ¬ (Textual first ∧ Textual second)) :
    readRefusal room (.array [first,second]) = none := by
  cases room with
  | zero => rfl
  | succ room =>
    rw [readRefusal_pair]
    rcases not_and_or.mp untextual with one | other
    · have got : (pair first second).get? "error" = some first := rfl
      exact messages_untextual (by decide) got one
    · have got : (pair first second).get? "localized_error" = some second := rfl
      exact messages_untextual (by decide) got other

end Pairs

-- No other row has as many items as there are members.
theorem readRefusal_row {items : List Node} (other : ∀ first second, items ≠ [first,second]) :
    readRefusal room (.array items) = none := by
  have many : ¬ (refusalFields.length ≤ items.length ∧ items.length ≤ refusalFields.length) := by
    rintro ⟨least,most⟩
    obtain ⟨first,second,same⟩ := List.length_eq_two.mp (Nat.le_antisymm most least)
    exact other first second same
  cases room with
  | zero => rfl
  | succ room =>
    rw [readRefusal_eq,Fields.ofNode?,Fields.ofItems?,if_neg many]
    rfl

theorem find?_filled (first second : Option String) (p : String → Bool) :
    ([first,second].filterMap id).find? p = (first.filter p).or (second.filter p) := by
  have last : ([second].filterMap id).find? p = second.filter p := by
    cases second with
    | none => rfl
    | some text => cases told : p text <;> simp [Option.filter_some,told]
  cases first with
  | none => exact last
  | some text =>
    cases told : p text with
    | true => simp [Option.filter_some,told]
    | false =>
      rw [Option.filter_some,told,if_neg nofun,Option.none_or,← last]
      simp [List.find?_cons,told]

theorem ofBytes?_written {document : Node} (written : Node.ofBytes? body = some document) :
    Json.ofBytes? readRefusal body = readRefusal Json.depthLimit document := by
  rw [Json.ofBytes?,written]
  rfl

theorem refusal_read (read : Json.ofBytes? readRefusal body = some (error,localized)) :
    refusal status body = .api status (((localized.filter fun text => !Text.isBlankText text).or
      (error.filter fun text => !Text.isBlankText text)).getD (silent status)) := by
  rw [refusal,refusalMessage,read,Option.getD_some,silent]
  dsimp only
  rw [find?_filled]
  cases (localized.filter fun text => !Text.isBlankText text).or
    (error.filter fun text => !Text.isBlankText text) <;> rfl

theorem refusal_unread (unread : Json.ofBytes? readRefusal body = none) :
    refusal status body = .api status (silent status) := by
  rw [refusal,refusalMessage,unread]
  rfl

-- What comes of every answer. The code is the status; the message is the one that is meant whenever the answer is
-- understood, and none when it is not. Two texts in a row are heard as well.
structure Answers (status : Nat) (body : Bytes) : Prop where
  heeded : Heeded (Node.ofBytes? body) → refusal status body = .api status (meant status (Node.ofBytes? body))
  lost : ∀ members, Node.ofBytes? body = some (.object members) → ¬ Legible members →
    refusal status body = .api status (silent status)
  paired : ∀ error localized, Node.ofBytes? body = some (.array [error,localized]) → Textual error → Textual localized →
    refusal status body = .api status (meant status (some (.object
      [(some "error",error),(some "localized_error",localized)])))

theorem refusal_answers (status : Nat) (body : Bytes) : Answers status body where
  heeded heeded := by
    cases written : Node.ofBytes? body with
    | none => exact refusal_unread (by rw [Json.ofBytes?,written]; rfl)
    | some document =>
      have read := ofBytes?_written written
      rw [written] at heeded
      cases document with
      | object members => exact refusal_read (read.trans (readRefusal_legible heeded))
      | array items =>
        refine refusal_unread (read.trans ?_)
        by_cases pairs : ∃ first second, items = [first,second]
        · obtain ⟨first,second,rfl⟩ := pairs
          exact readRefusal_untextual heeded
        · exact readRefusal_row fun first second same => pairs ⟨first,second,same⟩
      | _ => exact refusal_unread (read.trans rfl)
  lost members written illegible := refusal_unread ((ofBytes?_written written).trans (readRefusal_illegible illegible))
  paired error localized written one other :=
    refusal_read ((ofBytes?_written written).trans (readRefusal_textual one other))

def plain : Json := .object [("error",.string "No product found"),("localized_error",.string "Kein Produkt gefunden"),
  ("code",Json.integer 5)]

theorem plain_answered : refusal 422 (Text.encode plain.compact) = .api 422 "Kein Produkt gefunden" := by
  have written : Node.ofBytes? (Text.encode plain.compact) = some plain.node := Node.ofBytes?_compact plain
  have heeded := (refusal_answers 422 (Text.encode plain.compact)).heeded
  rw [written] at heeded
  refine heeded ⟨⟨by decide,by decide⟩,fun name known value member => ?_⟩
  rcases List.mem_cons.mp member with same | member
  · cases same; exact .inr ⟨_,rfl⟩
  rcases List.mem_cons.mp member with same | member
  · cases same; exact .inr ⟨_,rfl⟩
  · cases List.mem_singleton.mp member
    exact absurd known (by decide)

-- One of the members is a number, and the other is lost with it.
def mistyped : Json := .object [("localized_error",.string "Kein Produkt gefunden"),("error",Json.integer 5)]

theorem localized_lost :
    meant 422 (Node.ofBytes? (Text.encode mistyped.compact)) = "Kein Produkt gefunden" ∧
    refusal 422 (Text.encode mistyped.compact) = .api 422 "Unprocessable Entity" := by
  have written : Node.ofBytes? (Text.encode mistyped.compact) = some mistyped.node := Node.ofBytes?_compact mistyped
  rw [written]
  exact ⟨by decide,refusal_unread ((ofBytes?_written written).trans rfl)⟩

end Entitlement.Server
