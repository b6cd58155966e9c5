import Entitlement.CommandLine.Lines
import Entitlement.Proofs.Text.Occurrences

-- The line that tells a failure. It ends with the innermost cause, whose text every link of the chain has at its end: an
-- error that is told together with its source tells that text again for each of them. It is one line unless the cause is
-- a command that failed, whose message takes two.
namespace Entitlement

namespace Error

-- The text of the innermost cause, and what the message has before it.

def innermost : Error → String
  | productStep _ _ source => source.innermost
  | json text => text
  | io _ cause => cause
  | error => error.message

def framing : Error → String
  | productStep action product source => action ++ " " ++ product ++ " failed: " ++ source.framing
  | json _ => "invalid JSON payload: "
  | io context _ => context ++ ": "
  | _ => ""

-- The texts that an error is made of.
def texts : Error → List String
  | unsupportedOperation text | invalidTriplet text | transport text | json text | xml text | config text => [text]
  | treeTooDeep root _ => [root]
  | missingCredentials path | malformedCredentials path => [path]
  | api _ message => [message]
  | command line _ output => [line,output]
  | productStep action product source => action :: product :: source.texts
  | io context cause => [context,cause]
  | systemNotRegistered | baseProductDeactivation | cannotDetectBaseProduct | noProxyCredentials => []

theorem message_step (action product : String) (source : Error) : (productStep action product source).message =
    action ++ " " ++ product ++ " failed: " ++ source.message := rfl

theorem message_eq (error : Error) : error.message = error.framing ++ error.innermost := by
  induction error with
  | productStep action product source ih =>
    rw [message_step,ih,← String.append_assoc]
    rfl
  | json text => rfl
  | io context cause => rfl
  | _ => exact String.empty_append.symm

-- Every link of the chain ends with that text.
theorem innermost_suffix (error : Error) : ∀ cause ∈ error.causes, error.innermost.toList <:+ cause.toList := by
  induction error with
  | productStep action product source ih =>
    refine List.forall_mem_cons.mpr ⟨?_,ih⟩
    rw [source.message_eq,String.toList_append]
    exact List.suffix_append _ _
  | json text => exact List.forall_mem_singleton.mpr (List.suffix_refl _)
  | io context cause => exact List.forall_mem_singleton.mpr (List.suffix_refl _)
  | _ => exact nofun

end Error

namespace CommandLine

-- The characters that end a line.
def lineBreaks : List Char := ['\n','\r','\x0b','\x0c','\u0085','\u2028','\u2029']

-- None of these characters is in the text.
def Unbroken (breaks : List Char) (text : String) : Prop := ∀ c ∈ breaks, c ∉ text.toList

instance (breaks : List Char) (text : String) : Decidable (Unbroken breaks text) :=
  List.decidableBAll (fun c => c ∉ text.toList) breaks

variable {breaks : List Char}

theorem unbroken_append {first second : String} :
    Unbroken breaks (first ++ second) ↔ Unbroken breaks first ∧ Unbroken breaks second := by
  simp only [Unbroken,String.toList_append,List.mem_append,not_or,imp_and,forall_and]

theorem Unbroken.fewer {text : String} (unbroken : Unbroken lineBreaks text) (fewer : breaks ⊆ lineBreaks) :
    Unbroken breaks text := fun c member => unbroken c (fewer member)

theorem unbroken_natural (n : Nat) : Unbroken lineBreaks (toString n) := by
  have undigital : (lineBreaks.any fun c => c.isDigit) = false := by decide
  have digits : (toString n).toList = Nat.toDigits 10 n := by simp
  intro c breaks member
  rw [digits] at member
  have digit := Nat.isDigit_of_mem_toDigits (by decide) (by decide) member
  exact List.any_eq_false.mp undigital c breaks digit

namespace Failure

open Error Registration

def innermost : Failure → String
  | error e => e.innermost
  | migration failure => failure.error.innermost
  | message text => text
  | io cause => cause
  | context _ inner => inner.innermost

-- What is told before the innermost cause is told for the first time.
def wording : Failure → String
  | error e => e.framing
  | migration failure => "migration failed: " ++ failure.error.framing
  | message _ | io _ => ""
  | context text inner => text ++ ": " ++ inner.wording

-- The links that the cause of the failure adds behind its own message.
def sources : Failure → List String
  | error e => e.causes
  | context _ inner => inner.sources
  | _ => []

def texts : Failure → List String
  | error e => e.texts
  | migration failure => failure.error.texts
  | message text => [text]
  | io cause => [cause]
  | context text inner => text :: inner.texts

-- The innermost cause is a command that failed.
def OfCommand : Failure → Prop
  | error e => e.exitCode.isSome
  | migration failure => failure.error.exitCode.isSome
  | context _ inner => inner.OfCommand
  | _ => False

theorem chain_ne_nil (failure : Failure) : failure.chain ≠ [] := by
  cases failure <;> exact List.cons_ne_nil _ _

theorem intercalate_cons (first : String) (rest : List String) :
    ": ".intercalate (first :: rest) = first ++ String.join (rest.map fun text => ": " ++ text) := by
  induction rest generalizing first with
  | nil => rw [String.intercalate_singleton,List.map_nil,String.join_nil,String.append_empty]
  | cons second rest ih =>
    rw [String.intercalate_cons_cons,ih,List.map_cons,String.join_cons]
    simp only [String.append_assoc]

theorem chain_told {failure : Failure} {message : String} (links : failure.chain = message :: failure.sources)
    (told : message = failure.wording ++ failure.innermost) : ": ".intercalate failure.chain =
      failure.wording ++ failure.innermost ++ String.join (failure.sources.map fun text => ": " ++ text) := by
  rw [links,intercalate_cons,told]

theorem chain_eq (failure : Failure) : ": ".intercalate failure.chain =
    failure.wording ++ failure.innermost ++ String.join (failure.sources.map fun text => ": " ++ text) := by
  induction failure with
  | error e => exact chain_told rfl e.message_eq
  | migration failure =>
    have told : failure.message = "migration failed: " ++ failure.error.framing ++ failure.error.innermost :=
      (congrArg ("migration failed: " ++ ·) failure.error.message_eq).trans String.append_assoc.symm
    exact chain_told rfl told
  | message text | io text => exact chain_told rfl String.empty_append.symm
  | context text inner ih =>
    obtain ⟨first,rest,same⟩ := List.exists_cons_of_ne_nil inner.chain_ne_nil
    calc ": ".intercalate (text :: inner.chain)
      _ = text ++ ": " ++ ": ".intercalate inner.chain := by rw [same,String.intercalate_cons_cons]
      _ = text ++ ": " ++ (inner.wording ++ inner.innermost ++
          String.join (inner.sources.map fun text => ": " ++ text)) := congrArg _ ih
      _ = text ++ ": " ++ inner.wording ++ inner.innermost ++
          String.join (inner.sources.map fun text => ": " ++ text) := by simp only [String.append_assoc]

theorem statusLine_append (style : Style) (first second : String) :
    statusLine style "error" (first ++ second) = statusLine style "error" first ++ second := by
  cases style with
  | plain => rfl
  | rich => exact String.append_assoc.symm

theorem line_eq (style : Style) (failure : Failure) : failure.line style =
    statusLine style "error" failure.wording ++ failure.innermost ++
      String.join (failure.sources.map fun text => ": " ++ text) := by
  rw [line,chain_eq,statusLine_append,statusLine_append]

-- A command that failed is told in two lines.
theorem broken_command (newline : '\n' ∈ breaks) (line output : String) (code : Int) :
    ¬ Unbroken breaks (Error.command line code output).message := by
  have broken : '\n' ∈ "' failed\nError: returned ".toList := by decide
  have message : (Error.command line code output).message = "command '" ++ line ++ "' failed\nError: returned " ++
    toString code ++ " with '" ++ output ++ "'" := rfl
  rw [message]
  simp only [unbroken_append]
  exact fun whole => whole.1.1.1.1.2 '\n' newline broken

section Lines

variable (fewer : breaks ⊆ lineBreaks)
include fewer

theorem unbroken_intercalate (texts : List String) :
    Unbroken breaks (": ".intercalate texts) ↔ ∀ text ∈ texts, Unbroken breaks text := by
  induction texts with
  | nil => exact ⟨fun _ => nofun,fun _ => Unbroken.fewer (by decide) fewer⟩
  | cons first rest ih =>
    cases rest with
    | nil => rw [String.intercalate_singleton,List.forall_mem_singleton]
    | cons second rest =>
      have between : Unbroken breaks ": " := Unbroken.fewer (by decide) fewer
      rw [String.intercalate_cons_cons,unbroken_append,unbroken_append,ih,List.forall_mem_cons (a := first)]
      exact ⟨fun ⟨⟨one,_⟩,others⟩ => ⟨one,others⟩,fun ⟨one,others⟩ => ⟨⟨one,between⟩,others⟩⟩

theorem unbroken_statusLine (style : Style) (text : String) :
    Unbroken breaks (statusLine style "error" text) ↔ Unbroken breaks text := by
  cases style with
  | plain => rfl
  | rich =>
    have badge : Unbroken breaks (badge "error" ++ " ") := Unbroken.fewer (by decide) fewer
    exact unbroken_append.trans (and_iff_right badge)

-- A message that consists of a fixed text and one that is free of breaks.
theorem unbroken_after (fixed : String) {text : String} (whole : Unbroken lineBreaks fixed) (free : Unbroken breaks text) :
    Unbroken breaks (fixed ++ text) := unbroken_append.mpr ⟨whole.fewer fewer,free⟩

theorem unbroken_before (fixed : String) {text : String} (free : Unbroken breaks text) (whole : Unbroken lineBreaks fixed) :
    Unbroken breaks (text ++ fixed) := unbroken_append.mpr ⟨free,whole.fewer fewer⟩

variable (newline : '\n' ∈ breaks)
include newline

theorem unbroken_message {e : Error} (free : ∀ text ∈ e.texts, Unbroken breaks text) :
    Unbroken breaks e.message ↔ e.exitCode = none := by
  induction e with
  | productStep action product source ih =>
    obtain ⟨one,free⟩ := List.forall_mem_cons.mp free
    obtain ⟨other,free⟩ := List.forall_mem_cons.mp free
    have acted := unbroken_before fewer " " one (by decide)
    have step := unbroken_before fewer " failed: " (unbroken_append.mpr ⟨acted,other⟩) (by decide)
    exact unbroken_append.trans ((and_iff_right step).trans (ih free))
  | command line code output => exact ⟨fun whole => absurd whole (broken_command newline line output code),nofun⟩
  | systemNotRegistered | baseProductDeactivation | cannotDetectBaseProduct | noProxyCredentials =>
    exact ⟨fun _ => rfl,fun _ => Unbroken.fewer (by decide) fewer⟩
  | unsupportedOperation text => exact ⟨fun _ => rfl,fun _ => List.forall_mem_singleton.mp free⟩
  | invalidTriplet text =>
    have named := unbroken_after fewer "invalid product '" (by decide) (List.forall_mem_singleton.mp free)
    exact ⟨fun _ => rfl,fun _ => unbroken_before fewer _ named (by decide)⟩
  | treeTooDeep root limit =>
    have named := unbroken_after fewer "extension tree of " (by decide) (List.forall_mem_singleton.mp free)
    have bounded := unbroken_before fewer " exceeds the maximum depth of " named (by decide)
    exact ⟨fun _ => rfl,fun _ => unbroken_before fewer _ bounded (unbroken_natural limit)⟩
  | api code text =>
    have named := unbroken_after fewer "registration server returned '" (by decide) (List.forall_mem_singleton.mp free)
    have coded := unbroken_before fewer _ (unbroken_before fewer "' (" named (by decide)) (unbroken_natural code)
    exact ⟨fun _ => rfl,fun _ => unbroken_before fewer _ coded (by decide)⟩
  | io context cause =>
    obtain ⟨one,free⟩ := List.forall_mem_cons.mp free
    have named := unbroken_before fewer ": " one (by decide)
    exact ⟨fun _ => rfl,fun _ => unbroken_append.mpr ⟨named,List.forall_mem_singleton.mp free⟩⟩
  | missingCredentials text | malformedCredentials text | transport text | json text | xml text | config text =>
    exact ⟨fun _ => rfl,fun _ => unbroken_after fewer _ (by decide) (List.forall_mem_singleton.mp free)⟩

theorem unbroken_causes {e : Error} (free : ∀ text ∈ e.texts, Unbroken breaks text) (whole : e.exitCode = none) :
    ∀ cause ∈ e.causes, Unbroken breaks cause := by
  induction e with
  | productStep action product source ih =>
    have free := (List.forall_mem_cons.mp (List.forall_mem_cons.mp free).2).2
    exact List.forall_mem_cons.mpr ⟨(unbroken_message fewer newline free).mpr whole,ih free whole⟩
  | json text => exact free
  | io context cause => exact (List.forall_mem_cons.mp free).2
  | _ => exact nofun

theorem unbroken_chain {failure : Failure} (free : ∀ text ∈ failure.texts, Unbroken breaks text) :
    (∀ link ∈ failure.chain, Unbroken breaks link) ↔ ¬ failure.OfCommand := by
  induction failure with
  | error e =>
    rw [chain,List.forall_mem_cons,unbroken_message fewer newline free,OfCommand,Bool.not_eq_true,
      Option.isSome_eq_false_iff,Option.isNone_iff_eq_none]
    exact ⟨And.left,fun whole => ⟨whole,unbroken_causes fewer newline free whole⟩⟩
  | migration failure =>
    have fixed : Unbroken breaks "migration failed: " := Unbroken.fewer (by decide) fewer
    have message : Unbroken breaks failure.message ↔ failure.error.exitCode = none :=
      (unbroken_append.trans (and_iff_right fixed)).trans (unbroken_message fewer newline free)
    rw [chain,List.forall_mem_singleton,message,OfCommand,Bool.not_eq_true,Option.isSome_eq_false_iff,
      Option.isNone_iff_eq_none]
  | message text => exact ⟨fun _ => id,fun _ => free⟩
  | io cause => exact ⟨fun _ => id,fun _ => free⟩
  | context text inner ih =>
    obtain ⟨one,free⟩ := List.forall_mem_cons.mp free
    rw [chain,List.forall_mem_cons,ih free,OfCommand]
    exact and_iff_right one

end Lines

theorem sources_suffix (failure : Failure) :
    ∀ text ∈ failure.sources, failure.innermost.toList <:+ text.toList := by
  induction failure with
  | error e => exact e.innermost_suffix
  | context text inner ih => exact ih
  | _ => exact nofun

theorem holds_joined {part : List Char} {texts : List String} (ends : ∀ text ∈ texts, part <:+ text.toList) :
    Text.Holds part (String.join (texts.map fun text => ": " ++ text)).toList texts.length := by
  induction texts with
  | nil => exact .none _
  | cons text rest ih =>
    obtain ⟨⟨before,same⟩,later⟩ := List.forall_mem_cons.mp ends
    have parts : (String.join ((text :: rest).map fun text => ": " ++ text)).toList =
        ": ".toList ++ before ++ (part ++ (String.join (rest.map fun text => ": " ++ text)).toList) := by
      rw [List.map_cons,String.join_cons,String.toList_append,String.toList_append,← same]
      simp only [List.append_assoc]
    rw [parts]
    exact .next _ (ih later)

-- How often the line of a failure has the text of its innermost cause.
def tellings (style : Style) (failure : Failure) : Nat :=
  Text.occurrences failure.innermost.toList (failure.line style).toList

theorem line_toList (style : Style) (failure : Failure) : (failure.line style).toList =
    (statusLine style "error" failure.wording).toList ++ (failure.innermost.toList ++
      (String.join (failure.sources.map fun text => ": " ++ text)).toList) := by
  rw [line_eq,String.toList_append,String.toList_append,List.append_assoc]

theorem lt_tellings {style : Style} {failure : Failure} (filled : failure.innermost ≠ "") :
    failure.sources.length < failure.tellings style := by
  have characters : failure.innermost.toList ≠ [] := fun none => filled (String.toList_eq_nil_iff.mp none)
  refine Text.Holds.le_occurrences characters ?_
  rw [line_toList]
  exact .next _ (holds_joined failure.sources_suffix)

-- What the line of a failure is. The innermost cause is told for every link that its error adds to the chain, and once
-- for the failure itself.
structure Told (style : Style) (failure : Failure) : Prop where
  unbroken : ∀ breaks ⊆ lineBreaks, '\n' ∈ breaks → (∀ text ∈ failure.texts, Unbroken breaks text) →
    (Unbroken breaks (failure.line style) ↔ ¬ failure.OfCommand)
  often : failure.innermost ≠ "" → failure.sources.length < failure.tellings style
  once : failure.innermost ≠ "" → ¬ failure.innermost.toList <:+: (statusLine style "error" failure.wording).toList →
    (failure.tellings style = 1 ↔ failure.sources = [])

theorem line_told (style : Style) (failure : Failure) : Told style failure where
  unbroken breaks fewer newline free := by
    rw [line,unbroken_statusLine fewer,unbroken_intercalate fewer,unbroken_chain fewer newline free]
  often := lt_tellings
  once filled absent := by
    constructor
    · intro once
      have fewer : failure.sources.length < failure.tellings style := lt_tellings filled
      rw [once] at fewer
      exact List.length_eq_zero_iff.mp (Nat.lt_one_iff.mp fewer)
    · intro alone
      have characters : failure.innermost.toList ≠ [] := fun none => filled (String.toList_eq_nil_iff.mp none)
      rw [tellings,line_toList,alone,List.map_nil,String.join_nil]
      simpa only [String.toList_empty,List.append_nil] using Text.occurrences_last characters absent

def unplanned : Failure := .context "failed to plan migrations" (.migration ⟨.systemNotRegistered,false,none⟩)

theorem unplanned_told : Unbroken lineBreaks (unplanned.line .rich) ∧ unplanned.tellings .rich = 1 := by
  have told := line_told .rich unplanned
  have free : ∀ text ∈ unplanned.texts, Unbroken lineBreaks text := List.forall_mem_singleton.mpr (by decide)
  have wording : statusLine .rich "error" unplanned.wording = "[ERR]" ++ " " ++
      ("failed to plan migrations" ++ ": " ++ ("migration failed: " ++ "")) := rfl
  have absent : ¬ unplanned.innermost.toList <:+: (statusLine .rich "error" unplanned.wording).toList := by
    rw [wording]
    simp only [String.reduceAppend]
    rw [← Text.contains_iff]
    decide
  exact ⟨(told.unbroken lineBreaks (List.Subset.refl _) (by decide) free).mpr nofun,(told.once (by decide) absent).mpr rfl⟩
-- The source of the error is told by the error, and again as its source.
def denied : Failure := .error (.io "failed to read config" "denied")

theorem denied_line : denied.line .plain = "failed to read config: denied: denied" := by
  have chain : denied.chain = ["failed to read config" ++ ": " ++ "denied","denied"] := rfl
  have plain (text : String) : statusLine .plain "error" text = text := rfl
  rw [line,plain,chain,String.intercalate_cons_cons,String.intercalate_singleton]
  simp only [String.reduceAppend]

theorem denied_twice : (∀ text ∈ denied.texts, Unbroken lineBreaks text) ∧
    denied.innermost = "denied" ∧ Text.contains "denied".toList "failed to read config: ".toList = false ∧
    denied.line .plain = "failed to read config: denied: denied" ∧ denied.tellings .plain = 2 := by
  refine ⟨List.forall_mem_cons.mpr ⟨by decide,List.forall_mem_singleton.mpr (by decide)⟩,rfl,by decide,denied_line,?_⟩
  rw [tellings,denied_line]
  decide

end Failure

end CommandLine

end Entitlement
