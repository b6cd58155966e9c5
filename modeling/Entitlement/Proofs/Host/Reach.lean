import Entitlement.Proofs.Host.Input

-- How far an operation reaches: some keep to files and to what is known of the machine, others also run commands or
-- send requests. None of these says anything to people, or takes anything from the input.
namespace Entitlement.Host

def Stays : Question → Prop
  | .file _ | .environment _ | .accountHome | .report _ _ => True
  | _ => False

def Travels : Question → Prop
  | .exchange _ => True
  | q => Stays q

def Commands (fits : Command → Prop) : Question → Prop
  | .run command => fits command
  | q => Peeks q

-- What a registration may ask of the machine on the whole.
def Works (fits : Command → Prop) : Question → Prop
  | .exchange _ => True
  | .run command => fits command
  | q => Stays q

variable {fits : Command → Prop} {q : Question}

theorem Peeks.stays (peeks : Peeks q) : Stays q := by
  cases q <;> trivial

theorem Stays.travels (stays : Stays q) : Travels q := by
  cases q <;> trivial

theorem Peeks.commands (peeks : Peeks q) : Commands fits q := by
  cases q <;> trivial

theorem Commands.reads (commands : Commands fits q) : Reads q := by
  cases q with
  | run command => trivial
  | _ => exact Peeks.reads commands

theorem Commands.works (commands : Commands fits q) : Works fits q := by
  cases q <;> trivial

theorem Travels.works (travels : Travels q) : Works fits q := by
  cases q <;> trivial

theorem Stays.works (stays : Stays q) : Works fits q := stays.travels.works

theorem Works.deaf (works : Works fits q) : Deaf q := by
  cases q with
  | readLine => cases works
  | linesLeft => cases works
  | _ => exact ⟨nofun,nofun⟩

theorem stays_writeSecret {path text : String} : Asks Stays (writeSecret path text) := by
  have ends : Asks Stays (do
      orFail ("failed to write file: " ++ path) (ask (.file (.write path (Text.encode text))))
      orFail ("failed to set permissions: " ++ path) (ask (.file (.setMode path 0o600)))) :=
    asks_bind (asks_orFail (confined_ask trivial)) fun _ => asks_orFail (confined_ask trivial)
  unfold writeSecret
  cases Path.parent? path with
  | none => exact ends
  | some directory => exact asks_bind (asks_orFail (confined_ask trivial)) fun _ => ends

theorem stays_removeIfPresent {path : String} : Asks Stays (removeIfPresent path) := by
  refine asks_bind (asks_lift (confined_ask trivial)) fun there => ?_
  split
  · exact asks_bind (asks_lift (confined_ask trivial)) fun _ => asks_orFail (confined_ask trivial)
  · exact asks_pure

-- What can be said of rows of calls part by part, and holds of those that only look and of the way secrets are kept.
structure Covers (holds : List Event → Prop) : Prop where
  composes : Composes holds
  peeks : ∀ events, (∀ event ∈ events, Peeks event.question) → holds events
  writes : ∀ path text, Makes holds (writeSecret path text)
  removes : ∀ path, Makes holds (removeIfPresent path)

variable {holds : List Event → Prop} {action : Action α} {next : α → Action β}

theorem Covers.peeking (covers : Covers holds) {action : ExceptT ε Operation α} (peeks : Asks Peeks action) : Makes holds action :=
  fun events result ran => covers.peeks events (peeks events result ran)

theorem Covers.look (covers : Covers holds) (peeks : Peeks q) : Rows holds (ask q) :=
  fun events result run => covers.peeks events (confined_ask peeks events result run)

theorem Covers.bind (covers : Covers holds) (before : Makes holds action) (after : ∀ value, Makes holds (next value)) :
    Makes holds (action >>= next) := makes_bind covers.composes before after

-- A note, and what comes after it.
theorem Covers.note (covers : Covers holds) {level : Level} {text : String} {next : Unit → Action β}
    (after : Makes holds (next ())) : Makes holds (ExceptT.lift (ask (.report level text)) >>= next) :=
  covers.bind (covers.peeking (asks_lift (confined_ask trivial))) fun _ => after

theorem covers_allowed {allowed : Question → Prop} (stays : ∀ q, Stays q → allowed q) :
    Covers fun events => ∀ event ∈ events, allowed event.question where
  composes := composes_allowed
  peeks _ peeks event member := stays _ (peeks event member).stays
  writes _ _ := stays_writeSecret.mono stays
  removes _ := stays_removeIfPresent.mono stays

end Entitlement.Host
