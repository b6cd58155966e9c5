import Entitlement.Proofs.Host.Elsewhere
import Entitlement.Proofs.Text.Utf8

-- The input of a machine, line by line. A text is read as the lines that it has, each with the line feed that ends it,
-- and nothing but reading a line takes anything from it.
namespace Entitlement

namespace Text

-- The lines of a text with their ends. The last one may lack it, but no line is empty.
def wholeLines : List Char → List (List Char)
  | [] => []
  | c :: rest =>
    if c = '\n' then [c] :: wholeLines rest
    else match wholeLines rest with
      | line :: lines => (c :: line) :: lines
      | [] => [[c]]

def encodeChars (cs : List Char) : Bytes := cs.flatMap String.utf8EncodeChar

theorem encode_eq (s : String) : encode s = encodeChars s.toList := rfl

theorem decode?_encodeChars (cs : List Char) : decode? (encodeChars cs) = some (String.ofList cs) := by
  have decoded := decode?_encode (String.ofList cs)
  rwa [encode_eq,String.toList_ofList] at decoded

theorem encode_lineFeed : String.utf8EncodeChar '\n' = [Host.Machine.lineFeed] := by decide

-- The byte of the line feed stands for nothing else.
theorem not_mem_encodeChar {c : Char} (other : c ≠ '\n') : Host.Machine.lineFeed ∉ String.utf8EncodeChar c := by
  have different : c.val.toNat ≠ 10 := fun same => other (Char.ext (UInt32.toNat_inj.mp same))
  have small := c.val.toNat_lt
  unfold String.utf8EncodeChar
  generalize c.val.toNat = v at different small
  have value {n : Nat} (above : n < 256) (distinct : n ≠ 10) : Host.Machine.lineFeed ≠ UInt8.ofNat n := by
    intro same
    have values := congrArg UInt8.toNat same
    rw [UInt8.toNat_ofNat',Nat.mod_eq_of_lt above] at values
    exact distinct values.symm
  by_cases one : v ≤ 0x7F
  · simp only [one,if_true,List.mem_singleton]
    exact value (by omega) different
  by_cases two : v ≤ 0x7FF
  · simp only [one,two,if_false,if_true,List.mem_cons,List.not_mem_nil,or_false,not_or]
    exact ⟨value (by omega) (by omega),value (by omega) (by omega)⟩
  by_cases three : v ≤ 0xFFFF
  · simp only [one,two,three,if_false,if_true,List.mem_cons,List.not_mem_nil,or_false,not_or]
    exact ⟨value (by omega) (by omega),value (by omega) (by omega),value (by omega) (by omega)⟩
  · simp only [one,two,three,if_false,List.mem_cons,List.not_mem_nil,or_false,not_or]
    exact ⟨value (by omega) (by omega),value (by omega) (by omega),value (by omega) (by omega),
      value (by omega) (by omega)⟩

theorem wholeLines_cons_of_ne {c : Char} (other : c ≠ '\n') (rest : List Char) :
    wholeLines (c :: rest) = (c :: (wholeLines rest).headD []) :: (wholeLines rest).tail := by
  rw [wholeLines,if_neg other]
  cases wholeLines rest with
  | nil => rfl
  | cons line lines => rfl

theorem wholeLines_ne_nil {c : Char} {rest : List Char} : wholeLines (c :: rest) ≠ [] := by
  by_cases feed : c = '\n'
  · simp [wholeLines,feed]
  · simp [wholeLines_cons_of_ne feed]

theorem line_ne_nil {cs line : List Char} (member : line ∈ wholeLines cs) : line ≠ [] := by
  induction cs generalizing line with
  | nil => cases member
  | cons c rest ih =>
    by_cases feed : c = '\n'
    · rw [wholeLines,if_pos feed] at member
      rcases List.mem_cons.mp member with rfl | later
      · exact List.cons_ne_nil _ _
      · exact ih later
    · rw [wholeLines_cons_of_ne feed] at member
      rcases List.mem_cons.mp member with rfl | later
      · exact List.cons_ne_nil _ _
      · exact ih (List.mem_of_mem_tail later)

theorem length_wholeLines (cs : List Char) : (wholeLines cs).length ≤ (encodeChars cs).length := by
  induction cs with
  | nil => exact Nat.le_refl _
  | cons c rest ih =>
    have byte : 0 < (String.utf8EncodeChar c).length := by
      rw [String.length_utf8EncodeChar]
      exact c.utf8Size_pos
    have whole : (encodeChars (c :: rest)).length = (String.utf8EncodeChar c).length + (encodeChars rest).length := by
      rw [encodeChars,List.flatMap_cons,List.length_append]
      rfl
    by_cases feed : c = '\n'
    · rw [wholeLines,if_pos feed,List.length_cons]
      omega
    · rw [wholeLines_cons_of_ne feed,List.length_cons,List.length_tail]
      omega

end Text

namespace Host

open Text (wholeLines encodeChars)

theorem splitLine_append {first : Bytes} (free : Machine.lineFeed ∉ first) (rest : Bytes) :
    Machine.splitLine (first ++ rest) = (first ++ (Machine.splitLine rest).1,(Machine.splitLine rest).2) := by
  induction first with
  | nil => rfl
  | cons b more ih =>
    obtain ⟨other,later⟩ := List.ne_and_not_mem_of_not_mem_cons free
    simp only [List.cons_append,Machine.splitLine,if_neg (Ne.symm other),ih later]

-- The first line of an encoded text, and what it leaves.
theorem splitLine_encodeChars {cs line : List Char} {lines : List (List Char)} (whole : wholeLines cs = line :: lines) :
    ∃ rest, Machine.splitLine (encodeChars cs) = (encodeChars line,encodeChars rest) ∧ wholeLines rest = lines := by
  induction cs generalizing line lines with
  | nil => cases whole
  | cons c rest ih =>
    have parts : encodeChars (c :: rest) = String.utf8EncodeChar c ++ encodeChars rest := List.flatMap_cons
    by_cases feed : c = '\n'
    · rw [wholeLines,if_pos feed] at whole
      cases whole
      refine ⟨rest,?_,rfl⟩
      rw [parts,feed,Text.encode_lineFeed]
      rfl
    · rw [Text.wholeLines_cons_of_ne feed] at whole
      cases whole
      rw [parts,splitLine_append (Text.not_mem_encodeChar feed)]
      cases later : wholeLines rest with
      | nil =>
        cases rest with
        | nil => exact ⟨[],by simp [encodeChars,Machine.splitLine],rfl⟩
        | cons d more => exact absurd later Text.wholeLines_ne_nil
      | cons first others =>
        obtain ⟨left,cut,same⟩ := ih later
        exact ⟨left,by rw [cut]; simp [encodeChars],same⟩

-- What is read of an input, and what is left of it.
def lineReply (input : Bytes) : Except Obstacle String × Bytes :=
  (match Text.decode? (Machine.splitLine input).1 with
    | some text => .ok text
    | none => .error .notText,(Machine.splitLine input).2)

theorem lineReply_line {cs line : List Char} {lines : List (List Char)} (whole : wholeLines cs = line :: lines) :
    ∃ rest, lineReply (encodeChars cs) = (.ok (String.ofList line),encodeChars rest) ∧ wholeLines rest = lines := by
  obtain ⟨rest,cut,same⟩ := splitLine_encodeChars whole
  exact ⟨rest,by rw [lineReply,cut,Text.decode?_encodeChars],same⟩

inductive Hears : Bytes → List Event → Bytes → Prop where
  | nil : Hears input [] input
  | line : Hears (lineReply input).2 events rest → Hears input (⟨.readLine,(lineReply input).1⟩ :: events) rest
  | left : Hears input events rest → Hears input (⟨.linesLeft,input.length⟩ :: events) rest
  | other : q ≠ .readLine → q ≠ .linesLeft → Hears input events rest → Hears input (⟨q,answer⟩ :: events) rest

theorem hears_append {input rest : Bytes} :
    Hears input (first ++ second) rest ↔ ∃ between, Hears input first between ∧ Hears between second rest := by
  constructor
  · intro hears
    induction first generalizing input with
    | nil => exact ⟨input,.nil,hears⟩
    | cons event others ih =>
      cases hears with
      | line later =>
        obtain ⟨between,before,after⟩ := ih later
        exact ⟨between,.line before,after⟩
      | left later =>
        obtain ⟨between,before,after⟩ := ih later
        exact ⟨between,.left before,after⟩
      | other unread uncounted later =>
        obtain ⟨between,before,after⟩ := ih later
        exact ⟨between,.other unread uncounted before,after⟩
  · intro parts
    obtain ⟨between,before,after⟩ := parts
    induction before with
    | nil => exact after
    | line _ ih => exact .line (ih after)
    | left _ ih => exact .left (ih after)
    | other unread uncounted _ ih => exact .other unread uncounted (ih after)

-- What neither reads nor counts lines.
def Deaf (q : Question) : Prop := q ≠ .readLine ∧ q ≠ .linesLeft

theorem hears_line {input rest : Bytes} {answer : Except Obstacle String}
    (hears : Hears input (⟨.readLine,answer⟩ :: events) rest) :
    answer = (lineReply input).1 ∧ Hears (lineReply input).2 events rest := by
  cases hears with
  | line later => exact ⟨rfl,later⟩
  | other unread _ _ => exact absurd rfl unread

theorem hears_left {input rest : Bytes} {count : Nat} (hears : Hears input (⟨.linesLeft,count⟩ :: events) rest) :
    count = input.length ∧ Hears input events rest := by
  cases hears with
  | left later => exact ⟨rfl,later⟩
  | other _ uncounted _ => exact absurd rfl uncounted

theorem hears_deaf {input rest : Bytes} {q : Question} {answer : q.Answer}
    (hears : Hears input (⟨q,answer⟩ :: events) rest) (deaf : Deaf q) : Hears input events rest := by
  cases hears with
  | line _ => exact absurd rfl deaf.1
  | left _ => exact absurd rfl deaf.2
  | other _ _ later => exact later

theorem hears_of_deaf {input rest : Bytes} {events : List Event} (deaf : ∀ event ∈ events, Deaf event.question)
    (hears : Hears input events rest) : rest = input := by
  induction hears with
  | nil => rfl
  | line _ _ => exact absurd rfl (List.forall_mem_cons.mp deaf).1.1
  | left _ _ => exact absurd rfl (List.forall_mem_cons.mp deaf).1.2
  | other _ _ _ ih => exact ih (List.forall_mem_cons.mp deaf).2

variable {σ : Type}

theorem answer_input (s : Surroundings σ) (m : Machine σ) (q : Question) (unread : q ≠ .readLine) :
    (Machine.answer s q m).2.input = m.input := by
  cases q with
  | file call => rw [show Machine.answer s (.file call) m = _ from answerFile_eq m call]
  | readLine => exact absurd rfl unread
  | _ => rfl

theorem transcript_hears (s : Surroundings σ) (p : Operation α) (m : Machine σ) :
    Hears m.input (transcript s p m) (Machine.run s p m).2.input := by
  induction p generalizing m with
  | done result => exact .nil
  | ask q resume ih =>
    have whole : Machine.run s (.ask q resume) m =
      Machine.run s (resume (Machine.answer s q m).1) (Machine.answer s q m).2 := rfl
    have later := ih (Machine.answer s q m).1 (Machine.answer s q m).2
    rw [whole,transcript]
    by_cases reads : q = .readLine
    · subst reads
      exact .line later
    rw [answer_input s m q reads] at later
    by_cases counts : q = .linesLeft
    · subst counts
      exact .left later
    · exact .other reads counts later

end Host
end Entitlement
