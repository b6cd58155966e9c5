import Entitlement.Text.Utf8

-- Decoding takes back what encoding does. A character of several bytes is followed from its first byte, whose range
-- for the second byte holds because the value is neither too small for its length nor a surrogate.
namespace Entitlement.Text

theorem decodeFrom_complete {b : UInt8} {rest : Bytes} (small : b.toNat < 0x80) :
    decodeFrom none (b :: rest) = some (Char.ofNat b.toNat) :: decodeFrom none rest := by
  have complete : opening b.toNat = .complete (Char.ofNat b.toNat) := by
    unfold opening
    rw [if_pos small]
  simp only [decodeFrom,complete]

theorem decodeFrom_open {b : UInt8} {rest : Bytes} {u : Unfinished} (opens : opening b.toNat = .unfinished u) :
    decodeFrom none (b :: rest) = decodeFrom (some u) rest := by
  simp only [decodeFrom,opens]

theorem decodeFrom_next {u : Unfinished} {b : UInt8} {rest : Bytes} (fits : u.low ≤ b.toNat ∧ b.toNat ≤ u.high)
    (more : ¬ u.missing ≤ 1) :
    decodeFrom (some u) (b :: rest) =
      decodeFrom (some ⟨u.bits * 64 + (b.toNat - 0x80),u.missing - 1,0x80,0xBF⟩) rest := by
  simp only [decodeFrom,if_pos fits,if_neg more]

theorem decodeFrom_last {u : Unfinished} {b : UInt8} {rest : Bytes} (fits : u.low ≤ b.toNat ∧ b.toNat ≤ u.high)
    (last : u.missing ≤ 1) :
    decodeFrom (some u) (b :: rest) = some (Char.ofNat (u.bits * 64 + (b.toNat - 0x80))) :: decodeFrom none rest := by
  simp only [decodeFrom,if_pos fits,if_pos last]

theorem opening_two {v : Nat} (least : 0x80 ≤ v) (most : v < 0x800) :
    opening (v / 64 % 0x20 + 0xC0) = .unfinished ⟨v / 64,1,0x80,0xBF⟩ := by
  have same : v / 64 % 0x20 + 0xC0 - 0xC0 = v / 64 := by omega
  unfold opening
  rw [if_neg (by omega),if_neg (by omega),if_pos (by omega),same]

theorem opening_three {v : Nat} (least : 0x800 ≤ v) (most : v < 0x10000) (scalar : v < 0xD800 ∨ 0xDFFF < v) :
    ∃ low high, opening (v / 4096 % 0x10 + 0xE0) = .unfinished ⟨v / 4096,2,low,high⟩ ∧
      low ≤ v / 64 % 0x40 + 0x80 ∧ v / 64 % 0x40 + 0x80 ≤ high := by
  unfold opening
  rw [if_neg (by omega),if_neg (by omega),if_neg (by omega)]
  by_cases first : v / 4096 = 0
  · exact ⟨0xA0,0xBF,by rw [if_pos (by omega),first],by omega,by omega⟩
  by_cases surrogates : v / 4096 = 0xD
  · exact ⟨0x80,0x9F,by rw [if_neg (by omega),if_pos (by omega),surrogates],by omega,by omega⟩
  have same : v / 4096 % 0x10 + 0xE0 - 0xE0 = v / 4096 := by omega
  refine ⟨0x80,0xBF,?_,by omega,by omega⟩
  rw [if_neg (by omega),if_neg (by omega),if_pos (by omega),same]

theorem opening_four {v : Nat} (least : 0x10000 ≤ v) (most : v < 0x110000) :
    ∃ low high, opening (v / 262144 % 0x08 + 0xF0) = .unfinished ⟨v / 262144,3,low,high⟩ ∧
      low ≤ v / 4096 % 0x40 + 0x80 ∧ v / 4096 % 0x40 + 0x80 ≤ high := by
  unfold opening
  rw [if_neg (by omega),if_neg (by omega),if_neg (by omega),if_neg (by omega),if_neg (by omega),if_neg (by omega)]
  by_cases first : v / 262144 = 0
  · exact ⟨0x90,0xBF,by rw [if_pos (by omega),first],by omega,by omega⟩
  by_cases last : v / 262144 = 4
  · exact ⟨0x80,0x8F,by rw [if_neg (by omega),if_neg (by omega),if_pos (by omega),last],by omega,by omega⟩
  have same : v / 262144 % 0x08 + 0xF0 - 0xF0 = v / 262144 := by omega
  refine ⟨0x80,0xBF,?_,by omega,by omega⟩
  rw [if_neg (by omega),if_pos (by omega),same]

-- A byte that is written with its value.
private theorem toNat_ofNat_small {n : Nat} (small : n < 256) : (UInt8.ofNat n).toNat = n := by
  rw [UInt8.toNat_ofNat']
  exact Nat.mod_eq_of_lt small

theorem decodeFrom_encodeChar (c : Char) (rest : Bytes) :
    decodeFrom none (String.utf8EncodeChar c ++ rest) = some c :: decodeFrom none rest := by
  have scalar : c.val.toNat < 0xD800 ∨ (0xDFFF < c.val.toNat ∧ c.val.toNat < 0x110000) := c.valid
  have whole : Char.ofNat c.val.toNat = c := Char.ofNat_toNat c
  unfold String.utf8EncodeChar
  generalize c.val.toNat = v at scalar whole
  by_cases one : v ≤ 0x7F
  · have byte := toNat_ofNat_small (n := v) (by omega)
    simp only [one,if_true,List.cons_append,List.nil_append]
    rw [decodeFrom_complete (by omega),byte,whole]
  by_cases two : v ≤ 0x7FF
  · have byte := toNat_ofNat_small (n := v / 64 % 0x20 + 0xC0) (by omega)
    have next := toNat_ofNat_small (n := v % 0x40 + 0x80) (by omega)
    have opens := opening_two (v := v) (by omega) (by omega)
    have bits : v / 64 * 64 + (v % 0x40 + 0x80 - 0x80) = v := by omega
    simp only [one,two,if_false,if_true,List.cons_append,List.nil_append]
    rw [decodeFrom_open (byte ▸ opens),decodeFrom_last (by rw [next]; dsimp only; omega) (Nat.le_refl 1),next,bits,whole]
  by_cases three : v ≤ 0xFFFF
  · have byte := toNat_ofNat_small (n := v / 4096 % 0x10 + 0xE0) (by omega)
    have next := toNat_ofNat_small (n := v / 64 % 0x40 + 0x80) (by omega)
    have last := toNat_ofNat_small (n := v % 0x40 + 0x80) (by omega)
    obtain ⟨low,high,opens,above,below⟩ := opening_three (v := v) (by omega) (by omega) (by omega)
    have bits : (v / 4096 * 64 + (v / 64 % 0x40 + 0x80 - 0x80)) * 64 + (v % 0x40 + 0x80 - 0x80) = v := by omega
    simp only [one,two,three,if_false,if_true,List.cons_append,List.nil_append]
    rw [decodeFrom_open (byte ▸ opens),decodeFrom_next (by rw [next]; exact ⟨above,below⟩) (by dsimp only; omega),
      decodeFrom_last (by rw [last]; dsimp only; omega) (Nat.le_refl 1),next,last,bits,whole]
  · have byte := toNat_ofNat_small (n := v / 262144 % 0x08 + 0xF0) (by omega)
    have next := toNat_ofNat_small (n := v / 4096 % 0x40 + 0x80) (by omega)
    have third := toNat_ofNat_small (n := v / 64 % 0x40 + 0x80) (by omega)
    have last := toNat_ofNat_small (n := v % 0x40 + 0x80) (by omega)
    obtain ⟨low,high,opens,above,below⟩ := opening_four (v := v) (by omega) (by omega)
    have bits : ((v / 262144 * 64 + (v / 4096 % 0x40 + 0x80 - 0x80)) * 64 + (v / 64 % 0x40 + 0x80 - 0x80)) * 64 +
        (v % 0x40 + 0x80 - 0x80) = v := by omega
    simp only [one,two,three,if_false,List.cons_append,List.nil_append]
    rw [decodeFrom_open (byte ▸ opens),decodeFrom_next (by rw [next]; exact ⟨above,below⟩) (by dsimp only; omega),
      decodeFrom_next (by rw [third]; dsimp only; omega) (by dsimp only; omega),
      decodeFrom_last (by rw [last]; dsimp only; omega) (Nat.le_refl 1),next,third,last,bits,whole]

theorem decode_flatMap (cs : List Char) : decode (cs.flatMap String.utf8EncodeChar) = cs.map some := by
  induction cs with
  | nil => rfl
  | cons c rest ih =>
    rw [List.flatMap_cons,decode,decodeFrom_encodeChar,List.map_cons]
    exact congrArg (some c :: ·) ih

theorem mapM_id_map_some (cs : List Char) : (cs.map some).mapM id = some cs := by
  induction cs with
  | nil => rfl
  | cons c rest ih => simp [ih]

theorem decode?_encode (s : String) : decode? (encode s) = some s := by
  rw [decode?,encode,decode_flatMap,mapM_id_map_some,Option.map_some,String.ofList_toList]

theorem toNat_charOfByte (b : UInt8) : (Char.ofNat b.toNat).toNat = b.toNat := by
  have small := b.toNat_lt
  rw [Char.ofNat,dif_pos (Or.inl (by omega))]
  rfl

-- Below 128, each byte is a character.
theorem decode_ascii {bytes : Bytes} (small : ∀ b ∈ bytes, b.toNat < 0x80) :
    decode bytes = bytes.map fun b => some (Char.ofNat b.toNat) := by
  induction bytes with
  | nil => rfl
  | cons b rest ih =>
    obtain ⟨first,later⟩ := List.forall_mem_cons.mp small
    rw [decode,decodeFrom_complete first,List.map_cons]
    exact congrArg (some (Char.ofNat b.toNat) :: ·) (ih later)

theorem decode?_ascii {bytes : Bytes} (small : ∀ b ∈ bytes, b.toNat < 0x80) :
    decode? bytes = some (String.ofList (bytes.map fun b => Char.ofNat b.toNat)) := by
  have parts := mapM_id_map_some (bytes.map fun b => Char.ofNat b.toNat)
  rw [List.map_map] at parts
  rw [decode?,decode_ascii small]
  exact congrArg (Option.map String.ofList) parts

end Entitlement.Text
