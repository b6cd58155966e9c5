import Entitlement.Proofs.Text.Utf8
import Entitlement.Text.Base64

-- What is written in base 64 is read as the bytes that it was written for. Four symbols hold the bits of three bytes; the
-- last bytes may be fewer, and then a sign that is no symbol fills the group up.
namespace Entitlement.Text.Base64

theorem value?_symbol : ∀ n < 64, value? (symbol n) = some n := by decide

theorem symbol_ne_filler : ∀ n < 64, symbol n ≠ '=' := by decide

section Bits

variable {x y z w low : Nat}

theorem decode?_one (first : x < 64) (second : y < 64) (even : y % 16 = 0) :
    decode? [symbol x,symbol y,'=','='] = some [UInt8.ofNat (x * 4 + y / 16)] := by
  simp only [decode?,value?_symbol x first,value?_symbol y second,Option.bind_eq_bind,Option.bind_some,if_pos even]

theorem decode?_two (first : x < 64) (second : y < 64) (third : z < 64) (even : z % 4 = 0) :
    decode? [symbol x,symbol y,symbol z,'='] =
      some [UInt8.ofNat (x * 4 + y / 16),UInt8.ofNat (y % 16 * 16 + z / 4)] := by
  simp [decode?,symbol_ne_filler z third,value?_symbol x first,value?_symbol y second,value?_symbol z third,even]

theorem decode?_three {rest : List Char} {bytes : Bytes} (first : x < 64) (second : y < 64) (third : z < 64)
    (fourth : w < 64) (later : decode? rest = some bytes) :
    decode? (symbol x :: symbol y :: symbol z :: symbol w :: rest) =
      some (UInt8.ofNat (x * 4 + y / 16) :: UInt8.ofNat (y % 16 * 16 + z / 4) :: UInt8.ofNat (z % 4 * 64 + w) :: bytes) := by
  simp [decode?,symbol_ne_filler w fourth,value?_symbol x first,value?_symbol y second,value?_symbol z third,
    value?_symbol w fourth,later]

theorem ofNat_of_toNat_eq {b : UInt8} {n : Nat} (same : n = b.toNat) : UInt8.ofNat n = b := by rw [same,UInt8.ofNat_toNat]

theorem first_byte (b : UInt8) (small : low < 16) : UInt8.ofNat (b.toNat / 4 * 4 + (b.toNat % 4 * 16 + low) / 16) = b :=
  ofNat_of_toNat_eq (by omega)

theorem second_byte (b : UInt8) (high : Nat) (small : low < 4) :
    UInt8.ofNat ((high * 16 + b.toNat / 16) % 16 * 16 + (b.toNat % 16 * 4 + low) / 4) = b := by
  have byte := b.toNat_lt
  exact ofNat_of_toNat_eq (by omega)

theorem third_byte (b : UInt8) (high : Nat) :
    UInt8.ofNat ((high * 4 + b.toNat / 64) % 4 * 64 + b.toNat % 64) = b := by
  have byte := b.toNat_lt
  exact ofNat_of_toNat_eq (by omega)

end Bits

theorem decode?_encode (bytes : Bytes) : decode? (encode bytes) = some bytes := by
  induction bytes using encode.induct with
  | case1 => rfl
  | case2 a =>
    have top := a.toNat_lt
    have first : UInt8.ofNat (a.toNat / 4 * 4 + a.toNat % 4 * 16 / 16) = a := @first_byte 0 a (by decide)
    rw [encode,decode?_one (by omega) (by omega) (by omega),first]
  | case3 a b =>
    have top := a.toNat_lt
    have next := b.toNat_lt
    have first := @first_byte (b.toNat / 16) a (by omega)
    have second : UInt8.ofNat ((a.toNat % 4 * 16 + b.toNat / 16) % 16 * 16 + b.toNat % 16 * 4 / 4) = b :=
      @second_byte 0 b (a.toNat % 4) (by decide)
    rw [encode,decode?_two (by omega) (by omega) (by omega) (by omega),first,second]
  | case4 a b c rest ih =>
    have top := a.toNat_lt
    have next := b.toNat_lt
    have last := c.toNat_lt
    have first := @first_byte (b.toNat / 16) a (by omega)
    have second := @second_byte (c.toNat / 64) b (a.toNat % 4) (by omega)
    rw [encode,decode?_three (by omega) (by omega) (by omega) (by omega) ih,first,second,third_byte]

end Entitlement.Text.Base64
