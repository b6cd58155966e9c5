
-- Punycode: a label of a domain name, whatever its characters, as ASCII letters, digits and hyphens.
-- The ASCII characters come first. The others follow in the order of their code points, each as the distance from
-- the one before, written as a numeral to the base 36 whose digits have thresholds of their own.
namespace Entitlement.Text.Punycode

def digit (d : Nat) : Char := if d < 26 then Char.ofNat (97 + d) else Char.ofNat (22 + d)

def threshold (position bias : Nat) : Nat :=
  if position ≤ bias then 1 else if bias + 26 ≤ position then 26 else position - bias

theorem threshold_pos (position bias : Nat) : 1 ≤ threshold position bias := by
  unfold threshold
  split
  · exact Nat.le_refl 1
  · split <;> omega

def digits (bias position distance : Nat) : List Char :=
  let t := threshold position bias
  if distance < t then [digit distance]
  else digit (t + (distance - t) % (36 - t)) :: digits bias (position + 36) ((distance - t) / (36 - t))
termination_by distance
decreasing_by
  have pos := threshold_pos position bias
  have le := Nat.div_le_self (distance - threshold position bias) (36 - threshold position bias)
  omega

def shrink (distance bias : Nat) : Nat :=
  if 455 < distance then shrink (distance / 35) (bias + 36) else bias + 36 * distance / (distance + 38)
termination_by distance
decreasing_by exact Nat.div_lt_self (by omega) (by omega)

-- The bias after a distance: the longer the distances, the more digits have a high threshold.
def nextBias (distance written : Nat) (first : Bool) : Nat :=
  let scaled := if first then distance / 700 else distance / 2
  shrink (scaled + scaled / written) 0

structure Progress where
  distance : Nat
  written : Nat
  bias : Nat
  first : Bool
  output : List Char

def encodeNext (code : Nat) (p : Progress) (c : Char) : Progress :=
  if c.toNat < code then { p with distance := p.distance + 1 }
  else if c.toNat = code then {
    distance := 0
    written := p.written + 1
    bias := nextBias p.distance (p.written + 1) p.first
    first := false
    output := p.output ++ digits p.bias 36 p.distance }
  else p

def encodeFrom (label : List Char) : List Nat → Nat → Progress → List Char
  | [], _, p => p.output
  | code :: rest, start, p =>
    let p := { p with distance := p.distance + (code - start) * (p.written + 1) }
    let p := label.foldl (encodeNext code) p
    encodeFrom label rest (code + 1) { p with distance := p.distance + 1 }

def codesAbove (label : List Char) : List Nat :=
  ((label.map Char.toNat).filter (· ≥ 0x80)).mergeSort.eraseDups

def encode (label : List Char) : List Char :=
  let basic := label.filter (·.toNat < 0x80)
  let start := if basic.isEmpty then [] else basic ++ ['-']
  start ++ encodeFrom label (codesAbove label) 0x80 ⟨0, basic.length, 72, true, []⟩

end Entitlement.Text.Punycode
