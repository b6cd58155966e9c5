import Entitlement.Json.Decode
import Entitlement.Proofs.Json.Tables

-- Documents that bring their values back. What a type of documents needs for it is said of its readers, with the room
-- that they need, and follows for lists of such values; for a decoder it is then said in terms of bytes.
namespace Entitlement.Json

-- What holds of the documents of a type, for a reader that may open so many containers: `received` is what comes of a
-- value that is low enough for the reader and has its ids in range, and a marked value is written in the same way again.
structure Keeps (read : Reader α) (toJson : α → Json) (received : α → α) (low numbered marked : α → Prop)
    (room : Nat) : Prop where
  told : ∀ value, low value → numbered value → read room (toJson value).node = some (received value)
  same : ∀ value, marked value → toJson (received value) = toJson value
  own : ∀ node value, read room node = some value → received value = value ∧ numbered value

section Keeping

variable {read : Reader α} {toJson : α → Json} {received : α → α} {low numbered marked : α → Prop} {room : Nat}

theorem Keeps.list (keeps : Keeps read toJson received low numbered marked room) :
    Keeps (Reader.list read) (fun values => .array (values.map toJson)) (List.map received)
      (fun values => ∀ value ∈ values, low value) (fun values => ∀ value ∈ values, numbered value)
      (fun values => ∀ value ∈ values, marked value) (room + 1) where
  told values low numbered :=
    list_itemNodes fun value among => keeps.told value (low value among) (numbered value among)
  same values marked := by
    rw [List.map_map]
    exact congrArg Json.array (List.map_congr_left fun value among => keeps.same value (marked value among))
  own node values given := by
    obtain ⟨_,one,each⟩ := list_some given
    cases one
    have own : ∀ value ∈ values, received value = value ∧ numbered value := by
      intro value among
      obtain ⟨item,read⟩ := each value among
      exact keeps.own item value read
    have same : values.map received = values :=
      (List.map_congr_left fun value among => (own value among).1).trans (List.map_id values)
    exact ⟨same,fun value among => (own value among).2⟩

-- What the documents of a type do for its values: what is read of a written value, when it is written again as it was,
-- and that a value that came out of any document comes back unchanged.
structure RoundTrip (format : Format α) (toJson : α → Json) (received : α → α) (low numbered marked : α → Prop) :
    Prop where
  decoded : ∀ value, low value → numbered value →
    format.decode (Text.encode (toJson value).compact) = .ok (received value)
  encoded : ∀ value, low value → numbered value → marked value →
    ∃ back, format.decode (Text.encode (toJson value).compact) = .ok back ∧
      (toJson back).compact = (toJson value).compact
  own : ∀ bytes value, format.decode bytes = .ok value → low value →
    format.decode (Text.encode (toJson value).compact) = .ok value

theorem toOption_decode {format : Format α} {bytes : Bytes} :
    (format.decode bytes).toOption = (Node.ofBytes? bytes).bind (format.read depthLimit) := by
  rw [Format.decode,ofBytes?]
  cases (Node.ofBytes? bytes).bind (format.read depthLimit) <;> rfl

theorem decode_ok {format : Format α} {bytes : Bytes} {value : α} :
    format.decode bytes = .ok value ↔
      ∃ node, Node.ofBytes? bytes = some node ∧ format.read depthLimit node = some value := by
  rw [← Option.bind_eq_some_iff,Format.decode,ofBytes?]
  cases (Node.ofBytes? bytes).bind (format.read depthLimit) with
  | none => simp
  | some found => simp

theorem Keeps.roundTrip {format : Format α}
    (keeps : Keeps format.read toJson received low numbered marked depthLimit) :
    RoundTrip format toJson received low numbered marked where
  decoded value low numbered :=
    decode_ok.mpr ⟨_,Node.ofBytes?_compact _,keeps.told value low numbered⟩
  encoded value low numbered marked :=
    ⟨received value,
      decode_ok.mpr ⟨_,Node.ofBytes?_compact _,keeps.told value low numbered⟩,
      congrArg Json.compact (keeps.same value marked)⟩
  own bytes value given low := by
    obtain ⟨node,_,read⟩ := decode_ok.mp given
    obtain ⟨same,numbered⟩ := keeps.own node value read
    have told := keeps.told value low numbered
    rw [same] at told
    exact decode_ok.mpr ⟨_,Node.ofBytes?_compact _,told⟩

end Keeping

end Entitlement.Json
