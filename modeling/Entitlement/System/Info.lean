import Entitlement.Json.Record

-- What a system tells the registration server about itself.
namespace Entitlement

structure Hardware where
  hostname : String
  cpus : Nat
  sockets : Nat
  hypervisor : Option String
  arch : String
  uuid : Option String
  cloudProvider : Option String
  memory : Option Nat
deriving DecidableEq, Inhabited

structure SystemInfo where
  hostname : String
  distroTarget : String
  hardware : Hardware
  instanceData : Option String
  namespaceName : Option String
  onlineAt : Option (List String)
deriving DecidableEq, Inhabited

namespace Hardware

def blank : Hardware := ⟨"", 0, 0, none, "", none, none, none⟩

def fieldNames : List String :=
  ["hostname", "cpus", "sockets", "hypervisor", "arch", "uuid", "cloud_provider", "mem_total"]

def read : Json.Reader Hardware := fun room node => do
  let (fields, room) ← Json.Fields.ofNode? fieldNames fieldNames.length room node
  some {
    hostname := ← fields.required "hostname" room Json.Reader.string
    cpus := ← fields.required "cpus" room (Json.Reader.natural limit32)
    sockets := ← fields.required "sockets" room (Json.Reader.natural limit32)
    hypervisor := ← fields.nullable "hypervisor" room Json.Reader.string
    arch := ← fields.required "arch" room Json.Reader.string
    uuid := ← fields.nullable "uuid" room Json.Reader.string
    cloudProvider := ← fields.nullable "cloud_provider" room Json.Reader.string
    memory := ← fields.nullable "mem_total" room (Json.Reader.natural limit64) }

def toJson (h : Hardware) : Json := .object (
  [("hostname", .string h.hostname), ("cpus", Json.integer h.cpus), ("sockets", Json.integer h.sockets)]
    ++ Json.option? "hypervisor" (h.hypervisor.map .string)
    ++ [("arch", .string h.arch)]
    ++ Json.option? "uuid" (h.uuid.map .string)
    ++ Json.option? "cloud_provider" (h.cloudProvider.map .string)
    ++ Json.option? "mem_total" (h.memory.map fun n => Json.integer n))

end Hardware

namespace SystemInfo

def blank : SystemInfo := ⟨"", "", Hardware.blank, none, none, none⟩

-- The fields that stand beside the others only when they have a value.
def extraNames : List String := ["instance_data", "namespace", "online_at"]

def fieldNames : List String := ["hostname", "distro_target", "hwinfo"]

def readOthers (room : Nat) : List (Json.Scribed × Json.Node) → Option Unit
  | [] => some ()
  | (name, node) :: rest => do
    let name ← name
    if !fieldNames.contains name then
      let _ ← Json.Reader.value room node
    readOthers room rest

-- The information is always an object. Members that are no field are read all the same.
def read : Json.Reader SystemInfo
  | room + 1, .object members => do
    readOthers room members
    let fields ← Json.Fields.ofMembers? (fieldNames ++ extraNames) members
    some {
      hostname := ← fields.required "hostname" room Json.Reader.string
      distroTarget := ← fields.required "distro_target" room Json.Reader.string
      hardware := ← fields.required "hwinfo" room Hardware.read
      instanceData := ← fields.nullable "instance_data" room Json.Reader.string
      namespaceName := ← fields.nullable "namespace" room Json.Reader.string
      onlineAt := ← fields.nullable "online_at" room (Json.Reader.list Json.Reader.string) }
  | _, _ => none

def toJson (i : SystemInfo) : Json := .object (
  [("hostname", .string i.hostname), ("distro_target", .string i.distroTarget),
    ("hwinfo", i.hardware.toJson)]
    ++ Json.option? "instance_data" (i.instanceData.map .string)
    ++ Json.option? "namespace" (i.namespaceName.map .string)
    ++ Json.option? "online_at" (i.onlineAt.map Json.strings))

end SystemInfo
end Entitlement
