import Entitlement.Host.Inquiry

-- What the files of a running system say about its hardware.
namespace Entitlement.Hardware

open Host

def keyValue (line : List Char) : Option (List Char × List Char) :=
  (Text.splitFirst ':' line).map fun parts => (Text.trimmed parts.1, Text.trimmed parts.2)

-- The number of processors and of sockets. Processors of no known socket sit in one.
def processors (text : String) : Nat × Nat :=
  let facts := (Text.lines text.toList).filterMap keyValue
  let cpus := facts.countP fun f => f.1 = "processor".toList
  let sockets := ((facts.filter fun f => f.1 = "physical id".toList).map (·.2)).eraseDups.length
  (cpus, if sockets = 0 && cpus > 0 then 1 else sockets)

def dropUnits : List Char → List Char
  | 'B' :: 'k' :: rest => dropUnits rest
  | cs => cs

def kibibytes? (line : List Char) : Option Nat := do
  let value ← Text.stripStart "MemTotal:".toList line
  let number := (dropUnits (Text.trimmed value).reverse).reverse
  Text.natural? limit64 (Text.trimmed number)

def memory? (text : String) : Option Nat :=
  ((Text.lines text.toList).findSome? kibibytes?).map (· / 1024)

def hostnamePath : String := "/proc/sys/kernel/hostname"

def processorsPath : String := "/proc/cpuinfo"

def memoryPath : String := "/proc/meminfo"

def uuidPath : String := "/sys/class/dmi/id/product_uuid"

def hypervisorPath : String := "/sys/hypervisor/type"

def factIn (path : String) : Operation (Option String) := do
  let text := Text.trim ((← readText path).toOption.getD "")
  pure (if text.isEmpty then none else some text)

-- Looks at the hardware of the running system. A file that cannot be read tells nothing, and none tells the
-- provider of a cloud.
def survey (arch : String) : Operation Hardware := do
  let hostname ← factIn hostnamePath
  let (cpus, sockets) := processors ((← readText processorsPath).toOption.getD "")
  let memory := (← readText memoryPath).toOption.bind memory?
  let hypervisor ← factIn hypervisorPath
  pure ⟨hostname.getD "", cpus, sockets, hypervisor, arch, ← factIn uuidPath, none, memory⟩

end Entitlement.Hardware
