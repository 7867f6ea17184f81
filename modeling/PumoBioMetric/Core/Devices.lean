import PumoBioMetric.Py.Dict
import PumoBioMetric.Py.Text

/-!
# Readers, the registry and the simulated devices

`device_migration.py`: the persistent registry, the table of simulated devices
and `resolve_device`.  A registry entry always carries its serial, address and
name, as `mark_seen` writes them; only the port may be missing.
-/

set_option autoImplicit false

namespace PumoBioMetric.Core

open Py

structure DeviceInfo where
  sn : String
  ip : String
  port : Option Int
  name : String
deriving DecidableEq, Repr

/-- Serial to entry, in insertion order. -/
abbrev Registry := Dict DeviceInfo

def Registry.update (registry file : Registry) : Registry :=
  file.foldl (fun current entry => Dict.set current entry.1 entry.2) registry

def defaultRegistry : Registry :=
  [("NFZ8254900401",
      ⟨"NFZ8254900401", "192.168.0.210", some 4370, "eSSL SilkBio-101TC (NFZ8254900401)"⟩),
    ("NFZ8242802542",
      ⟨"NFZ8242802542", "192.168.0.154", some 4370, "eSSL x 2008 (NFZ8242802542)"⟩),
    ("UFZ9876543210",
      ⟨"UFZ9876543210", "192.168.0.154", some 4370, "eSSL uFace 202 (UFZ9876543210)"⟩),
    ("ZK1", ⟨"ZK1", "192.168.1.209", some 4370, "eSSL Terminal (ZK1)"⟩)]

/-- `get_registered_devices`; `none` is a registry file that is absent or unreadable. -/
def getRegisteredDevices (file : Option Registry) : Registry :=
  match file with
  | none => defaultRegistry
  | some entries => defaultRegistry.update entries

/-! ## The simulated devices -/

/-- `_SIM_SOURCE` and `_SIM_TARGET`. -/
inductive SimDevice where
  | source
  | target
deriving DecidableEq, Repr

namespace SimDevice

def sn : SimDevice → String
  | source => "NFZ8254900401"
  | target => "UFZ9876543210"

def ip : SimDevice → String
  | source => "192.168.0.210"
  | target => "192.168.0.154"

def port : SimDevice → Int := fun _ => 4370

def name : SimDevice → String
  | source => "eSSL SilkBio-101TC (NFZ8254900401)"
  | target => "eSSL uFace 202 (Floor 2)"

end SimDevice

/-- `SIMULATED_DEVICES`: several serials and addresses name one device. -/
def simulatedDevices : List (String × SimDevice) :=
  [("NFZ8254900401", .source), ("192.168.0.210", .source), ("192.168.1.209", .source),
    ("UFZ9876543210", .target), ("NFZ8242802542", .target), ("192.168.0.154", .target),
    ("192.168.1.210", .target)]

/-! ## Resolving an identifier -/

structure ResolvedDevice where
  sn : String
  ip : String
  port : Int
  name : String
deriving DecidableEq, Repr

/-- `dict(info)` with `setdefault("port", default_port)`. -/
def DeviceInfo.withPort (info : DeviceInfo) (defaultPort : Int) : ResolvedDevice where
  sn := info.sn
  ip := info.ip
  port := info.port.getD defaultPort
  name := info.name

section

variable [UnicodeTables]

/-- `"." in clean_id and not any(c.isalpha() for c in clean_id)`. -/
def looksLikeIp (cleanId : String) : Bool :=
  cleanId.toList.contains '.' && !cleanId.toList.any isAlpha

def resolveDevice (registry : Registry) (identifier : String) (defaultPort : Int) :
    ResolvedDevice :=
  let cleanId := strip identifier
  match registry.lookup cleanId with
  | some info => info.withPort defaultPort
  | none =>
    match registry.find? fun entry => lower entry.1 == lower cleanId with
    | some (_, info) => info.withPort defaultPort
    | none =>
      match registry.find? fun entry => entry.2.ip == cleanId with
      | some (_, info) => info.withPort defaultPort
      | none =>
        match simulatedDevices.lookup cleanId with
        | some device => ⟨device.sn, device.ip, device.port, device.name⟩
        | none =>
          if looksLikeIp cleanId then
            ⟨"DEV-" ++ cleanId, cleanId, defaultPort, "Device " ++ cleanId⟩
          else
            ⟨cleanId, cleanId, defaultPort, "Device " ++ cleanId⟩

/-- `SIMULATED_DEVICES.get(sn) or SIMULATED_DEVICES.get(ip)` of a resolved identifier. -/
def simulatedDevice (registry : Registry) (identifier : String) : Option SimDevice :=
  let resolved := resolveDevice registry identifier 4370
  (simulatedDevices.lookup resolved.sn).or (simulatedDevices.lookup resolved.ip)

end

end PumoBioMetric.Core
