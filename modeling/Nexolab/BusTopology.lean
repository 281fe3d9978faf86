import Nexolab.InventoryDocument

/-!
# RS-485 bus topologies

An explicit topology assigns Unit IDs to configured buses.  Binding a registry
moves every device to the bus its topology gives it and rebuilds the cadence
defaults for the buses the devices have come to.  A device which is not polled
may stay on a bus which is no longer configured.

Serial parameters of a binding are left out: the registry does not read them.
-/

namespace Nexolab

structure BusBinding where
  busId : String
  unitIds : List ℕ

/-- What `from_environment` has checked of the bindings: there is one, bus ids
are distinct and match their pattern, which admits no surrounding space. -/
structure BusTopology where
  bindings : List BusBinding
  explicit : Bool
  bindings_ne : bindings ≠ []
  busIds_nodup : (bindings.map BusBinding.busId).Nodup
  busIds_stripped : ∀ binding ∈ bindings,
    stripText binding.busId = binding.busId ∧ binding.busId ≠ ""

namespace BusTopology

variable (topology : BusTopology)

def configuredBusIds : List String := topology.bindings.map BusBinding.busId

def busesForUnit (unitId : ℕ) : List String :=
  (topology.bindings.filter fun binding => unitId ∈ binding.unitIds).map BusBinding.busId

def busForUnit (unitId : ℕ) : Except RegistryFault String :=
  match topology.busesForUnit unitId with
  | [] => .error (.invalid ("Modbus Unit ID " ++ toString unitId ++
      " has no configured physical bus"))
  | [busId] => .ok busId
  | buses => .error (.invalid ("Modbus Unit ID " ++ toString unitId ++
      " exists on multiple physical buses (" ++ joinTexts ", " buses ++
      "); bus-scoped identity is required"))

def busForUnitOn (busId : String) (unitId : ℕ) :
    Except RegistryFault String :=
  match topology.bindings.find? fun binding => binding.busId = busId with
  | none => .error (.invalid ("Unknown RS-485 bus_id: " ++ busId))
  | some binding =>
    if unitId ∉ binding.unitIds then
      .error (.invalid ("Modbus Unit ID " ++ toString unitId ++
        " is not assigned to configured bus " ++ busId))
    else .ok busId

/-- The bus `bind_registry` gives a device, and whether it is retained without
being a candidate. -/
def busOfDevice (device : InventoryDevice) :
    Except RegistryFault (String × Bool) :=
  match topology.busesForUnit device.unitId with
  | [] =>
    if device.busId ∈ topology.configuredBusIds then .ok (device.busId, false)
    else if device.lifecycle ≠ pollingLifecycle then .ok (device.busId, true)
    else .error (.invalid ("Modbus Unit ID " ++ toString device.unitId ++
      " has no configured physical bus"))
  | first :: others =>
    if device.busId ∈ topology.configuredBusIds ∧
        device.busId ∈ first :: others then .ok (device.busId, false)
    else if others = [] then .ok (first, false)
    else .error (.invalid ("Persisted registry device " ++ device.deviceId ++
      " Unit ID " ++ toString device.unitId ++
      " is ambiguous across configured buses (" ++
      joinTexts ", " (first :: others) ++ ")"))

def bindDevice (device : InventoryDevice) :
    Except RegistryFault (InventoryDevice × Bool) := do
  let (busId, retained) ← topology.busOfDevice device
  return ({ device with busId }, retained)

def configuredBuses : List InventoryBus :=
  topology.bindings.map fun binding => ⟨binding.busId, "modbus_rtu", true⟩

def retainedBuses (previous : List InventoryBus)
    (bound : List (InventoryDevice × Bool)) : List InventoryBus :=
  let retained := ((bound.filter fun entry => entry.2).map
    fun entry => entry.1.busId).dedup.filter fun busId =>
      busId ∉ topology.configuredBusIds
  (retained.insertionSort (· ≤ ·)).map fun busId =>
    (previous.find? fun bus => bus.busId = busId).getD
      ⟨busId, "modbus_rtu", true⟩

def bindDocument (document : InventoryDocument) :
    Except RegistryFault InventoryDocument := do
  let bound ← document.devices.mapM topology.bindDevice
  let devices := bound.map Prod.fst
  let cadence ← rebindPolicy document.cadence document.rows
    (devices.map InventoryDevice.toRegistryDevice)
  return { document with
    buses := topology.configuredBuses ++ topology.retainedBuses document.buses bound
    devices
    cadence }

def bindRegistry (registry : InventoryRegistry) :
    Except RegistryFault InventoryRegistry :=
  if topology.explicit then do
    let document ← topology.bindDocument registry.document
    InventoryRegistry.of document
  else .ok registry

end BusTopology

end Nexolab
