/-
  Jaguar vehicle profiles (`jaguar.c`): the definitions, the built-in X400 profile, the
  validators and the three lookups.

  1. **Data** — a profile comes from outside, so nothing about it is taken for granted: every `const
     char *` may be NULL (`Option CString`), every enumeration member holds whatever integer was
     stored in it (`CEnum`), and an array pointer may be NULL whatever its count says (`CArray`).
     The built-in profile is copied row by row.

  2. **Program** — validators of a network, of an endpoint, of a trouble code and of a whole
     profile, and the lookups of the three tables.  They are C computations that may fault
     (`CLib.C`), with the operators short-circuiting in the order the source writes them.  A pointer
     into one of the profile's arrays is an index of it.

  3. **Specification** — none here.  What the validators decide is in `ProfileValid`, what the
     lookups find in `ProfileLookup`, and what may be added to a profile in `ProfileGrowth`.
-/
import Jaglink.Lib.CMemory

namespace Jaglink

open CLib

/-! ## The definitions of `jaguar.h` -/

/-- A value of a C enumeration type, in or out of the range of its enumerators. -/
abbrev CEnum := Int

namespace JaguarDefinitionStatus
/-- `JaglinkJaguarDefinitionStatus`, weakest first. -/
def candidate : CEnum := 0
def sourceCorroborated : CEnum := 1
def vehicleVerified : CEnum := 2
end JaguarDefinitionStatus

namespace JaguarNetworkKind
/-- `JaglinkJaguarNetworkKind`. -/
def can : CEnum := 0
def scp : CEnum := 1
def iso9141 : CEnum := 2
def d2b : CEnum := 3
end JaguarNetworkKind

namespace JaguarNetworkRole
/-- `JaglinkJaguarNetworkRole`. -/
def powertrain : CEnum := 0
def body : CEnum := 1
def serialDiagnostic : CEnum := 2
def infotainment : CEnum := 3
end JaguarNetworkRole

namespace JaguarModuleKind
/-- `JaglinkJaguarModuleKind`. -/
def ecm : CEnum := 0
def tcm : CEnum := 1
def instrumentCluster : CEnum := 2
def absDsc : CEnum := 3
def climate : CEnum := 4
def gecm : CEnum := 5
def restraints : CEnum := 6
def audio : CEnum := 7
def other : CEnum := 8
end JaguarModuleKind

/-- `JaglinkJaguarNetworkDefinition`: one of the vehicle's buses. -/
structure JaguarNetworkDefinition where
  key : Option CString
  name : Option CString
  kind : CEnum
  role : CEnum
  nominalBaud : UInt32
  status : CEnum
  provenance : Option CString
  deriving DecidableEq

/-- `JaglinkJaguarDiagnosticEndpointDefinition`: how a module is asked, and on which network. -/
structure JaguarDiagnosticEndpointDefinition where
  key : Option CString
  name : Option CString
  module : CEnum
  networkKey : Option CString
  requestMessageId : UInt32
  responseMessageId : UInt32
  status : CEnum
  provenance : Option CString
  deriving DecidableEq

/-- `JaglinkJaguarFactoryDtcDefinition`: a trouble code of one module. -/
structure JaguarFactoryDtcDefinition where
  code : Option CString
  stableKey : Option CString
  module : CEnum
  category : Option CString
  genericObd2Accessible : Bool
  status : CEnum
  provenance : Option CString
  deriving DecidableEq

/-- `JaglinkJaguarVehicleProfile`: the model years it is for, and three arrays with their counts. -/
structure JaguarVehicleProfile where
  platformCode : Option CString
  platformFamily : Option CString
  displayName : Option CString
  firstModelYear : UInt16
  lastModelYear : UInt16
  networks : CArray JaguarNetworkDefinition
  diagnosticEndpoints : CArray JaguarDiagnosticEndpointDefinition
  factoryDtcs : CArray JaguarFactoryDtcDefinition

/-! ## The built-in X400 profile -/

/-- A string literal. -/
def text (s : String) : Option CString := some (CString.read (utf8 s))

/-- Where the definitions of the networks come from. -/
def x400NetworkProvenance : Option CString := text
  "Jaguar Introduction to X-TYPE Service Training (2002) and Jaguar X-TYPE 2002 Electrical Guide"

/-- Where the diagnostic identifiers come from. -/
def x400DiagnosticProvenance : Option CString := text
  "Jaguar X-TYPE 2002 Electrical Guide CAN message matrix, factory diagnostic data identifiers"

/-- Where the module-specific codes come from. -/
def x400DtcProvenance : Option CString := text
  "Jaguar X-TYPE 2002 Model Year DTC Summaries: factory module B/C/U diagnostic catalogue"

/-- Where the engine codes come from. -/
def x400EobdDtcProvenance : Option CString := text
  "Jaguar X-TYPE P DTC OBD II 2002 Model Year, Powertrain DTC Summaries"

/-- `x400_networks`. -/
def x400Networks : List JaguarNetworkDefinition := [
  ⟨text "x400-powertrain-can", text "Powertrain CAN", JaguarNetworkKind.can,
    JaguarNetworkRole.powertrain, 500000, JaguarDefinitionStatus.sourceCorroborated,
    x400NetworkProvenance⟩,
  ⟨text "x400-body-scp", text "Body SCP", JaguarNetworkKind.scp,
    JaguarNetworkRole.body, 41600, JaguarDefinitionStatus.sourceCorroborated,
    x400NetworkProvenance⟩,
  ⟨text "x400-serial-iso9141", text "Serial Data Link (ISO 9141)", JaguarNetworkKind.iso9141,
    JaguarNetworkRole.serialDiagnostic, 10400, JaguarDefinitionStatus.sourceCorroborated,
    x400NetworkProvenance⟩,
  ⟨text "x400-audio-d2b", text "D2B Optical", JaguarNetworkKind.d2b,
    JaguarNetworkRole.infotainment, 5600000, JaguarDefinitionStatus.sourceCorroborated,
    x400NetworkProvenance⟩]

/-- `x400_diagnostic_endpoints`. -/
def x400DiagnosticEndpoints : List JaguarDiagnosticEndpointDefinition := [
  ⟨text "x400-diag-climate", text "Air conditioning control module", JaguarModuleKind.climate,
    text "x400-powertrain-can", 0x7c4, 0x7c5, JaguarDefinitionStatus.sourceCorroborated,
    x400DiagnosticProvenance⟩,
  ⟨text "x400-diag-ecm", text "Engine control module", JaguarModuleKind.ecm,
    text "x400-powertrain-can", 0x7e8, 0x7ec, JaguarDefinitionStatus.sourceCorroborated,
    x400DiagnosticProvenance⟩,
  ⟨text "x400-diag-tcm", text "Transmission control module", JaguarModuleKind.tcm,
    text "x400-powertrain-can", 0x7e9, 0x7ed, JaguarDefinitionStatus.sourceCorroborated,
    x400DiagnosticProvenance⟩,
  ⟨text "x400-diag-ic", text "Instrument cluster", JaguarModuleKind.instrumentCluster,
    text "x400-powertrain-can", 0x7ea, 0x7ee, JaguarDefinitionStatus.sourceCorroborated,
    x400DiagnosticProvenance⟩,
  ⟨text "x400-diag-abs", text "ABS / DSC control module", JaguarModuleKind.absDsc,
    text "x400-powertrain-can", 0x7eb, 0x7ef, JaguarDefinitionStatus.sourceCorroborated,
    x400DiagnosticProvenance⟩]

/-- One row of the factory DTC catalogue; every row is source-corroborated. -/
def x400FactoryDtc (code stableKey : String) (module : CEnum) (category : String)
    (genericObd2Accessible : Bool) (provenance : Option CString) : JaguarFactoryDtcDefinition :=
  ⟨text code, text stableKey, module, text category, genericObd2Accessible,
    JaguarDefinitionStatus.sourceCorroborated, provenance⟩

/-- `x400_factory_dtcs`: some codes are those of several modules. -/
def x400FactoryDtcs : List JaguarFactoryDtcDefinition := [
  x400FactoryDtc "P1647" "x400.ecm.ho2-bank2-upstream" JaguarModuleKind.ecm
    "oxygen-sensor" true x400EobdDtcProvenance,
  x400FactoryDtc "B1202" "x400.ic.fuel-level-sensor-1" JaguarModuleKind.instrumentCluster
    "fuel-level" false x400DtcProvenance,
  x400FactoryDtc "B1204" "x400.ic.fuel-level-sensor-1-short" JaguarModuleKind.instrumentCluster
    "fuel-level" false x400DtcProvenance,
  x400FactoryDtc "B1205" "x400.ic.trip-computer-switch" JaguarModuleKind.instrumentCluster
    "trip-computer" false x400DtcProvenance,
  x400FactoryDtc "B1213" "x400.ic.security-key-count" JaguarModuleKind.instrumentCluster
    "security" false x400DtcProvenance,
  x400FactoryDtc "B1231" "x400.rcm.crash-data" JaguarModuleKind.restraints
    "restraints" false x400DtcProvenance,
  x400FactoryDtc "C1095" "x400.abs.hydraulic-pump" JaguarModuleKind.absDsc
    "braking" false x400DtcProvenance,
  x400FactoryDtc "C1137" "x400.abs.internal" JaguarModuleKind.absDsc
    "braking" false x400DtcProvenance,
  x400FactoryDtc "C1145" "x400.abs.rh-front-wheel-speed" JaguarModuleKind.absDsc
    "wheel-speed" false x400DtcProvenance,
  x400FactoryDtc "C1155" "x400.abs.lh-front-wheel-speed" JaguarModuleKind.absDsc
    "wheel-speed" false x400DtcProvenance,
  x400FactoryDtc "C1956" "x400.dsc.steering-angle" JaguarModuleKind.absDsc
    "stability-control" false x400DtcProvenance,
  x400FactoryDtc "U1041" "x400.gecm.vehicle-speed-network" JaguarModuleKind.gecm
    "network" false x400DtcProvenance,
  x400FactoryDtc "U1135" "x400.gecm.ignition-switch-network" JaguarModuleKind.gecm
    "network" false x400DtcProvenance,
  x400FactoryDtc "U1147" "x400.gecm.key-in-network" JaguarModuleKind.gecm
    "network" false x400DtcProvenance,
  x400FactoryDtc "U1262" "x400.gecm.scp-network" JaguarModuleKind.gecm
    "network" false x400DtcProvenance,
  -- U1900 is assigned independently per reporting module, so lookup has to be module-aware
  x400FactoryDtc "U1900" "x400.abs.can-network" JaguarModuleKind.absDsc
    "network" false x400DtcProvenance,
  x400FactoryDtc "U1900" "x400.ic.can-network" JaguarModuleKind.instrumentCluster
    "network" false x400DtcProvenance]

/-- `x400_profile`. -/
def x400Profile : JaguarVehicleProfile where
  platformCode := text "X400"
  platformFamily := text "Jaguar X400 / Ford CD132"
  displayName := text "Jaguar X-Type (X400), 2001-2009"
  firstModelYear := 2001
  lastModelYear := 2009
  networks := CArray.ofList x400Networks
  diagnosticEndpoints := CArray.ofList x400DiagnosticEndpoints
  factoryDtcs := CArray.ofList x400FactoryDtcs

/-- `jaglink_jaguar_x400_profile()`. -/
def jaguarX400Profile : Option JaguarVehicleProfile := some x400Profile

/-! ## Validators -/

/-- `s == NULL || s[0] == '\0'`. -/
def nullOrEmpty (s : Option CString) : C Bool :=
  pure s.isNone <||> do return (← charAt s 0) == 0

/-- `s != NULL && s[0] != '\0'`. -/
def nonEmpty (s : Option CString) : C Bool :=
  pure s.isSome <&&> do return (← charAt s 0) != 0

/-- `valid_status`. -/
def validStatus (status : CEnum) : Bool :=
  JaguarDefinitionStatus.candidate ≤ status && status ≤ JaguarDefinitionStatus.vehicleVerified

/-- `valid_module`. -/
def validModule (module : CEnum) : Bool :=
  JaguarModuleKind.ecm ≤ module && module ≤ JaguarModuleKind.other

/-- One round of the loop over the four digits of a DTC code. -/
def dtcDigit (code : Option CString) (index : Nat) : C Bool := do
  let c ← charAt code index
  return isxdigit c && !(ch 'a' ≤ c && c ≤ ch 'f')

/-- `valid_dtc_code`: a system letter and four capital hexadecimal digits. -/
def validDtcCode (code : Option CString) : C Bool :=
  notC (pure code.isNone <||> (do return (← strlen code) != 5) <||> do
    let c ← charAt code 0
    return c != ch 'P' && c != ch 'B' && c != ch 'C' && c != ch 'U')
  <&&> allIndices (dtcDigit code) 1 4

/-- `jaglink_jaguar_network_definition_is_valid`. -/
def jaguarNetworkDefinitionIsValid (definition : Option JaguarNetworkDefinition) : C Bool :=
  match definition with
  | none => pure false
  | some definition =>
    notC (nullOrEmpty definition.key <||> nullOrEmpty definition.name <||>
      pure (definition.nominalBaud == 0) <||> nullOrEmpty definition.provenance)
    <&&> pure (!(definition.kind < JaguarNetworkKind.can || definition.kind > JaguarNetworkKind.d2b))
    <&&> pure (!(definition.role < JaguarNetworkRole.powertrain ||
      definition.role > JaguarNetworkRole.infotainment))
    <&&> pure (validStatus definition.status)

/-- `jaglink_jaguar_diagnostic_endpoint_definition_is_valid`. -/
def jaguarDiagnosticEndpointDefinitionIsValid
    (definition : Option JaguarDiagnosticEndpointDefinition) : C Bool :=
  match definition with
  | none => pure false
  | some definition =>
    nonEmpty definition.key <&&> nonEmpty definition.name <&&>
      pure (validModule definition.module) <&&> nonEmpty definition.networkKey <&&>
      pure (definition.requestMessageId ≤ 0x7ff) <&&>
      pure (definition.responseMessageId ≤ 0x7ff) <&&>
      pure (definition.requestMessageId != definition.responseMessageId) <&&>
      pure (validStatus definition.status) <&&> nonEmpty definition.provenance

/-- `jaglink_jaguar_factory_dtc_definition_is_valid`. -/
def jaguarFactoryDtcDefinitionIsValid (definition : Option JaguarFactoryDtcDefinition) : C Bool :=
  match definition with
  | none => pure false
  | some definition =>
    validDtcCode definition.code <&&> nonEmpty definition.stableKey <&&>
      pure (validModule definition.module) <&&> nonEmpty definition.category <&&>
      pure (validStatus definition.status) <&&> nonEmpty definition.provenance

/-- Jaguar's own title of a generic OBD code; only P1647 has one. -/
def jaguarX400ObdDtcTitle (code : Option CString) : C (Option CString) := do
  if !(← validDtcCode code) then return none
  if ← strcmpEq code (text "P1647") then
    return text "ECM HO2 sensor control malfunction — bank 2 upstream (2/1)"
  return none

/-! ## Lookups -/

/-- `jaglink_jaguar_profile_find_network`.  The first entry with the key; its index stands for the
    pointer. -/
def jaguarProfileFindNetwork (profile : Option JaguarVehicleProfile) (key : Option CString) :
    C (Option Nat) :=
  match profile with
  | none => pure none
  | some profile => do
    if ← nullOrEmpty key then return none
    firstIndex (fun index => do strcmpEq (← profile.networks.get index).key key)
      0 profile.networks.count

/-- `jaglink_jaguar_profile_find_diagnostic_endpoint`. -/
def jaguarProfileFindDiagnosticEndpoint (profile : Option JaguarVehicleProfile) (module : CEnum) :
    C (Option Nat) :=
  match profile with
  | none => pure none
  | some profile => do
    if !validModule module then return none
    firstIndex (fun index => do return (← profile.diagnosticEndpoints.get index).module == module)
      0 profile.diagnosticEndpoints.count

/-- `jaglink_jaguar_profile_find_factory_dtc`: the code is compared only where the module agrees. -/
def jaguarProfileFindFactoryDtc (profile : Option JaguarVehicleProfile) (module : CEnum)
    (code : Option CString) : C (Option Nat) :=
  match profile with
  | none => pure none
  | some profile => do
    if !validModule module then return none
    if !(← validDtcCode code) then return none
    firstIndex (fun index => do
        let definition ← profile.factoryDtcs.get index
        pure (definition.module == module) <&&> strcmpEq definition.code code)
      0 profile.factoryDtcs.count

/-! ## Whole profiles -/

/-- The checks before the three loops. -/
def profileHeaderIsValid (profile : JaguarVehicleProfile) : C Bool :=
  notC (nullOrEmpty profile.platformCode <||> nullOrEmpty profile.platformFamily <||>
    nullOrEmpty profile.displayName <||>
    pure (profile.firstModelYear == 0 || profile.lastModelYear < profile.firstModelYear) <||>
    pure (profile.networks.data.isNone || profile.networks.count == 0) <||>
    pure (profile.diagnosticEndpoints.count != 0 && profile.diagnosticEndpoints.data.isNone) <||>
    pure (profile.factoryDtcs.count != 0 && profile.factoryDtcs.data.isNone))

/-- One round of the network loop: the definition itself, then its key against every earlier one. -/
def profileNetworkIsValid (profile : JaguarVehicleProfile) (index : Nat) : C Bool :=
  (do jaguarNetworkDefinitionIsValid (some (← profile.networks.get index)))
  <&&> allIndices (fun earlier => notC do
      strcmpEq (← profile.networks.get index).key (← profile.networks.get earlier).key) 0 index

/-- One round of the endpoint loop: the definition itself, then its network. -/
def profileEndpointIsValid (profile : JaguarVehicleProfile) (index : Nat) : C Bool := do
  let endpoint ← profile.diagnosticEndpoints.get index
  jaguarDiagnosticEndpointDefinitionIsValid (some endpoint)
    <&&> do return (← jaguarProfileFindNetwork (some profile) endpoint.networkKey).isSome

/-- One round of the DTC loop. -/
def profileDtcIsValid (profile : JaguarVehicleProfile) (index : Nat) : C Bool := do
  jaguarFactoryDtcDefinitionIsValid (some (← profile.factoryDtcs.get index))

/-- `jaglink_jaguar_vehicle_profile_is_valid`: header, then networks, endpoints and codes in
    turn. -/
def jaguarVehicleProfileIsValid (profile : Option JaguarVehicleProfile) : C Bool :=
  match profile with
  | none => pure false
  | some profile =>
    profileHeaderIsValid profile
    <&&> allIndices (profileNetworkIsValid profile) 0 profile.networks.count
    <&&> allIndices (profileEndpointIsValid profile) 0 profile.diagnosticEndpoints.count
    <&&> allIndices (profileDtcIsValid profile) 0 profile.factoryDtcs.count

end Jaglink
