/-
  What JAGLINK sees of LINK's diagnostic flow.

  LINK is not part of this repository.  Its records appear here with the members JAGLINK reads,
  and everything it computes is a member of `LinkApi`, a parameter of the development: the types
  JAGLINK only passes on, the fuel model, the names of stages and the parameter catalogue.

  1. **Data** — a sample with its PID, an event, a flow, and a parameter definition.  A parameter's
     `identifier` has the width LINK gives it, and its texts are pointers that may be NULL.

  2. **Two laws** — `main.c` indexes arrays of 256 entries with the identifier of a parameter, and
     prints its names, without a test.  That is right if LINK's standard parameters have a PID for
     an identifier and names to print (`LinkParameterDefinition.Standard`); `listed_standard` and
     `keyed_standard` say so of the two ways `main.c` gets hold of one.  What rests on them names
     them.

  3. `LinkApi.engineSpeedOnly` is a LINK with one parameter, which has both laws.
-/
import Jaglink.Profile

namespace Jaglink

open CLib

/-- Bytes of a text on screen. -/
abbrev Text := List UInt8

/-- `LinkObd2Sample`; `reading` is its value and unit. -/
structure LinkObd2Sample (Reading : Type) where
  pid : UInt8
  reading : Reading
  deriving DecidableEq

/-- `LinkDiagnosticFlowEvent`, by its kind. -/
inductive LinkDiagnosticFlowEvent (Reading : Type)
  | liveSample (sample : LinkObd2Sample Reading)
  | standardVin (vinAvailable : Bool) (vin : Option CString)
  | other
  deriving DecidableEq

/-- `LinkDiagnosticFlow`; `standardVin` is what `link_diagnostic_flow_standard_vin` returns for
    it. -/
structure LinkDiagnosticFlow where
  stage : CEnum
  standardVinAttempted : Bool
  standardVin : Option CString
  supportedPids : UInt8 → Bool
  storedDtcs : List Text
  pendingDtcs : List Text
  permanentDtcs : List Text

/-- `memset(&flow, 0, sizeof(flow))`; read only behind a false `diagnostic_valid`, that is never. -/
def LinkDiagnosticFlow.zero : LinkDiagnosticFlow where
  stage := 0
  standardVinAttempted := false
  standardVin := none
  supportedPids := fun _ => false
  storedDtcs := []
  pendingDtcs := []
  permanentDtcs := []

/-- `LinkParameterDefinition`; the first three members are those of its `key`. -/
structure LinkParameterDefinition where
  protocol : CEnum
  module : UInt32
  identifier : UInt32
  stableKey : Option CString
  shortName : Option CString
  name : Option CString
  decimalPlaces : Nat
  deriving DecidableEq

/-- A standard parameter: its identifier is a PID, and its two names are there. -/
structure LinkParameterDefinition.Standard (definition : LinkParameterDefinition) : Prop where
  pid : definition.identifier.toNat < 256
  shortName : definition.shortName ≠ none
  name : definition.name ≠ none

/-- LINK, as far as JAGLINK calls it.  The two laws are what `main.c` relies on: it indexes tables
    of 256 entries with the identifiers of LINK's standard parameters, and prints their names. -/
structure LinkApi where
  Transport : Type
  noTransport : Transport
  Reading : Type
  noReading : Reading
  FuelEconomy : Type
  fuelEconomyInit : FuelEconomy
  fuelEconomyResetTrip : FuelEconomy → UInt64 → FuelEconomy
  fuelEconomyObserveObd2 : FuelEconomy → LinkObd2Sample Reading → UInt64 → FuelEconomy
  fuelEconomyTick : FuelEconomy → UInt64 → FuelEconomy
  /-- `LINK_DIAGNOSTIC_FLOW_FAILED` -/
  flowFailed : CEnum
  diagnosticFlowStageName : CEnum → Text
  /-- `link_parameter_obd2_definition_at(0 .. count - 1)` -/
  parameterObd2Definitions : List (Option LinkParameterDefinition)
  parameterObd2DefinitionForStableKey : String → Option LinkParameterDefinition
  listed_standard : ∀ definition, some definition ∈ parameterObd2Definitions → definition.Standard
  keyed_standard : ∀ key definition,
    parameterObd2DefinitionForStableKey key = some definition → definition.Standard

/-- The engine speed. -/
def LinkParameterDefinition.engineSpeed : LinkParameterDefinition where
  protocol := 1
  module := 0
  identifier := 0x0c
  stableKey := text "obd2.engine.rpm"
  shortName := text "RPM"
  name := text "Engine speed"
  decimalPlaces := 0

/-- Its PID is 0x0c, and both its names are there. -/
theorem LinkParameterDefinition.engineSpeed_standard : engineSpeed.Standard :=
  ⟨by decide, Option.some_ne_none _, Option.some_ne_none _⟩

/-- A LINK with one standard parameter, the engine speed, for runs on concrete inputs. -/
def LinkApi.engineSpeedOnly : LinkApi where
  Transport := Unit
  noTransport := ()
  Reading := Nat
  noReading := 0
  FuelEconomy := Unit
  fuelEconomyInit := ()
  fuelEconomyResetTrip := fun _ _ => ()
  fuelEconomyObserveObd2 := fun _ _ _ => ()
  fuelEconomyTick := fun _ _ => ()
  flowFailed := 9
  diagnosticFlowStageName := fun _ => utf8 "live"
  parameterObd2Definitions := [some .engineSpeed]
  parameterObd2DefinitionForStableKey := fun key =>
    if key = "obd2.engine.rpm" then some .engineSpeed else none
  listed_standard := by
    intro definition hlisted
    obtain rfl := Option.some.inj (List.mem_singleton.mp hlisted)
    exact LinkParameterDefinition.engineSpeed_standard
  keyed_standard := by
    intro key definition hkeyed
    split at hkeyed
    · obtain rfl := Option.some.inj hkeyed
      exact LinkParameterDefinition.engineSpeed_standard
    · cases hkeyed

end Jaglink
