/-
  The Apple face's controller (`platform/apple/JagLinkDiagnosticsController.m`).

  1. **Data** — it owns LINK's shared controller, whose properties it passes on, and adds the
     vehicle identity: the VIN as received and four texts derived from it.

  2. **Program** — the identity is written in two places only, `resetVehicleIdentity` at the start
     of a session and the handler of the standard-VIN event, `didReceiveFlowEvent`.  The handler
     decodes the VIN as C does and composes the texts from the record (`decodedIdentity`); without a
     VIN, or with one that does not decode, the texts say so.

  3. **Specification (`IdentityOfVin`)** — while a VIN is held, the four texts are the ones of that
     very VIN (`vinIdentity`).  `identityOfVin_reset` and `identityOfVin_didReceiveFlowEvent` keep
     it.

  4. **Strings** — `JagLinkStringFromCString` makes Swift texts of C strings and fails where the
     bytes are not UTF-8.  All texts here come from ASCII tables or from legal VINs, and for those
     it gives the same bytes back (`utf8_jagLinkStringFromCString_ascii`).
-/
import Jaglink.LinkFlow
import Jaglink.VinDecode

namespace Jaglink

open CLib

/-! ## LINK's shared controller -/

/-- An entry of `supported_pid_responders`. -/
structure ResponderProfile where
  responderID : UInt32
  extendedID : Bool
  supportedPIDs : List UInt8
  deriving DecidableEq

/-- `LinkDiagnosticsController` as JAGLINK reads it. -/
structure LinkDiagnosticsController where
  statusText : String
  peripheralName : Option String
  adapterIdentifier : Option String
  obdProtocolText : String
  faultScanStatusText : String
  storedDTCs : List String
  pendingDTCs : List String
  permanentDTCs : List String
  readinessStatusText : String
  readinessMonitorStatus : List String
  freezeFrameContext : List String
  diagnosticCapabilityText : String
  diagnosticCapabilityDetailText : String
  standardResponderSummary : String
  supportedPIDSummary : String
  standardVINText : String
  standardLiveValueRows : List String
  /-- the responders of `diagnosticFlow`, if there is a flow -/
  diagnosticFlow : Option (List ResponderProfile)
  isActive : Bool
  isReady : Bool
  recordedSampleCount : UInt64
  availableLanguageTags : List String
  availableLanguageNames : List String
  selectedLanguageTag : String
  availableMeasurementSystemKeys : List String
  availableMeasurementSystemNames : List String
  selectedMeasurementSystemKey : String
  dtcDisplayTextForCode : String → String

/-- A shared controller before any session, for runs on concrete inputs. -/
def LinkDiagnosticsController.idle : LinkDiagnosticsController where
  statusText := "Idle"
  peripheralName := none
  adapterIdentifier := none
  obdProtocolText := "OBD-II protocol not identified"
  faultScanStatusText := "Not scanned"
  storedDTCs := []
  pendingDTCs := []
  permanentDTCs := []
  readinessStatusText := "Not collected"
  readinessMonitorStatus := []
  freezeFrameContext := []
  diagnosticCapabilityText := "Unknown / probing"
  diagnosticCapabilityDetailText := ""
  standardResponderSummary := "0 physical responders"
  supportedPIDSummary := "0 advertised PIDs"
  standardVINText := "Unavailable / not yet read"
  standardLiveValueRows := []
  diagnosticFlow := none
  isActive := false
  isReady := false
  recordedSampleCount := 0
  availableLanguageTags := ["en-AU"]
  availableLanguageNames := ["English"]
  selectedLanguageTag := "en-AU"
  availableMeasurementSystemKeys := ["metric"]
  availableMeasurementSystemNames := ["Metric"]
  selectedMeasurementSystemKey := "metric"
  dtcDisplayTextForCode := id

/-- The same in a session. -/
def LinkDiagnosticsController.inSession (ready : Bool) : LinkDiagnosticsController :=
  { LinkDiagnosticsController.idle with isActive := true, isReady := ready }

/-! ## The controller -/

/-- `JagLinkDiagnosticsController`: LINK's shared controller, and what JAGLINK holds of the
    vehicle. -/
structure JagLinkDiagnosticsController where
  shared : LinkDiagnosticsController
  vehicleVINText : Option String
  vehiclePlatformText : String
  vehicleConfigurationText : String
  vehiclePowertrainText : String
  vehicleBuildText : String

/-- `JagLinkStringFromCString`: bytes that are not UTF-8 make `stringWithUTF8String:` fail. -/
def jagLinkStringFromCString (value : Option CString) : String :=
  match value with
  | none => "unknown"
  | some value => (String.fromUTF8? ⟨value.bytes.toArray⟩).getD "unknown"

namespace JagLinkDiagnosticsController

/-- `resetVehicleIdentity`, run by every way of starting a session and by `init`. -/
def resetVehicleIdentity (controller : JagLinkDiagnosticsController) :
    JagLinkDiagnosticsController :=
  { controller with
    vehicleVINText := none
    vehiclePlatformText := "Jaguar X400 identity pending"
    vehicleConfigurationText := "Waiting for standard VIN"
    vehiclePowertrainText := "Waiting for standard VIN"
    vehicleBuildText := "Waiting for standard VIN" }

/-- `init`. -/
def initial (shared : LinkDiagnosticsController) : JagLinkDiagnosticsController :=
  resetVehicleIdentity
    { shared := shared
      vehicleVINText := none
      vehiclePlatformText := ""
      vehicleConfigurationText := ""
      vehiclePowertrainText := ""
      vehicleBuildText := "" }

/-- `standardResponderProfiles`: empty without a flow. -/
def standardResponderProfiles (controller : JagLinkDiagnosticsController) : List ResponderProfile :=
  controller.shared.diagnosticFlow.getD []

end JagLinkDiagnosticsController

/-- `JagLinkDTCDisplayText`; `uppercaseString` is Foundation's. -/
def jagLinkDTCDisplayText (uppercaseString : String → String) (shared : LinkDiagnosticsController)
    (code : String) : String :=
  if code = "" then ""
  else
    let normalized := uppercaseString code
    match jaguarX400ObdDtcTitle (text normalized) with
    | .ok (some title) => normalized ++ " — " ++ jagLinkStringFromCString (some title)
    | _ => shared.dtcDisplayTextForCode normalized

/-- `JagLinkDTCDisplayRows`: codes without a text get no row. -/
def jagLinkDTCDisplayRows (uppercaseString : String → String) (shared : LinkDiagnosticsController)
    (codes : List String) : List String :=
  (codes.map (jagLinkDTCDisplayText uppercaseString shared)).filter (· ≠ "")

/-! ## The standard-VIN event -/

/-- The four texts derived from a VIN. -/
structure VehicleIdentity where
  platform : String
  configuration : String
  powertrain : String
  build : String
  deriving DecidableEq

/-- The texts of a decoded VIN. -/
def decodedIdentity (decoded : JaguarVinDecode) : VehicleIdentity where
  platform :=
    if decoded.x400 then "Jaguar X-TYPE · X400 · " ++ toString decoded.modelYear.toNat
    else "Jaguar VIN decoded · X400 profile not confirmed"
  configuration :=
    match decoded.body, decoded.transmissionSteering with
    | some body, some ts =>
      jagLinkStringFromCString (text (jaguarBodyStyleName (x400Bodies.get body).bodyStyle)) ++ " · " ++
        jagLinkStringFromCString (text (x400Bodies.get body).seriesClass) ++ " · " ++
        jagLinkStringFromCString
          (text (jaguarDrivetrainName (x400TransmissionSteering.get ts).drivetrain)) ++ " · " ++
        jagLinkStringFromCString
          (text (jaguarTransmissionName (x400TransmissionSteering.get ts).transmission)) ++ " · " ++
        jagLinkStringFromCString (text (jaguarSteeringName (x400TransmissionSteering.get ts).steering))
    | _, _ => "X400 configuration codes not fully recognised"
  powertrain :=
    match decoded.plantEngine with
    | some pe =>
      jagLinkStringFromCString (text (x400PlantEngines.get pe).engineDescription) ++ " · " ++
        jagLinkStringFromCString (text (jaguarFuelTypeName (x400PlantEngines.get pe).fuel)) ++ " · " ++
        toString (x400PlantEngines.get pe).displacementCc ++ " cc · " ++
        toString (x400PlantEngines.get pe).ratedPowerKw ++ " kW"
    | none => "Engine-line code not yet catalogued"
  build :=
    let serial := jagLinkStringFromCString (some (CString.read decoded.productionSerial))
    match decoded.plantEngine with
    | some pe =>
      jagLinkStringFromCString (text (x400PlantEngines.get pe).assemblyPlant) ++ ", " ++
        jagLinkStringFromCString (text (x400PlantEngines.get pe).assemblyCountry) ++
        " · serial " ++ serial
    | none => "Production serial " ++ serial

/-- The texts of a VIN that does not decode. -/
def undecodedIdentity : VehicleIdentity where
  platform := "VIN received · not a decodable Jaguar X400 VIN"
  configuration := "Jaguar-specific VIN fields unavailable"
  powertrain := "Powertrain not inferred"
  build := "Build identity not inferred"

/-- The texts of a received VIN.  What the local record held before does not matter
    (`decodedVin_stack`), so it starts out zero here. -/
def vinIdentity (vin : CString) : VehicleIdentity :=
  match decodedVin JaguarVinDecode.zero (some vin) with
  | some decoded => decodedIdentity decoded
  | none => undecodedIdentity

/-- The texts before the VIN is read. -/
def pendingIdentity : VehicleIdentity where
  platform := "Jaguar X400 identity pending"
  configuration := "Waiting for standard VIN"
  powertrain := "Waiting for standard VIN"
  build := "Waiting for standard VIN"

/-- The texts while no VIN was returned. -/
def noVinIdentity : VehicleIdentity where
  platform := "Jaguar identity · standard VIN unavailable"
  configuration := "VIN not returned by SAE Mode 09 PID 02"
  powertrain := "Powertrain remains unclassified from VIN"
  build := "Build identity unavailable from VIN"

namespace JagLinkDiagnosticsController

/-- The four texts it holds. -/
def identity (controller : JagLinkDiagnosticsController) : VehicleIdentity where
  platform := controller.vehiclePlatformText
  configuration := controller.vehicleConfigurationText
  powertrain := controller.vehiclePowertrainText
  build := controller.vehicleBuildText

/-- The texts and the VIN are written together. -/
def setIdentity (controller : JagLinkDiagnosticsController) (vinText : Option String)
    (identity : VehicleIdentity) : JagLinkDiagnosticsController :=
  { controller with
    vehicleVINText := vinText
    vehiclePlatformText := identity.platform
    vehicleConfigurationText := identity.configuration
    vehiclePowertrainText := identity.powertrain
    vehicleBuildText := identity.build }

/-- `linkDiagnosticsController:didReceiveFlowEvent:`, the identity part. -/
def didReceiveFlowEvent {Reading : Type} (event : Option (LinkDiagnosticFlowEvent Reading))
    (controller : JagLinkDiagnosticsController) : JagLinkDiagnosticsController :=
  match event with
  | some (.standardVin vinAvailable vin) =>
    match vinAvailable, vin with
    | true, some vin =>
      controller.setIdentity (some (jagLinkStringFromCString (some vin))) (vinIdentity vin)
    | _, _ => controller.setIdentity none noVinIdentity
  | _ => controller

/-- The handler writes the identity, never LINK's controller. -/
@[simp] theorem didReceiveFlowEvent_shared {Reading : Type}
    (event : Option (LinkDiagnosticFlowEvent Reading)) (c : JagLinkDiagnosticsController) :
    (didReceiveFlowEvent event c).shared = c.shared := by
  unfold didReceiveFlowEvent
  split
  · split <;> rfl
  · rfl

/-- While a VIN is held, the texts are the ones of that VIN. -/
def IdentityOfVin (controller : JagLinkDiagnosticsController) : Prop :=
  ∀ t, controller.vehicleVINText = some t →
    ∃ vin, t = jagLinkStringFromCString (some vin) ∧ controller.identity = vinIdentity vin

/-- After a reset there is no VIN, so nothing to tell of it. -/
theorem identityOfVin_reset (c : JagLinkDiagnosticsController) :
    c.resetVehicleIdentity.IdentityOfVin := by
  intro t ht
  cases ht

/-- **The handler keeps VIN and texts together**, whatever the event. -/
theorem identityOfVin_didReceiveFlowEvent {Reading : Type}
    (event : Option (LinkDiagnosticFlowEvent Reading)) {c : JagLinkDiagnosticsController}
    (h : c.IdentityOfVin) : (didReceiveFlowEvent event c).IdentityOfVin := by
  have hnone : (c.setIdentity none noVinIdentity).IdentityOfVin := by
    intro t ht
    cases ht
  match event with
  | some (.standardVin true (some vin)) =>
    intro t ht
    exact ⟨vin, (Option.some.inj ht).symm, rfl⟩
  | some (.standardVin true none) | some (.standardVin false _) => exact hnone
  | some (.liveSample _) | some .other | none => exact h

end JagLinkDiagnosticsController

/-! ## Texts and their bytes -/

/-- A received text other than the fallback is the one its bytes spell. -/
theorem utf8_jagLinkStringFromCString {vin : CString}
    (h : jagLinkStringFromCString (some vin) ≠ "unknown") :
    utf8 (jagLinkStringFromCString (some vin)) = vin.bytes := by
  simp only [jagLinkStringFromCString, String.fromUTF8?] at h ⊢
  by_cases hvalid : ByteArray.IsValidUTF8 ⟨vin.bytes.toArray⟩
  · rw [dif_pos hvalid]
    rfl
  · rw [dif_neg hvalid] at h
    exact absurd rfl h

/-- Bytes that spell a text are shown as that text. -/
theorem jagLinkStringFromCString_spelt {value : CString} {t : String} (h : value.bytes = utf8 t) :
    jagLinkStringFromCString (some value) = t := by
  rw [jagLinkStringFromCString, fromUTF8?_utf8 h, Option.getD_some]

/-- A literal comes back from the C string made of it. -/
theorem utf8_jagLinkStringFromCString_text {t : String} (h : (0 : UInt8) ∉ utf8 t) :
    utf8 (jagLinkStringFromCString (text t)) = utf8 t :=
  congrArg utf8 (jagLinkStringFromCString_spelt (read_utf8 h))

/-- An ASCII byte and its character. -/
theorem ascii_char (b : UInt8) (h : b.toNat < 128) :
    (Char.ofNat b.toNat).toNat = b.toNat ∧ ch (Char.ofNat b.toNat) = b := by
  have hvalid : b.toNat.isValidChar := Or.inl (by omega)
  have htoNat : (Char.ofNat b.toNat).toNat = b.toNat := by
    rw [Char.ofNat, dif_pos hvalid]
    rfl
  refine ⟨htoNat, UInt8.toNat_inj.mp ?_⟩
  rw [toNat_ch (by omega), htoNat]

/-- ASCII bytes spell a text of as many characters. -/
theorem ascii_spelt {value : CString} (h : ∀ b ∈ value.bytes, b.toNat < 128) :
    value.bytes = utf8 (String.ofList (value.bytes.map fun b => Char.ofNat b.toNat)) := by
  rw [utf8_ofList_ascii, List.map_map]
  · exact ((List.map_congr_left fun b hb => (ascii_char b (h b hb)).2).trans (List.map_id _)).symm
  · intro c hc
    obtain ⟨b, hb, rfl⟩ := List.mem_map.mp hc
    rw [(ascii_char b (h b hb)).1]
    exact h b hb

/-- ASCII bytes are UTF-8, so they come back as they are. -/
theorem utf8_jagLinkStringFromCString_ascii {value : CString}
    (h : ∀ b ∈ value.bytes, b.toNat < 128) :
    utf8 (jagLinkStringFromCString (some value)) = value.bytes := by
  rw [jagLinkStringFromCString_spelt (ascii_spelt h), ← ascii_spelt h]

end Jaglink
