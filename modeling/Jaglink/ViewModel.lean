/-
  The iOS view model (`app/ios/JAGLINK/ConnectionViewModel.swift`): what it publishes and how
  `refresh` computes it.

  1. **Program** — `refreshSavedVehicleProfiles`, `saveVehicleProfile`, `refresh`, the user actions
     and `init`, under the source's names.  `refresh` is one long function; here it is the
     composition of its blocks in the order of the source: the saved profiles are listed, the
     connection and the vehicle identity are published, a new live VIN is persisted, a ready session
     is persisted with its diagnostic snapshot, the snapshot is published or restored, the settings
     and the session flags are published.  Each block is a function of the whole view model, because
     the blocks communicate through published fields.  `step` is one event of a view model with its
     controller, and a run of the program is a run of `step` from `initial`.

  2. **Parameters** — what depends on Swift, on Foundation, on LINK's parameter catalogue or on
     LINK's profile store is a member of `AppleApi`, with the laws that are relied on as its fields.
     One of them is an assumption about vehicles and not about Swift, whose `==` compares texts up
     to canonical equivalence: the text of a VIN has no second spelling (`sameText_vin`).  A VIN is
     ASCII.

  3. **Specification** — none in this file.  What a refresh publishes and keeps is said in the
     modules that import it, beginning with `ViewModelRuns`; `sameVIN_eq` and `find?_listed` are all
     that they need to know of Swift's `==`.
-/
import Mathlib.Data.List.Find
import Jaglink.ProfileStore

namespace Jaglink

open CLib

/-! ## Parameters -/

/-- `string(from:)`; `repaired` is what `String(cString:)` makes of bytes that are not UTF-8. -/
def stringFrom (repaired : List UInt8 → String) (cString : Option CString) : String :=
  match cString with
  | none => ""
  | some cString => (String.fromUTF8? ⟨cString.bytes.toArray⟩).getD (repaired cString.bytes)

/-- `Int(clamping:)` of an `NSUInteger`. -/
def intClamping (n : UInt64) : Int :=
  if n ≤ 0x7fffffffffffffff then n.toNat else 0x7fffffffffffffff

/-- A text of ASCII characters. -/
def Ascii (s : String) : Prop := ∀ c ∈ s.toList, c.toNat < 128

instance (s : String) : Decidable (Ascii s) :=
  decidable_of_decidable_of_iff (p := s.toList.all (·.toNat < 128) = true) (by simp [Ascii])

/-- What the Swift code calls and this repository does not contain. -/
structure AppleApi where
  /-- `String.count` -/
  characterCount : String → Nat
  /-- Swift's `==` on texts -/
  sameText : String → String → Bool
  /-- `String(cString:)` where the bytes are not UTF-8 -/
  repaired : List UInt8 → String
  uppercaseString : String → String
  DiagnosticParameter : Type
  loadDiagnosticParameters : LinkDiagnosticsController → List DiagnosticParameter
  store : VehicleProfileStore
  /-- On ASCII text without line ends every character counts once. -/
  characterCount_ascii : ∀ s : String, (∀ c ∈ s.toList, ' ' ≤ c ∧ c ≤ '~') →
    characterCount s = s.length
  sameText_comm : ∀ v w, sameText v w = sameText w v
  /-- Canonical equivalence is equality on ASCII. -/
  sameText_ascii : ∀ v w, Ascii v → Ascii w → (sameText v w = true ↔ v = w)
  /-- The text of a VIN, which has seventeen characters, has no second spelling. -/
  sameText_vin : ∀ v w, characterCount v = 17 → (sameText v w = true ↔ v = w)

namespace AppleApi

variable (api : AppleApi)

/-- Swift's `==` on optional texts. -/
def sameVIN : Option String → Option String → Bool
  | some v, some w => api.sameText v w
  | none, none => true
  | _, _ => false

/-- With a VIN it is equality. -/
theorem sameVIN_eq {v : String} (hcount : api.characterCount v = 17) (known : Option String) :
    api.sameVIN known (some v) = true ↔ known = some v := by
  cases known with
  | none => simp [sameVIN]
  | some w =>
    show api.sameText w v = true ↔ _
    rw [api.sameText_comm, api.sameText_vin v w hcount, Option.some.injEq, eq_comm]

end AppleApi

/-! ## The published state -/

/-- The VIN is also the `id`. -/
structure JagSavedVehicleProfileSummary where
  vin : String
  displayName : String
  updatedAt : Option UInt64
  adapterIdentifier : Option String
  deriving DecidableEq

/-- The seventeen diagnostic fields a profile can hold. -/
structure DiagnosticSnapshot where
  obdProtocolText : String
  faultScanStatusText : String
  storedDTCs : List String
  pendingDTCs : List String
  permanentDTCs : List String
  storedDTCDisplayRows : List String
  pendingDTCDisplayRows : List String
  permanentDTCDisplayRows : List String
  readinessStatusText : String
  readinessMonitorStatus : List String
  freezeFrameContext : List String
  diagnosticCapabilityText : String
  diagnosticCapabilityDetailText : String
  standardResponderSummary : String
  supportedPIDSummary : String
  standardVINText : String
  standardLiveValueRows : List String
  deriving DecidableEq

/-- The published fields, and the state behind them. -/
structure ConnectionViewModel (api : AppleApi) where
  statusText : String
  peripheralName : String
  adapterIdentifier : String
  vehicleVINText : String
  /-- the published platform, configuration, powertrain and build texts -/
  identity : VehicleIdentity
  snapshot : DiagnosticSnapshot
  isActive : Bool
  isReady : Bool
  isSimulationActive : Bool
  diagnosticParameters : List api.DiagnosticParameter
  profileDisplayName : String
  savedVehicleProfiles : List JagSavedVehicleProfileSummary
  selectedVehicleVIN : Option String
  recordedSampleCount : Int
  languageTags : List String
  languageNames : List String
  selectedLanguageID : String
  measurementKeys : List String
  measurementNames : List String
  selectedMeasurementID : String
  controller : JagLinkDiagnosticsController
  vehicleProfileStore : api.store.State
  lastPersistedLiveVIN : Option String
  lastPersistedReadyVIN : Option String

variable {api : AppleApi}

/-- The snapshot the controller has to show. -/
def JagLinkDiagnosticsController.snapshot (uppercaseString : String → String)
    (controller : JagLinkDiagnosticsController) : DiagnosticSnapshot :=
  let shared := controller.shared
  { obdProtocolText := shared.obdProtocolText
    faultScanStatusText := shared.faultScanStatusText
    storedDTCs := shared.storedDTCs
    pendingDTCs := shared.pendingDTCs
    permanentDTCs := shared.permanentDTCs
    storedDTCDisplayRows := jagLinkDTCDisplayRows uppercaseString shared shared.storedDTCs
    pendingDTCDisplayRows := jagLinkDTCDisplayRows uppercaseString shared shared.pendingDTCs
    permanentDTCDisplayRows := jagLinkDTCDisplayRows uppercaseString shared shared.permanentDTCs
    readinessStatusText := shared.readinessStatusText
    readinessMonitorStatus := shared.readinessMonitorStatus
    freezeFrameContext := shared.freezeFrameContext
    diagnosticCapabilityText := shared.diagnosticCapabilityText
    diagnosticCapabilityDetailText := shared.diagnosticCapabilityDetailText
    standardResponderSummary := shared.standardResponderSummary
    supportedPIDSummary := shared.supportedPIDSummary
    standardVINText := shared.standardVINText
    standardLiveValueRows := shared.standardLiveValueRows }

/-- `restoreSavedDiagnosticSnapshot`. -/
def restoreSavedDiagnosticSnapshot (profile : Profile) : DiagnosticSnapshot :=
  let storedDTCs := (profile.strings "storedDTCs").getD []
  let pendingDTCs := (profile.strings "pendingDTCs").getD []
  let permanentDTCs := (profile.strings "permanentDTCs").getD []
  { obdProtocolText :=
      (profile.string "obdProtocolText").getD "Saved OBD-II protocol unavailable"
    standardResponderSummary :=
      (profile.string "standardResponderSummary").getD "Saved standard responder information"
    supportedPIDSummary :=
      (profile.string "supportedPIDSummary").getD "Saved standard PID information"
    standardVINText := (profile.string "standardVINText").getD "Saved standard VIN information"
    standardLiveValueRows := (profile.strings "standardLiveValueRows").getD []
    diagnosticCapabilityText :=
      (profile.string "diagnosticCapabilityText").getD "Saved diagnostic capability"
    diagnosticCapabilityDetailText := (profile.string "diagnosticCapabilityDetailText").getD ""
    faultScanStatusText := (profile.string "faultScanStatusText").getD "Saved diagnostic state"
    storedDTCs := storedDTCs
    pendingDTCs := pendingDTCs
    permanentDTCs := permanentDTCs
    storedDTCDisplayRows := (profile.strings "storedDTCDisplayRows").getD storedDTCs
    pendingDTCDisplayRows := (profile.strings "pendingDTCDisplayRows").getD pendingDTCs
    permanentDTCDisplayRows := (profile.strings "permanentDTCDisplayRows").getD permanentDTCs
    readinessStatusText := (profile.string "readinessStatusText").getD "Saved readiness state"
    readinessMonitorStatus := (profile.strings "readinessMonitorStatus").getD []
    freezeFrameContext := (profile.strings "freezeFrameContext").getD [] }

/-- `resetOfflineDiagnosticSnapshot`. -/
def resetOfflineDiagnosticSnapshot : DiagnosticSnapshot where
  obdProtocolText := "OBD-II protocol not identified"
  faultScanStatusText := "Not scanned"
  storedDTCs := []
  pendingDTCs := []
  permanentDTCs := []
  storedDTCDisplayRows := []
  pendingDTCDisplayRows := []
  permanentDTCDisplayRows := []
  readinessStatusText := "Not collected"
  readinessMonitorStatus := []
  freezeFrameContext := []
  diagnosticCapabilityText := "Unknown / probing"
  diagnosticCapabilityDetailText := ""
  standardResponderSummary := "0 physical responders"
  supportedPIDSummary := "0 advertised PIDs"
  standardVINText := "Unavailable / not yet read"
  standardLiveValueRows := []

/-- The identity texts restored from a profile. -/
def savedIdentity (profile : Profile) : VehicleIdentity where
  platform := (profile.string "platform").getD "Saved Jaguar profile"
  configuration := (profile.string "configuration").getD "Saved vehicle configuration"
  powertrain := (profile.string "powertrain").getD "Saved powertrain information"
  build := (profile.string "build").getD "Saved build information"

/-- The identity texts a view model starts out with. -/
def initialIdentity : VehicleIdentity where
  platform := "Jaguar vehicle identity pending"
  configuration := "Waiting for standard VIN"
  powertrain := "Waiting for standard VIN"
  build := "Waiting for standard VIN"

namespace ConnectionViewModel

/-! ## The store -/

/-- `vehicleProfileStore.profile(forVIN:)`. -/
def profile (vm : ConnectionViewModel api) (vin : String) : Option Profile :=
  api.store.profile vm.vehicleProfileStore vin

/-- `vehicleProfileStore.selectedVehicleVIN`. -/
def storeSelectedVIN (vm : ConnectionViewModel api) : Option String :=
  api.store.selectedVehicleVIN vm.vehicleProfileStore

/-- One entry of the listing; entries without a 17-character VIN are left out. -/
def summary (vm : ConnectionViewModel api) (profile : Profile) :
    Option JagSavedVehicleProfileSummary :=
  match profile.string "vin" with
  | some vin =>
    if api.characterCount vin = 17 then
      some {
        vin := vin
        displayName := (profile.string "displayName").getD "Jaguar vehicle"
        updatedAt := profile.number "updatedAt"
        adapterIdentifier :=
          api.store.associatedAdapterIdentifier vm.vehicleProfileStore vin }
    else none
  | none => none

/-- `profileDisplayName` changes only if the selected vehicle is listed. -/
def refreshSavedVehicleProfiles (vm : ConnectionViewModel api) : ConnectionViewModel api :=
  let vm := { vm with
    savedVehicleProfiles := (api.store.savedProfiles vm.vehicleProfileStore).filterMap vm.summary }
  let vm := { vm with selectedVehicleVIN := vm.storeSelectedVIN }
  { vm with
    profileDisplayName :=
      match vm.selectedVehicleVIN with
      | some selectedVehicleVIN =>
        match vm.savedVehicleProfiles.find? (fun row => api.sameText row.vin selectedVehicleVIN) with
        | some selected => selected.displayName
        | none => vm.profileDisplayName
      | none => vm.profileDisplayName }

/-- A listed entry has a VIN. -/
theorem summary_vin {vm : ConnectionViewModel api} {d : Profile}
    {row : JagSavedVehicleProfileSummary} (h : vm.summary d = some row) :
    api.characterCount row.vin = 17 := by
  unfold summary at h
  split at h
  · split at h
    · rename_i hcount
      obtain rfl := Option.some.inj h
      exact hcount
    · cases h
  · cases h

/-- The row that is found is the one with the selected VIN itself. -/
theorem find?_listed (vm : ConnectionViewModel api) (v : String) :
    ((api.store.savedProfiles vm.vehicleProfileStore).filterMap vm.summary).find?
        (fun row => api.sameText row.vin v) =
      ((api.store.savedProfiles vm.vehicleProfileStore).filterMap vm.summary).find?
        (fun row => row.vin = v) := by
  refine List.find?_congr fun row hrow => ?_
  obtain ⟨d, -, hd⟩ := List.mem_filterMap.mp hrow
  exact Bool.eq_iff_iff.mpr ((api.sameText_vin _ v (summary_vin hd)).trans decide_eq_true_iff.symm)

/-- What `saveVehicleProfile` assigns in any case. -/
def identityEntries (displayName : String) (identity : VehicleIdentity) :
    List (String × ProfileValue) :=
  [("displayName", .string displayName),
    ("manufacturer", .string "Jaguar"),
    ("platform", .string identity.platform),
    ("configuration", .string identity.configuration),
    ("powertrain", .string identity.powertrain),
    ("build", .string identity.build)]

/-- What it assigns with the diagnostic snapshot. -/
def snapshotEntries (snapshot : DiagnosticSnapshot) : List (String × ProfileValue) :=
  [("obdProtocolText", .string snapshot.obdProtocolText),
    ("standardResponderSummary", .string snapshot.standardResponderSummary),
    ("supportedPIDSummary", .string snapshot.supportedPIDSummary),
    ("standardVINText", .string snapshot.standardVINText),
    ("standardLiveValueRows", .strings snapshot.standardLiveValueRows),
    ("diagnosticCapabilityText", .string snapshot.diagnosticCapabilityText),
    ("diagnosticCapabilityDetailText", .string snapshot.diagnosticCapabilityDetailText),
    ("faultScanStatusText", .string snapshot.faultScanStatusText),
    ("storedDTCs", .strings snapshot.storedDTCs),
    ("pendingDTCs", .strings snapshot.pendingDTCs),
    ("permanentDTCs", .strings snapshot.permanentDTCs),
    ("storedDTCDisplayRows", .strings snapshot.storedDTCDisplayRows),
    ("pendingDTCDisplayRows", .strings snapshot.pendingDTCDisplayRows),
    ("permanentDTCDisplayRows", .strings snapshot.permanentDTCDisplayRows),
    ("readinessStatusText", .string snapshot.readinessStatusText),
    ("readinessMonitorStatus", .strings snapshot.readinessMonitorStatus),
    ("freezeFrameContext", .strings snapshot.freezeFrameContext)]

/-- The responder profiles, saved only if there are any. -/
def responderEntries (responders : List ResponderProfile) : List (String × ProfileValue) :=
  if responders = [] then [] else [("standardResponderProfiles", .responders responders)]

/-- The dictionary `saveVehicleProfile` stores. -/
def profileToSave (vm : ConnectionViewModel api) (vin displayName : String)
    (includeDiagnosticSnapshot : Bool) : Profile :=
  let profile := (vm.profile vin).getD Profile.empty
  let profile := profile.setAll (identityEntries displayName vm.identity)
  if includeDiagnosticSnapshot then
    let profile := profile.setAll (snapshotEntries (vm.controller.snapshot api.uppercaseString))
    profile.setAll (responderEntries vm.controller.standardResponderProfiles)
  else profile

/-- `saveVehicleProfile`: one entry of the store is written. -/
def saveVehicleProfile (vm : ConnectionViewModel api) (vin displayName : String)
    (includeDiagnosticSnapshot : Bool) : ConnectionViewModel api :=
  { vm with
    vehicleProfileStore := api.store.saveProfile vm.vehicleProfileStore
      (vm.profileToSave vin displayName includeDiagnosticSnapshot) vin }

/-! ## The blocks of `refresh` -/

/-- `controller.isActive`. -/
def controllerActive (vm : ConnectionViewModel api) : Bool := vm.controller.shared.isActive

/-- The VIN of an active controller, if it has 17 characters. -/
def liveVIN (vm : ConnectionViewModel api) : Option String :=
  if vm.controllerActive then
    vm.controller.vehicleVINText.filter fun vin => api.characterCount vin = 17
  else none

/-- Connection and vehicle identity.  With the controller inactive and no saved profile of the
    selected vehicle the four identity texts are left as they are. -/
def publishIdentity (vm : ConnectionViewModel api) : ConnectionViewModel api :=
  { vm with
    statusText := vm.controller.shared.statusText
    peripheralName := vm.controller.shared.peripheralName.getD "No adapter"
    adapterIdentifier := vm.controller.shared.adapterIdentifier.getD "Unknown"
    vehicleVINText :=
      if vm.controllerActive then vm.controller.vehicleVINText.getD "Not returned by SAE Mode 09"
      else vm.selectedVehicleVIN.getD "No vehicle loaded"
    identity :=
      if vm.controllerActive then vm.controller.identity
      else
        match vm.profile (vm.selectedVehicleVIN.getD "") with
        | some profile => savedIdentity profile
        | none => vm.identity }

/-- The live VIN is recorded and saved under its existing name, or under a new one. -/
def recordLive (vm : ConnectionViewModel api) (liveVIN : String) : ConnectionViewModel api :=
  let previousSelectedVIN := vm.selectedVehicleVIN
  let vm := { vm with
    vehicleProfileStore := api.store.recordLiveVIN vm.vehicleProfileStore liveVIN }
  let vm := { vm with selectedVehicleVIN := some liveVIN }
  let existingName := (vm.profile liveVIN).bind fun profile => profile.string "displayName"
  let name := existingName.getD
    (if api.sameVIN previousSelectedVIN (some liveVIN) then vm.profileDisplayName
    else "Jaguar vehicle · " ++ liveVIN)
  let vm := { vm with profileDisplayName := name }
  let vm := vm.saveVehicleProfile liveVIN name false
  { vm with
    lastPersistedLiveVIN := some liveVIN
    lastPersistedReadyVIN := none }

/-- A live VIN that is not persisted yet is. -/
def persistLiveVIN (vm : ConnectionViewModel api) : ConnectionViewModel api :=
  match vm.liveVIN with
  | some liveVIN =>
    if !api.sameVIN vm.lastPersistedLiveVIN (some liveVIN) then
      (vm.recordLive liveVIN).refreshSavedVehicleProfiles
    else vm
  | none => vm

/-- The live VIN is saved with the diagnostic snapshot, under the published name. -/
def recordReady (vm : ConnectionViewModel api) (liveVIN : String) : ConnectionViewModel api :=
  let vm := vm.saveVehicleProfile liveVIN vm.profileDisplayName true
  { vm with lastPersistedReadyVIN := some liveVIN }

/-- A ready session that is not persisted yet is. -/
def persistReadyVIN (vm : ConnectionViewModel api) : ConnectionViewModel api :=
  match vm.liveVIN with
  | some liveVIN =>
    if vm.controller.shared.isReady && !api.sameVIN vm.lastPersistedReadyVIN (some liveVIN) then
      (vm.recordReady liveVIN).refreshSavedVehicleProfiles
    else vm
  | none => vm

/-- The snapshot: the controller's while it is active, else the selected vehicle's saved one. -/
def publishDiagnostics (vm : ConnectionViewModel api) : ConnectionViewModel api :=
  { vm with
    snapshot :=
      if vm.controllerActive then vm.controller.snapshot api.uppercaseString
      else
        match vm.profile (vm.selectedVehicleVIN.getD "") with
        | some profile => restoreSavedDiagnosticSnapshot profile
        | none => resetOfflineDiagnosticSnapshot }

/-- Settings, session flags and parameters. -/
def publishSession (vm : ConnectionViewModel api) : ConnectionViewModel api :=
  let shared := vm.controller.shared
  { vm with
    languageTags := shared.availableLanguageTags
    languageNames := shared.availableLanguageNames
    selectedLanguageID := shared.selectedLanguageTag
    measurementKeys := shared.availableMeasurementSystemKeys
    measurementNames := shared.availableMeasurementSystemNames
    selectedMeasurementID := shared.selectedMeasurementSystemKey
    isActive := shared.isActive
    isReady := shared.isReady
    diagnosticParameters := api.loadDiagnosticParameters shared
    recordedSampleCount := intClamping shared.recordedSampleCount }

/-- `refresh`, block by block. -/
def refresh (vm : ConnectionViewModel api) : ConnectionViewModel api :=
  vm.refreshSavedVehicleProfiles.publishIdentity.persistLiveVIN.persistReadyVIN.publishDiagnostics
    |>.publishSession

/-! ## User actions -/

end ConnectionViewModel

/-- What the connection picker offers. -/
inductive LinkConnectionSource
  | automatic
  | simulated
  | peripheral (identifier : String)
  deriving DecidableEq

namespace ConnectionViewModel

/-- Every source starts the controller, which resets its vehicle identity first; what the shared
    controller makes of it are later events. -/
def beginConnection (source : LinkConnectionSource) (vm : ConnectionViewModel api) :
    ConnectionViewModel api :=
  if vm.isActive then vm
  else
    { vm with
      lastPersistedLiveVIN := none
      lastPersistedReadyVIN := none
      isSimulationActive := decide (source = .simulated)
      controller := vm.controller.resetVehicleIdentity }

/-- `disconnect`; what the shared controller makes of it is a later event. -/
def disconnect (vm : ConnectionViewModel api) : ConnectionViewModel api :=
  { vm with isSimulationActive := false }

/-- `selectSavedVehicle(vin:)`: the store may refuse. -/
def selectSavedVehicle (vin : String) (vm : ConnectionViewModel api) : ConnectionViewModel api :=
  if vm.isActive then vm
  else
    let (selected, store) := api.store.selectOfflineVehicle vm.vehicleProfileStore vin
    let vm := { vm with vehicleProfileStore := store }
    if selected then refresh { vm with selectedVehicleVIN := some vin } else vm

/-- `init`, over an empty store and a given shared controller. -/
def initial (api : AppleApi) (shared : LinkDiagnosticsController) : ConnectionViewModel api :=
  refresh
    { statusText := "Idle"
      peripheralName := "No adapter"
      adapterIdentifier := "Unknown"
      vehicleVINText := "Waiting for VIN"
      identity := initialIdentity
      snapshot := resetOfflineDiagnosticSnapshot
      isActive := false
      isReady := false
      isSimulationActive := false
      diagnosticParameters := []
      profileDisplayName := stringFrom api.repaired x400Profile.displayName
      savedVehicleProfiles := []
      selectedVehicleVIN := api.store.selectedVehicleVIN api.store.empty
      recordedSampleCount := 0
      languageTags := []
      languageNames := []
      selectedLanguageID := "en-AU"
      measurementKeys := []
      measurementNames := []
      selectedMeasurementID := "metric"
      controller := JagLinkDiagnosticsController.initial shared
      vehicleProfileStore := api.store.empty
      lastPersistedLiveVIN := none
      lastPersistedReadyVIN := none }

/-! ## Events -/

/-- What can happen to the view model and its controller.  The readings of live samples reach the
    fuel model only, which is left out. -/
inductive Event
  | beginConnection (source : LinkConnectionSource)
  | flowEvent (event : Option (LinkDiagnosticFlowEvent Unit))
  | sharedChanged (shared : LinkDiagnosticsController)
  | refresh
  | disconnect
  | selectSavedVehicle (vin : String)

/-- One event. -/
def step (vm : ConnectionViewModel api) : Event → ConnectionViewModel api
  | .beginConnection source => vm.beginConnection source
  | .flowEvent event => { vm with controller := vm.controller.didReceiveFlowEvent event }
  | .sharedChanged shared => { vm with controller := { vm.controller with shared := shared } }
  | .refresh => vm.refresh
  | .disconnect => vm.disconnect
  | .selectSavedVehicle vin => vm.selectSavedVehicle vin

end ConnectionViewModel

/-- Foundation on ASCII texts and a store in memory, for runs on concrete inputs. -/
def AppleApi.memory : AppleApi where
  characterCount := String.length
  sameText v w := decide (v = w)
  repaired := fun _ => "\uFFFD"
  uppercaseString := String.toUpper
  DiagnosticParameter := Unit
  loadDiagnosticParameters := fun _ => []
  store := memoryStore
  characterCount_ascii := fun _ _ => rfl
  sameText_comm v w := by simp only [eq_comm]
  sameText_ascii v w _ _ := by simp
  sameText_vin v w _ := by simp

end Jaglink
