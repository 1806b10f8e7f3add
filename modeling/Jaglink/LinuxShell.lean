/-
  The Linux shell (`app/linux/main.c`): its context, the two callbacks LINK's shell invokes and
  the sections that show vehicle identity, faults, parameters and the dashboard.

  1. **Data** — `JaglinkLinuxContext` is the source's context without its widgets.  A card is the
     list of rows appended to it.  A detail row holds either a text or a live sample:
     `format_sample` prints a sample's value as a decimal fraction, and which SAMPLE a row shows is
     what the results about the shell are about, so the row keeps the sample itself.

  2. **Program** — `connectionChanged` and `diagnosticChanged` write the context; the `append`
     functions read it.  Those that index the sample tables with an identifier of LINK's catalogue,
     or print its names, are C computations that may fault; the others read nothing that can be
     missing. `diagnostic_text` and `append_faults` look at `connected` first; `append_parameters`
     and `append_dashboard` do not.

  3. **Specification** — `parametersCard` and `dashboardCard` are the cards meant: a row for each
     parameter LINK lists, or for each one on the dashboard, with its value.

  4. **Bridge** — `appendParameters_eq` and `appendDashboard_eq`: by LINK's two laws no read of
     either is outside the tables or through NULL, and the cards are the ones meant.
-/
import Jaglink.LinkFlow
import Jaglink.VinDecode

namespace Jaglink

open CLib

variable {link : LinkApi}

/-! ## Context and callbacks -/

/-- `JaglinkLinuxContext`, without its widgets. -/
structure JaglinkLinuxContext (link : LinkApi) where
  connected : Bool
  adapterIdentity : Text
  transport : link.Transport
  diagnosticValid : Bool
  diagnosticActive : Bool
  diagnosticReady : Bool
  diagnostic : LinkDiagnosticFlow
  sampleValid : UInt8 → Bool
  samples : UInt8 → LinkObd2Sample link.Reading
  fuelEconomy : link.FuelEconomy

/-- A cleared sample. -/
def LinkObd2Sample.zero (link : LinkApi) : LinkObd2Sample link.Reading := ⟨0, link.noReading⟩

/-- The context `main` hands to the shell. -/
def JaglinkLinuxContext.initial (link : LinkApi) : JaglinkLinuxContext link where
  connected := false
  adapterIdentity := []
  transport := link.noTransport
  diagnosticValid := false
  diagnosticActive := false
  diagnosticReady := false
  diagnostic := LinkDiagnosticFlow.zero
  sampleValid := fun _ => false
  samples := fun _ => LinkObd2Sample.zero link
  fuelEconomy := link.fuelEconomyInit

/-- What a reader finds in a `char value[capacity]` after `snprintf(value, capacity, ...)`. -/
def formatted (capacity : Nat) (text : Text) : Text :=
  (CString.read (snprintf (List.replicate capacity 0) capacity text).2).bytes

/-- Text without NUL comes back from a buffer cut to what fits. -/
theorem formatted_eq_take {capacity : Nat} {text : Text} (hcapacity : 0 < capacity)
    (hnul : (0 : UInt8) ∉ text) : formatted capacity text = text.take (capacity - 1) := by
  have hkept : (0 : UInt8) ∉ text.take (capacity - 1) := fun h => hnul (List.mem_of_mem_take h)
  rw [formatted, snprintf, if_neg (Nat.ne_of_gt hcapacity)]
  exact congrArg CString.bytes (CString.read_append_nul ⟨_, hkept⟩ _)

/-- A text that fits the array is kept whole. -/
theorem formatted_fits {capacity : Nat} {text : Text} (hlength : text.length < capacity)
    (hnul : (0 : UInt8) ∉ text) : formatted capacity text = text := by
  rw [formatted_eq_take (by omega) hnul, List.take_of_length_le (by omega)]

/-- `now` is the reading of `monotonic_ms()` during the call. -/
def connectionChanged (transport : link.Transport) (connected : Bool)
    (adapterIdentity : Option CString) (now : UInt64) (context : JaglinkLinuxContext link) :
    JaglinkLinuxContext link :=
  { context with
    connected := connected
    transport := transport
    adapterIdentity := formatted 160 <|
      match connected, adapterIdentity with
      | true, some identity => identity.bytes
      | _, _ => []
    fuelEconomy :=
      if connected then link.fuelEconomyResetTrip context.fuelEconomy now else link.fuelEconomyInit }

/-- `diagnostic_changed`. -/
def diagnosticChanged (flow : Option LinkDiagnosticFlow)
    (event : Option (LinkDiagnosticFlowEvent link.Reading)) (active ready : Bool) (now : UInt64)
    (context : JaglinkLinuxContext link) : JaglinkLinuxContext link :=
  let context := { context with diagnosticActive := active, diagnosticReady := ready }
  match flow with
  | none =>
    { context with
      diagnosticValid := false
      diagnostic := LinkDiagnosticFlow.zero
      sampleValid := fun _ => false
      samples := fun _ => LinkObd2Sample.zero link
      fuelEconomy := link.fuelEconomyInit }
  | some flow =>
    let context := { context with diagnostic := flow, diagnosticValid := true }
    match event with
    | some (.liveSample sample) =>
      let fuelEconomy := link.fuelEconomyObserveObd2 context.fuelEconomy sample now
      { context with
        samples := fun pid => if pid = sample.pid then sample else context.samples pid
        sampleValid := fun pid => if pid = sample.pid then true else context.sampleValid pid
        fuelEconomy := link.fuelEconomyTick fuelEconomy now }
    | _ => context

/-! ## Cards -/

/-- A detail value: a text, or the formatted value of a live sample. -/
inductive DetailValue (Reading : Type)
  | text (value : Text)
  | sample (value : LinkObd2Sample Reading)

/-- What a card is made of: a chip, a labelled value, a note. -/
inductive CardRow (Reading : Type)
  | status (text : Text) (cssClass : String)
  | detail (label : Text) (value : DetailValue Reading)
  | note (text : Text)

/-- A card of a section. -/
structure Card (Reading : Type) where
  kicker : Text
  title : Text
  rows : List (CardRow Reading)

/-- The samples a card shows. -/
def Card.samples {Reading : Type} (card : Card Reading) : List (LinkObd2Sample Reading) :=
  card.rows.filterMap fun
    | .detail _ (.sample s) => some s
    | _ => none

/-- A detail row with this label and text. -/
def CardRow.isDetail {Reading : Type} (label value : Text) : CardRow Reading → Bool
  | .detail l (.text v) => l == label && v == value
  | _ => false

/-- A status row with this text. -/
def CardRow.isStatus {Reading : Type} (text : Text) : CardRow Reading → Bool
  | .status t _ => t == text
  | _ => false

/-- The card has this value under this label. -/
def Card.hasDetail {Reading : Type} (card : Card Reading) (label value : String) : Bool :=
  card.rows.any (CardRow.isDetail (utf8 label) (utf8 value))

/-- The card has this chip. -/
def Card.hasStatus {Reading : Type} (card : Card Reading) (text : String) : Bool :=
  card.rows.any (CardRow.isStatus (utf8 text))

/-- A detail row with a text. -/
def textDetail {Reading : Type} (label : String) (value : Text) : CardRow Reading :=
  .detail (utf8 label) (.text value)

/-! ## Renderers -/

/-- The text of the link. -/
def connectionText (context : JaglinkLinuxContext link) : Text :=
  if context.connected then utf8 "LINKED · DIAGNOSTIC ADAPTER VERIFIED" else utf8 "NOT LINKED"

/-- The text of the session. -/
def diagnosticText (context : JaglinkLinuxContext link) : Text :=
  if !context.connected then utf8 "LINK OFFLINE"
  else if !context.diagnosticValid then utf8 "STARTING DIAGNOSTICS"
  else if context.diagnostic.stage = link.flowFailed then utf8 "DIAGNOSTIC SESSION FAILED"
  else if context.diagnosticReady then utf8 "LIVE DIAGNOSTICS ACTIVE"
  else link.diagnosticFlowStageName context.diagnostic.stage

/-- The css class of a state that is good or not. -/
def stateClass (good : Bool) : String := if good then "state-success" else "state-warning"

/-- Rows of a decoded VIN behind the Platform row. -/
def decodedCodeRows {Reading : Type} (decoded : JaguarVinDecode) : List (CardRow Reading) :=
  (match decoded.market with
    | some market => [textDetail "Market / restraint" (utf8 (x400Markets.get market).market)]
    | none => []) ++
  (match decoded.body with
    | some body =>
      [textDetail "Body" (formatted 160 (utf8 (jaguarBodyStyleName (x400Bodies.get body).bodyStyle) ++
        utf8 " · " ++ utf8 (x400Bodies.get body).seriesClass))]
    | none => [textDetail "Body code" (CString.read decoded.bodyCode).bytes]) ++
  (if decoded.modelYear ≠ 0 then
    [textDetail "Model year" (formatted 160 (decimal decoded.modelYear.toNat))] else []) ++
  (match decoded.transmissionSteering with
    | some ts =>
      [textDetail "Drivetrain"
          (utf8 (jaguarDrivetrainName (x400TransmissionSteering.get ts).drivetrain)),
        textDetail "Transmission"
          (utf8 (jaguarTransmissionName (x400TransmissionSteering.get ts).transmission)),
        textDetail "Steering" (utf8 (jaguarSteeringName (x400TransmissionSteering.get ts).steering))]
    | none => []) ++
  (match decoded.plantEngine with
    | some pe =>
      [textDetail "Engine" (utf8 (x400PlantEngines.get pe).engineDescription),
        textDetail "Engine family" (utf8 (x400PlantEngines.get pe).engineFamily),
        textDetail "Fuel" (utf8 (jaguarFuelTypeName (x400PlantEngines.get pe).fuel)),
        textDetail "Displacement"
          (formatted 160 (decimal (x400PlantEngines.get pe).displacementCc ++ utf8 " cc"))] ++
      (if (x400PlantEngines.get pe).ratedPowerKw ≠ 0 then
        [textDetail "Catalogue power"
          (formatted 160 (decimal (x400PlantEngines.get pe).ratedPowerKw ++ utf8 " kW"))] else []) ++
      [textDetail "Assembly" (formatted 160 (utf8 (x400PlantEngines.get pe).assemblyPlant ++
        utf8 ", " ++ utf8 (x400PlantEngines.get pe).assemblyCountry))]
    | none =>
      [textDetail "Plant / engine-line code" (CString.read [decoded.plantEngineCode, 0]).bytes]) ++
  (match decoded.emission with
    | some emission =>
      [textDetail "Emissions"
        (formatted 160 (utf8 "ECS " ++ decimal (x400Emissions.get emission).ecsNumber))]
    | none => [textDetail "Emissions code" (CString.read [decoded.emissionCode, 0]).bytes]) ++
  [textDetail "Production serial" (CString.read decoded.productionSerial).bytes]

/-- Identity rows of a decoded VIN. -/
def decodedVinRows {Reading : Type} (decoded : JaguarVinDecode) : List (CardRow Reading) :=
  [textDetail "VIN" (CString.read decoded.vin).bytes,
    textDetail "Manufacturer"
      (if decoded.jaguarWmi then utf8 "Jaguar · SAJ" else (CString.read decoded.wmi).bytes),
    textDetail "Platform"
      (if decoded.x400 then utf8 "X400 · X-TYPE" else utf8 "Jaguar VIN · X400 not confirmed")] ++
  decodedCodeRows decoded

/-- `vin` of `append_vehicle`. -/
def vehicleVin (context : JaglinkLinuxContext link) : Option CString :=
  if context.diagnosticValid then context.diagnostic.standardVin else none

/-- The card `identity` of `append_vehicle`. -/
def appendVehicleIdentity (stack : JaguarVinDecode) (context : JaglinkLinuxContext link) :
    Card link.Reading where
  kicker := utf8 "VEHICLE IDENTITY"
  title := utf8 "Jaguar VIN / X400 decoding"
  rows :=
    (match decodedVin stack (vehicleVin context) with
      | some decoded => decodedVinRows decoded
      | none =>
        if context.diagnosticValid && context.diagnostic.standardVinAttempted then
          [.status (utf8 "STANDARD VIN NOT RETURNED · DIAGNOSTICS CONTINUE") "state-warning",
            .note (utf8 ("Some early X400 vehicles may not return SAE Mode 09 PID 02. " ++
              "JAGLINK treats that as missing identity evidence, not a diagnostic failure."))]
        else [.status (utf8 "WAITING FOR SAE MODE 09 VIN") "state-warning"]) ++
    (match jaguarX400Profile with
      | some profile =>
        [textDetail "X400 knowledge" (formatted 160 (decimal profile.firstModelYear.toNat ++
          utf8 "–" ++ decimal profile.lastModelYear.toNat ++ utf8 " · " ++
          decimal profile.networks.count ++ utf8 " networks · " ++
          decimal profile.diagnosticEndpoints.count ++ utf8 " factory routes"))]
      | none => [])

/-- The card `connection` of `append_vehicle`. -/
def appendVehicleConnection (context : JaglinkLinuxContext link) : Card link.Reading where
  kicker := utf8 "CONNECTION"
  title := utf8 "Linux diagnostic link"
  rows :=
    [.status (connectionText context) (stateClass context.connected),
      textDetail "Adapter"
        (if context.connected && context.adapterIdentity ≠ [] then context.adapterIdentity
        else utf8 "Select an adapter above and press LINK UP"),
      textDetail "Diagnostic flow" (diagnosticText context),
      .note (utf8 ("LINK acquires the standard VIN and owns generic OBD-II transport. " ++
        "JAGLINK decodes Jaguar's X400-specific market, body, drivetrain, " ++
        "steering, model-year and Halewood engine-line fields offline."))]

/-- `append_vehicle`. -/
def appendVehicle (stack : JaguarVinDecode) (context : JaglinkLinuxContext link) :
    List (Card link.Reading) :=
  [appendVehicleIdentity stack context, appendVehicleConnection context]

/-- `append_dtc_list`: one row for each code, or one that says there is none. -/
def appendDtcList {Reading : Type} (pre : String) (list : List Text) : List (CardRow Reading) :=
  if list.length = 0 then
    [.detail (formatted 48 (utf8 pre ++ utf8 " faults")) (.text (utf8 "None reported"))]
  else
    list.mapIdx fun index code =>
      .detail (formatted 48 (utf8 pre ++ utf8 " " ++ decimal (index + 1))) (.text code)

/-- The card of the standard faults. -/
def appendFaults (context : JaglinkLinuxContext link) : Card link.Reading where
  kicker := utf8 "STANDARD SAE OBD-II"
  title := utf8 "Stored, pending and permanent faults"
  rows :=
    (if !context.connected then
      [.status (utf8 "NOT SCANNED · LINK OFFLINE") "state-warning"]
    else if !context.diagnosticValid then
      [.status (utf8 "STARTING SCAN") "state-warning"]
    else if context.diagnostic.stage = link.flowFailed then
      [.status (utf8 "SCAN FAILED · RECONNECT TO RETRY") "state-warning"]
    else if context.diagnosticReady then
      .status (formatted 160 (utf8 "COMPLETE · " ++ decimal context.diagnostic.storedDtcs.length ++
          utf8 " stored · " ++ decimal context.diagnostic.pendingDtcs.length ++ utf8 " pending · " ++
          decimal context.diagnostic.permanentDtcs.length ++ utf8 " permanent")) "state-success" ::
        (appendDtcList "Stored" context.diagnostic.storedDtcs ++
          appendDtcList "Pending" context.diagnostic.pendingDtcs ++
          appendDtcList "Permanent" context.diagnostic.permanentDtcs)
    else
      [.status (formatted 160 (utf8 "SCAN IN PROGRESS · " ++
        link.diagnosticFlowStageName context.diagnostic.stage)) "state-warning"]) ++
    [.note (utf8 ("These are live standards-based powertrain DTCs from LINK. They are not used " ++
      "as a substitute for Jaguar's factory/module diagnostic view."))]

/-- Two hexadecimal digits, `%02X`. -/
def hex02 (value : UInt8) : Text :=
  let digit (n : Nat) : UInt8 := ch (Nat.digitChar n).toUpper
  [digit (value.toNat / 16), digit (value.toNat % 16)]

/-- The value column of the parameter table. -/
def parameterValue (context : JaglinkLinuxContext link) (pid : UInt8) : DetailValue link.Reading :=
  if context.sampleValid pid then .sample (context.samples pid)
  else if context.diagnosticValid && !context.diagnostic.supportedPids pid then
    .text (utf8 "Not supported by vehicle")
  else if context.diagnosticActive || context.diagnosticReady then
    .text (utf8 "Waiting for sample")
  else .text (utf8 "No live session")

/-- `(uint8_t)definition->key.identifier`. -/
def LinkParameterDefinition.pid (definition : LinkParameterDefinition) : UInt8 :=
  definition.identifier.toUInt8

/-- One round of `append_parameters`. -/
def parameterRow (compact : Bool) (context : JaglinkLinuxContext link)
    (definition : LinkParameterDefinition) : C (CardRow link.Reading) := do
  let pid := definition.pid
  let shortName ← deref definition.shortName
  let key := formatted 64 (utf8 "PID 0x" ++ hex02 pid ++ utf8 " · " ++ shortName.bytes)
  let value := parameterValue context pid
  if compact then
    return .detail key value
  else
    return .detail (← deref definition.name).bytes value

/-- Definitions that are NULL get no row. -/
def appendParameters (compact : Bool) (context : JaglinkLinuxContext link) :
    C (Card link.Reading) := do
  let rows ← (link.parameterObd2Definitions.filterMap id).mapM (parameterRow compact context)
  return {
    kicker := if compact then utf8 "PARAMETER TABLE" else utf8 "LIVE DATA CATALOGUE"
    title :=
      if compact then utf8 "Real standard OBD-II samples"
      else utf8 "Available shared diagnostic parameters"
    rows := rows }

/-- The stable keys of the parameters on the dashboard. -/
def dashboardKeys : List String :=
  ["obd2.engine.rpm", "obd2.vehicle.speed", "obd2.engine.coolant",
    "obd2.engine.maf", "obd2.engine.throttle", "obd2.electrical.control_module_voltage"]

/-- One round of `append_dashboard`, which does not cast the identifier. -/
def dashboardRow (context : JaglinkLinuxContext link) (definition : LinkParameterDefinition) :
    C (CardRow link.Reading) := do
  if ← tableGet context.sampleValid definition.identifier then
    let sample ← tableGet context.samples definition.identifier
    return .detail (← deref definition.name).bytes (.sample sample)
  else
    return .detail (← deref definition.name).bytes (.text (utf8 "Waiting"))

/-- The dashboard's own card; `render_section` adds the fuel card behind it. -/
def appendDashboard (context : JaglinkLinuxContext link) : C (Card link.Reading) := do
  let rows ←
    (dashboardKeys.filterMap link.parameterObd2DefinitionForStableKey).mapM (dashboardRow context)
  return {
    kicker := utf8 "AT-A-GLANCE"
    title := utf8 "Jaguar powertrain dashboard"
    rows :=
      .status (if context.diagnosticReady then utf8 "LIVE SAMPLES" else diagnosticText context)
        (stateClass context.diagnosticReady) :: rows }

/-! ## The two catalogue cards, drawn

LINK's catalogue holds standard parameters, so neither loop faults; what is drawn is said without
the faults by `parametersCard` and `dashboardCard`. -/

/-- A text that is there. -/
def presentText (s : Option CString) : Text := (s.map (·.bytes)).getD []

/-- A name that is there is printed. -/
theorem deref_presentText {s : Option CString} (h : s ≠ none) :
    ∃ value, deref s = .ok value ∧ value.bytes = presentText s := by
  obtain ⟨value, rfl⟩ := Option.ne_none_iff_exists'.mp h
  exact ⟨value, rfl, rfl⟩

/-- The row of a standard parameter in the table. -/
def shownParameter (compact : Bool) (context : JaglinkLinuxContext link)
    (definition : LinkParameterDefinition) : CardRow link.Reading :=
  .detail
    (if compact then
      formatted 64 (utf8 "PID 0x" ++ hex02 definition.pid ++ utf8 " · " ++
        presentText definition.shortName)
    else presentText definition.name)
    (parameterValue context definition.pid)

/-- Its row on the dashboard. -/
def shownOnDashboard (context : JaglinkLinuxContext link) (definition : LinkParameterDefinition) :
    CardRow link.Reading :=
  .detail (presentText definition.name) <|
    if context.sampleValid definition.pid then .sample (context.samples definition.pid)
    else .text (utf8 "Waiting")

/-- The parameter table. -/
def parametersCard (compact : Bool) (context : JaglinkLinuxContext link) : Card link.Reading where
  kicker := if compact then utf8 "PARAMETER TABLE" else utf8 "LIVE DATA CATALOGUE"
  title :=
    if compact then utf8 "Real standard OBD-II samples"
    else utf8 "Available shared diagnostic parameters"
  rows := (link.parameterObd2Definitions.filterMap id).map (shownParameter compact context)

/-- The dashboard. -/
def dashboardCard (context : JaglinkLinuxContext link) : Card link.Reading where
  kicker := utf8 "AT-A-GLANCE"
  title := utf8 "Jaguar powertrain dashboard"
  rows :=
    .status (if context.diagnosticReady then utf8 "LIVE SAMPLES" else diagnosticText context)
      (stateClass context.diagnosticReady) ::
    (dashboardKeys.filterMap link.parameterObd2DefinitionForStableKey).map (shownOnDashboard context)

/-- The row of a standard parameter is printed without a fault. -/
theorem parameterRow_standard {compact : Bool} {context : JaglinkLinuxContext link}
    {definition : LinkParameterDefinition} (h : definition.Standard) :
    parameterRow compact context definition = .ok (shownParameter compact context definition) := by
  obtain ⟨shortName, hshort, hshortBytes⟩ := deref_presentText h.shortName
  obtain ⟨name, hname, hnameBytes⟩ := deref_presentText h.name
  rw [parameterRow, hshort, ok_bind, hname, shownParameter, hshortBytes, ← hnameBytes]
  cases compact with
  | true => rfl
  | false => rfl

/-- Whether it is on the dashboard is found out without one. -/
theorem dashboardRow_standard {context : JaglinkLinuxContext link}
    {definition : LinkParameterDefinition} (h : definition.Standard) :
    dashboardRow context definition = .ok (shownOnDashboard context definition) := by
  obtain ⟨name, hname, hnameBytes⟩ := deref_presentText h.name
  rw [dashboardRow, tableGet_of_lt _ h.pid, tableGet_of_lt _ h.pid, hname, ok_bind,
    shownOnDashboard, ← hnameBytes, LinkParameterDefinition.pid]
  cases context.sampleValid definition.identifier.toUInt8 with
  | true => rfl
  | false => rfl

/-- **The parameter table is drawn**, in either layout. -/
theorem appendParameters_eq (compact : Bool) (context : JaglinkLinuxContext link) :
    appendParameters compact context = .ok (parametersCard compact context) := by
  have hrows : (link.parameterObd2Definitions.filterMap id).mapM (parameterRow compact context) =
      .ok ((link.parameterObd2Definitions.filterMap id).map (shownParameter compact context)) := by
    refine mapM_eq_map fun definition hdefinition => parameterRow_standard ?_
    obtain ⟨entry, hentry, rfl⟩ := List.mem_filterMap.mp hdefinition
    exact link.listed_standard definition hentry
  rw [appendParameters, hrows]
  rfl

/-- **The dashboard is drawn**: no identifier of the catalogue is past the end of the sample
    tables. -/
theorem appendDashboard_eq (context : JaglinkLinuxContext link) :
    appendDashboard context = .ok (dashboardCard context) := by
  have hrows : (dashboardKeys.filterMap link.parameterObd2DefinitionForStableKey).mapM
      (dashboardRow context) = .ok ((dashboardKeys.filterMap
        link.parameterObd2DefinitionForStableKey).map (shownOnDashboard context)) := by
    refine mapM_eq_map fun definition hdefinition => dashboardRow_standard ?_
    obtain ⟨key, -, hkeyed⟩ := List.mem_filterMap.mp hdefinition
    exact link.keyed_standard key definition hkeyed
  rw [appendDashboard, hrows]
  rfl

end Jaglink
