/-
  The sections of the Linux shell (`render_section` of `main.c`): which cards each of them has.

  1. **Program** — a section is drawn from the context, the built-in profile and the built-in
     signals.

  2. **No section faults (`renderSection_defined`)** — the profile is an accepted one and the
     signals are, so their records are printed without a NULL or an index out of range; the sample
     tables are read under PIDs of LINK's catalogue, which by its two laws are below 256.

  3. **The screen (`screen_of_history`)** — of the context only what the callbacks last reported
     matters (`SameOnScreen`): a run is on screen what its last reports are, whatever happened
     before (`contextFromHistory`).

  4. **The chips** — a card claims success by the colour of its status chip.  Four cards claim it of
     something else than a scan: the connection, the fuel card, the factory routes and the factory
     catalogue.  The fault card looks at the connection, at the flow and at its stage before it
     does; the dashboard and the four generic cards take the colour from `diagnostic_ready` alone.

  5. **Result (`chipsHonest_iff`)** — the exact condition on the callbacks under which a green chip
     means a complete scan throughout a run.  The crux is `chipsHonest_iff_ready`: over all sections
     together a context is honest exactly if readiness means a scan that is complete.
-/
import Jaglink.FuelEconomy
import Jaglink.FaultCodes
import Jaglink.FaceAgreement
import Jaglink.ProfileLookup

namespace Jaglink

open CLib Runs

variable {link : LinkApi}

/-! ## The sections -/

/-- `LinkWorkspaceSection`, by the labels of the switch; `other` is any number without one. -/
inductive LinkWorkspaceSection
  | vehicle | obd | modules | faults | tests | liveData | table | dashboard | graphs | services
  | log | settings | sectionCount | other
  deriving DecidableEq

/-- What the build fixes: `jaglink_version()` and `jaglink_self_check()`. -/
structure BuildInfo where
  version : CString
  selfCheck : Bool

/-- The card `jaguar` of `append_faults`, on any profile. -/
def factoryCatalogueCard (profile : Option JaguarVehicleProfile) : C (Card link.Reading) := do
  let rows ← match profile with
    | none => pure [.status (utf8 "NO FACTORY CATALOGUE") "state-warning"]
    | some profile =>
      if profile.factoryDtcs.count = 0 then
        pure [.status (utf8 "NO FACTORY CATALOGUE") "state-warning"]
      else do
        let catalogue ← appendFactoryCatalogue (some profile)
        pure (.status (formatted 160 (decimal profile.factoryDtcs.count ++
          utf8 " SOURCE-CORROBORATED FACTORY CODE IDENTITIES LOADED")) "state-success" :: catalogue)
  return {
    kicker := utf8 "JAGUAR FACTORY DTC CATALOGUE"
    title := utf8 "Manufacturer-only X400 fault identities"
    rows := rows ++ [.note (utf8 ("Catalogue entries are known Jaguar factory DTC identities, not " ++
      "claims that those faults are present on the connected car. Jaguar's 2002 documentation " ++
      "distinguishes generic OBD-II codes from JAG codes read through WDS; live factory " ++
      "acquisition will only be enabled when the X400 read request itself is evidence-backed."))] }

/-- `append_generic_status`: the card of a section that has nothing of its own yet. -/
def appendGenericStatus (kicker title note : String) (context : JaglinkLinuxContext link) :
    Card link.Reading where
  kicker := utf8 kicker
  title := utf8 title
  rows :=
    [.status (diagnosticText context) (stateClass context.diagnosticReady), .note (utf8 note)]

/-- The card of `LINK_WORKSPACE_SETTINGS`. -/
def settingsCard (build : BuildInfo) : Card link.Reading where
  kicker := utf8 "JAGLINK"
  title := utf8 "System identity"
  rows :=
    [textDetail "Version" build.version.bytes,
      textDetail "Product" (utf8 "Jaguar X-Type X400 diagnostics"),
      textDetail "Portable core" (utf8 (if build.selfCheck then "Validated" else "Invalid metadata")),
      textDetail "Linux transport" (utf8 "LINK native ELM/Bluetooth + Tactrix OpenPort 2.0 USB"),
      textDetail "Jaguar factory layer" (utf8 "X400 routes + module-specific DTC catalogue")]

/-- `stack` is what `append_vehicle` finds in its uninitialised local record, `now` what
    `append_fuel_economy` reads off the clock. -/
def renderSection (build : BuildInfo) (fuel : FuelApi link) (now : UInt64) (stack : JaguarVinDecode)
    (context : JaglinkLinuxContext link) : LinkWorkspaceSection → C (List (Card link.Reading))
  | .vehicle => do return appendVehicle stack context ++ (← appendModules)
  | .faults => do return [appendFaults context, ← factoryCatalogueCard jaguarX400Profile]
  | .table => do return [← appendParameters true context]
  | .dashboard => do return [← appendDashboard context, ← appendFuelEconomy fuel now context]
  | .graphs => pure [appendGenericStatus "INSTRUMENT TRACES" "Signal history"
      ("Time-series traces receive real LINK telemetry samples from the active Linux diagnostic " ++
        "flow.") context]
  | .tests => pure [appendGenericStatus "TESTS" "Diagnostic checks"
      "Readiness, monitor results and verified Jaguar self-tests belong in this task." context]
  | .services => pure [appendGenericStatus "SERVICES" "Vehicle procedures"
      "No verified service procedure is currently enabled in this build." context]
  | .log => pure [appendGenericStatus "SESSION RECORDER" "Diagnostic log and evidence"
      "Raw requests, responses, warnings and telemetry use the shared evidence path." context]
  | .settings => pure [settingsCard build]
  | .obd | .modules | .liveData | .sectionCount | .other => pure []

/-! ## No section faults -/

/-- The row of a catalogue entry whose texts are present. -/
def catalogueRow {Reading : Type} (dtc : JaguarFactoryDtcDefinition) : CardRow Reading :=
  namedRow dtc.code (formatted 128 (utf8 (jaguarModuleKindName dtc.module) ++ utf8 " · " ++
    (dtc.category.map (·.bytes)).getD [] ++ utf8 " · " ++
    utf8 (if dtc.genericObd2Accessible then "generic OBD accessible" else "Jaguar factory/WDS layer")))

/-- The row of a well-formed code is printed without a fault, cut if its category is long. -/
theorem factoryDtcRow_wellFormed {Reading : Type} {d : JaguarFactoryDtcDefinition}
    (h : d.WellFormed) : (factoryDtcRow d : C (CardRow Reading)) = .ok (catalogueRow d) := by
  obtain ⟨code, hcode, -⟩ := h.code
  obtain ⟨category, hcategory, -⟩ := h.category
  rw [factoryDtcRow, factoryDtcDetail, catalogueRow, hcode, hcategory]
  rfl

variable {p : JaguarVehicleProfile}

/-- The catalogue of a well-formed profile is printed without a fault. -/
theorem factoryCatalogueCard_ok (h : p.WellFormed) :
    ∃ card : Card link.Reading, factoryCatalogueCard (some p) = .ok card ∧
      card.kicker = utf8 "JAGUAR FACTORY DTC CATALOGUE" := by
  have hrows : appendFactoryCatalogue (some p) =
      .ok (p.factoryDtcs.entries.map fun d => (catalogueRow d : CardRow link.Reading)) :=
    collect_get h.dtcsPresent fun d hd => factoryDtcRow_wellFormed (h.dtcs d hd)
  rw [factoryCatalogueCard]
  by_cases hcount : p.factoryDtcs.count = 0
  · rw [if_pos hcount]
    exact ⟨_, rfl, rfl⟩
  · rw [if_neg hcount, hrows]
    exact ⟨_, rfl, rfl⟩

/-- The rows of the module card are drawn without a fault for an accepted profile. -/
theorem appendModulesOf_defined (h : p.WellFormed) :
    Defined (appendModulesOf (some p) : C (List (Card link.Reading))) := by
  rw [appendModulesOf, topologyRows_eq h, factoryRows_eq h]
  exact ⟨_, rfl⟩

/-- The built-in profile is one the validator accepts. -/
theorem x400Profile_wellFormed : x400Profile.WellFormed :=
  (isValid_iff_wellFormed _).mp x400Profile_isValid

variable (build : BuildInfo) (fuel : FuelApi link) (now : UInt64) (stack : JaguarVinDecode)

/-- **Every section is drawn without a fault**, from every context. -/
theorem renderSection_defined (context : JaglinkLinuxContext link)
    (shown : LinkWorkspaceSection) : Defined (renderSection build fuel now stack context shown) := by
  cases shown with
  | vehicle =>
    obtain ⟨modules, hmodules⟩ := @appendModulesOf_defined link _ x400Profile_wellFormed
    rw [renderSection, appendModules, jaguarX400Profile, hmodules]
    exact ⟨_, rfl⟩
  | faults =>
    obtain ⟨catalogue, hcatalogue, -⟩ := @factoryCatalogueCard_ok link _ x400Profile_wellFormed
    rw [renderSection, jaguarX400Profile, hcatalogue]
    exact ⟨_, rfl⟩
  | dashboard =>
    obtain ⟨card, hcard, -, -⟩ := @appendFuelEconomy_ok link fuel now context
    rw [renderSection, appendDashboard_eq, hcard]
    exact ⟨_, rfl⟩
  | table =>
    rw [renderSection, appendParameters_eq]
    exact ⟨_, rfl⟩
  | graphs | tests | services | log | settings => exact ⟨_, rfl⟩
  | obd | modules | liveData | sectionCount | other => exact ⟨_, rfl⟩

/-! ## What a section reads -/

/-- The two contexts agree in everything that is drawn. -/
structure SameOnScreen (context context' : JaglinkLinuxContext link) : Prop where
  connected : context.connected = context'.connected
  adapterIdentity : context.adapterIdentity = context'.adapterIdentity
  valid : context.diagnosticValid = context'.diagnosticValid
  active : context.diagnosticActive = context'.diagnosticActive
  ready : context.diagnosticReady = context'.diagnosticReady
  diagnostic : context.diagnostic = context'.diagnostic
  sample : ∀ pid, context.sample pid = context'.sample pid
  fuelEconomy : context.fuelEconomy = context'.fuelEconomy

namespace SameOnScreen

variable {context context' : JaglinkLinuxContext link} (h : SameOnScreen context context')

include h

/-- The text of the session is read from the members on screen, as is all below. -/
theorem diagnosticText : Jaglink.diagnosticText context = Jaglink.diagnosticText context' := by
  simp only [Jaglink.diagnosticText, h.connected, h.valid, h.ready, h.diagnostic]

/-- The vehicle card reads the VIN and whether one was asked for; the local record does not show. -/
theorem appendVehicle (stack stack' : JaguarVinDecode) :
    Jaglink.appendVehicle stack context = Jaglink.appendVehicle stack' context' := by
  simp only [Jaglink.appendVehicle, appendVehicleIdentity, appendVehicleConnection, connectionText,
    vehicleVin, h.connected, h.adapterIdentity, h.valid, h.diagnostic, h.diagnosticText,
    decodedVin_stack stack stack']

/-- The fault card reads the lists of the flow. -/
theorem appendFaults : Jaglink.appendFaults context = Jaglink.appendFaults context' := by
  simp only [Jaglink.appendFaults, h.connected, h.valid, h.ready, h.diagnostic]

/-- The entries of the sample tables agree where they are valid, and are valid in the same
    places. -/
theorem samples (pid : UInt8) : context.sampleValid pid = context'.sampleValid pid ∧
    (context.sampleValid pid = true → context.samples pid = context'.samples pid) := by
  have hsample := h.sample pid
  rw [JaglinkLinuxContext.sample, JaglinkLinuxContext.sample] at hsample
  cases hvalid : context.sampleValid pid <;> cases hvalid' : context'.sampleValid pid
  · exact ⟨rfl, nofun⟩
  · simp [hvalid, hvalid'] at hsample
  · simp [hvalid, hvalid'] at hsample
  · exact ⟨rfl, fun _ => by simpa [hvalid, hvalid'] using hsample⟩

/-- The value under a PID is read from its sample, or from what the session says. -/
theorem parameterValue (pid : UInt8) :
    Jaglink.parameterValue context pid = Jaglink.parameterValue context' pid := by
  obtain ⟨hvalid, hsame⟩ := h.samples pid
  rw [Jaglink.parameterValue, Jaglink.parameterValue, ← hvalid, h.valid, h.active, h.ready,
    h.diagnostic]
  by_cases hshown : context.sampleValid pid = true
  · rw [if_pos hshown, if_pos hshown, hsame hshown]
  · rw [if_neg hshown, if_neg hshown]

/-- The parameter card reads the values. -/
theorem appendParameters (compact : Bool) :
    Jaglink.appendParameters compact context = Jaglink.appendParameters compact context' := by
  have hrow : shownParameter compact context = shownParameter compact context' := by
    funext definition
    rw [shownParameter, shownParameter, h.parameterValue]
  rw [appendParameters_eq, appendParameters_eq, parametersCard, parametersCard, hrow]

/-- Whether a parameter is on the dashboard depends on its sample and on the flow. -/
theorem shownOnDashboard (definition : LinkParameterDefinition) :
    Jaglink.shownOnDashboard context definition = Jaglink.shownOnDashboard context' definition := by
  obtain ⟨hvalid, hsame⟩ := h.samples definition.pid
  rw [Jaglink.shownOnDashboard, Jaglink.shownOnDashboard, ← hvalid]
  by_cases hshown : context.sampleValid definition.pid = true
  · rw [if_pos hshown, if_pos hshown, hsame hshown]
  · rw [if_neg hshown, if_neg hshown]

/-- The dashboard reads the values and the link. -/
theorem appendDashboard : Jaglink.appendDashboard context = Jaglink.appendDashboard context' := by
  rw [appendDashboard_eq, appendDashboard_eq, dashboardCard, dashboardCard, h.ready,
    h.diagnosticText, funext h.shownOnDashboard]

/-- The fuel card reads the model and the link. -/
theorem appendFuelEconomy (fuel : FuelApi link) (now : UInt64) :
    Jaglink.appendFuelEconomy fuel now context = Jaglink.appendFuelEconomy fuel now context' := by
  rw [Jaglink.appendFuelEconomy, Jaglink.appendFuelEconomy, h.connected, h.fuelEconomy]

/-- A section draws nothing else. -/
theorem renderSection (build : BuildInfo) (fuel : FuelApi link) (now : UInt64)
    (stack stack' : JaguarVinDecode) (shown : LinkWorkspaceSection) :
    Jaglink.renderSection build fuel now stack context shown =
      Jaglink.renderSection build fuel now stack' context' shown := by
  have hgeneric : ∀ kicker title note, appendGenericStatus kicker title note context =
      appendGenericStatus kicker title note context' := by
    intro kicker title note
    rw [appendGenericStatus, appendGenericStatus, h.diagnosticText, h.ready]
  cases shown with
  | vehicle => simp only [Jaglink.renderSection, h.appendVehicle stack stack']
  | faults => simp only [Jaglink.renderSection, h.appendFaults]
  | table => simp only [Jaglink.renderSection, h.appendParameters]
  | dashboard => simp only [Jaglink.renderSection, h.appendDashboard, h.appendFuelEconomy]
  | graphs | tests | services | log => simp only [Jaglink.renderSection, hgeneric]
  | settings | obd | modules | liveData | sectionCount | other => rfl

end SameOnScreen

/-! ## The screen from the history -/

/-- The context that holds the last reports and nothing else. -/
def contextFromHistory (callbacks : List (ShellCallback link)) : JaglinkLinuxContext link :=
  let report := lastLinkReport callbacks
  let session := lastSessionReport callbacks
  { JaglinkLinuxContext.initial link with
    connected := (report.map (·.connected)).getD false
    adapterIdentity := (report.map (·.identityText)).getD []
    diagnosticValid := (session.map (·.flow.isSome)).getD false
    diagnosticActive := (session.map (·.active)).getD false
    diagnosticReady := (session.map (·.ready)).getD false
    diagnostic := (session.bind (·.flow)).getD LinkDiagnosticFlow.zero
    sampleValid := fun pid => (lastSample callbacks pid).isSome
    samples := fun pid => (lastSample callbacks pid).getD (LinkObd2Sample.zero link)
    fuelEconomy := fuelFromHistory callbacks }

/-- The context of a run and the one read from its history look the same on screen. -/
theorem sameOnScreen_contextFromHistory (callbacks : List (ShellCallback link)) :
    SameOnScreen (run ShellCallback.step (JaglinkLinuxContext.initial link) callbacks)
      (contextFromHistory callbacks) := by
  have hlink := run_linkState link callbacks
  have hsession := run_sessionState link callbacks
  have hsample := run_sample link callbacks
  have hfuel := run_fuelEconomy callbacks
  generalize run ShellCallback.step (JaglinkLinuxContext.initial link) callbacks = context
    at hlink hsession hsample hfuel
  obtain ⟨hconnected, hidentity⟩ : context.connected = (contextFromHistory callbacks).connected ∧
      context.adapterIdentity = (contextFromHistory callbacks).adapterIdentity := by
    cases hlast : lastLinkReport callbacks with
    | none => simpa [hlast, linkState, contextFromHistory] using (Prod.ext_iff.mp hlink).2
    | some report => simpa [hlast, linkState, contextFromHistory] using (Prod.ext_iff.mp hlink).2
  obtain ⟨hvalid, hdiagnostic, hactive, hready⟩ :
      context.diagnosticValid = (contextFromHistory callbacks).diagnosticValid ∧
      context.diagnostic = (contextFromHistory callbacks).diagnostic ∧
      context.diagnosticActive = (contextFromHistory callbacks).diagnosticActive ∧
      context.diagnosticReady = (contextFromHistory callbacks).diagnosticReady := by
    cases hlast : lastSessionReport callbacks with
    | none => simpa [hlast, sessionState, contextFromHistory] using hsession
    | some report => simpa [hlast, sessionState, contextFromHistory] using hsession
  refine ⟨hconnected, hidentity, hvalid, hactive, hready, hdiagnostic, fun pid => ?_, hfuel⟩
  rw [hsample, JaglinkLinuxContext.sample]
  cases hlast : lastSample callbacks pid with
  | none => simp [contextFromHistory, hlast]
  | some sample => simp [contextFromHistory, hlast]

/-- **The screen shows the last reports.**  After any run every section is drawn without a fault: no
    record of the built-in profile or signals has a NULL that is printed, and by LINK's two laws no
    listed parameter lacks a printed name or has an identifier outside the sample tables.  And it is
    drawn as from a context that holds nothing but the last report of the link, the last report
    of the session, the last sample heard under each PID, and the fuel model of what was heard since
    the link or the flow was last lost; what an uninitialised record held before does not show. -/
theorem screen_of_history (stack' : JaguarVinDecode) (callbacks : List (ShellCallback link))
    (shown : LinkWorkspaceSection) :
    Defined (renderSection build fuel now stack
      (run ShellCallback.step (JaglinkLinuxContext.initial link) callbacks) shown) ∧
    renderSection build fuel now stack
        (run ShellCallback.step (JaglinkLinuxContext.initial link) callbacks) shown =
      renderSection build fuel now stack' (contextFromHistory callbacks) shown :=
  ⟨renderSection_defined build fuel now stack _ shown,
    (sameOnScreen_contextFromHistory callbacks).renderSection build fuel now stack stack' shown⟩

/-! ## Green chips -/

/-- What is claimed of the connection, of fuel and of the built-in profile is not about a scan. -/
def Card.ofScan {Reading : Type} (card : Card Reading) : Prop :=
  card.kicker ∉ ["CONNECTION", "FUEL ECONOMY", "FACTORY DIAGNOSTIC ROUTES",
    "JAGUAR FACTORY DTC CATALOGUE"].map utf8

/-- Whatever section is drawn, and whenever, a claim about the scan is true. -/
def ChipsHonest (build : BuildInfo) (fuel : FuelApi link) (stack : JaguarVinDecode)
    (context : JaglinkLinuxContext link) : Prop :=
  ∀ now shown cards, renderSection build fuel now stack context shown = .ok cards →
    ∀ card ∈ cards, card.ofScan → card.Claims → ScanComplete context

/-- The condition on one callback, in the state before it. -/
def KeepsClaims (context : JaglinkLinuxContext link) : ShellCallback link → Prop
  | .connectionChanged _ connected _ _ => context.diagnosticReady = true → connected = true
  | .diagnosticChanged flow _ _ ready _ =>
    ready = true → context.connected = true ∧ ∃ f, flow = some f ∧ f.stage ≠ link.flowFailed

variable {context : JaglinkLinuxContext link}

/-- The chip of a generic card is about readiness. -/
theorem appendGenericStatus_claims {kicker title note : String} :
    (appendGenericStatus kicker title note context).Claims ↔ context.diagnosticReady = true := by
  rw [Card.Claims]
  simp [appendGenericStatus, success_eq_stateClass]

/-- The chip of the dashboard is about readiness. -/
theorem dashboardCard_claims :
    (dashboardCard context).Claims ↔ context.diagnosticReady = true := by
  rw [Card.Claims]
  simp [dashboardCard, shownOnDashboard, success_eq_stateClass]

/-- The parameter card has no chip. -/
theorem parametersCard_claims {compact : Bool} : ¬(parametersCard compact context).Claims := by
  rw [Card.Claims]
  simp [parametersCard, shownParameter]

/-- The settings have no chip. -/
theorem settingsCard_claims : ¬(settingsCard build : Card link.Reading).Claims := by
  rw [Card.Claims]
  simp [settingsCard, textDetail]

/-- Rows that are all titled values hold no chip. -/
theorem Titled.status_not_mem {Reading : Type} {labels : List String} {rows : List (CardRow Reading)}
    (h : Titled labels rows) (text : Text) (cssClass : String) : .status text cssClass ∉ rows := by
  intro hmem
  obtain ⟨label, -, value, heq⟩ := h _ hmem
  cases heq

/-- The identity card has a warning or no chip at all. -/
theorem appendVehicleIdentity_claims : ¬(appendVehicleIdentity stack context).Claims := by
  rintro ⟨text, hmem⟩
  rw [appendVehicleIdentity] at hmem
  rcases List.mem_append.mp hmem with hvin | hknowledge
  · cases hd : decodedVin stack (vehicleVin context) with
    | some decoded =>
      rw [hd] at hvin
      rcases List.mem_append.mp hvin with hfirst | hcodes
      · simp [textDetail] at hfirst
      · exact (decodedCodeRows_titled decoded).status_not_mem _ _ hcodes
    | none =>
      rw [hd] at hvin
      dsimp only at hvin
      split at hvin
      · simp at hvin
      · simp at hvin
  · simp [jaguarX400Profile, textDetail] at hknowledge

/-- The cards of `append_modules`, from their kickers: one without a claim, and the routes. -/
theorem appendModules_claims {cards : List (Card link.Reading)} (h : appendModules = .ok cards)
    {card : Card link.Reading} (hcard : card ∈ cards) (hscan : card.ofScan) : ¬card.Claims := by
  have hwell := x400Profile_wellFormed
  rw [appendModules, jaguarX400Profile, appendModulesOf, topologyRows_eq hwell,
    factoryRows_eq hwell] at h
  obtain rfl := Except.ok.inj h
  rcases List.mem_cons.mp hcard with rfl | hcard
  · rintro ⟨text, hmem⟩
    simp [namedRow] at hmem
  · obtain rfl := List.mem_singleton.mp hcard
    exact absurd hscan (by simp [Card.ofScan])

/-- Behind a claim about the scan there is `diagnostic_ready`, or a complete scan. -/
theorem claims_of_section {shown : LinkWorkspaceSection} {cards : List (Card link.Reading)}
    (h : renderSection build fuel now stack context shown = .ok cards) {card : Card link.Reading}
    (hcard : card ∈ cards) (hscan : card.ofScan) (hclaims : card.Claims) :
    context.diagnosticReady = true ∨ ScanComplete context := by
  cases shown with
  | vehicle =>
    obtain ⟨modules, hmodules⟩ := @appendModulesOf_defined link _ x400Profile_wellFormed
    rw [renderSection, appendModules, jaguarX400Profile, hmodules] at h
    obtain rfl := Except.ok.inj h
    rcases List.mem_append.mp hcard with hvehicle | hmodule
    · rcases List.mem_cons.mp hvehicle with rfl | hconnection
      · exact absurd hclaims (appendVehicleIdentity_claims stack)
      · obtain rfl := List.mem_singleton.mp hconnection
        exact absurd hscan (by simp [Card.ofScan, appendVehicleConnection])
    · exact absurd hclaims (appendModules_claims hmodules hmodule hscan)
  | faults =>
    obtain ⟨catalogue, hcatalogue, hkicker⟩ :=
      @factoryCatalogueCard_ok link _ x400Profile_wellFormed
    rw [renderSection, jaguarX400Profile, hcatalogue] at h
    obtain rfl := Except.ok.inj h
    rcases List.mem_cons.mp hcard with rfl | hcard
    · obtain ⟨summary, hmem⟩ := hclaims
      exact Or.inr (scanComplete_of_success hmem)
    · obtain rfl := List.mem_singleton.mp hcard
      exact absurd hscan (by simp [Card.ofScan, hkicker])
  | table =>
    rw [renderSection, appendParameters_eq] at h
    obtain rfl := Except.ok.inj h
    obtain rfl := List.mem_singleton.mp hcard
    exact absurd hclaims parametersCard_claims
  | dashboard =>
    obtain ⟨fuelCard, hfuel, hkicker, -⟩ := @appendFuelEconomy_ok link fuel now context
    rw [renderSection, appendDashboard_eq, hfuel] at h
    obtain rfl := Except.ok.inj h
    rcases List.mem_cons.mp hcard with rfl | hcard
    · exact Or.inl (dashboardCard_claims.mp hclaims)
    · obtain rfl := List.mem_singleton.mp hcard
      exact absurd hscan (by simp [Card.ofScan, hkicker])
  | graphs | tests | services | log =>
    obtain rfl := Except.ok.inj h
    obtain rfl := List.mem_singleton.mp hcard
    exact Or.inl (appendGenericStatus_claims.mp hclaims)
  | settings =>
    obtain rfl := Except.ok.inj h
    obtain rfl := List.mem_singleton.mp hcard
    exact absurd hclaims (settingsCard_claims build)
  | obd | modules | liveData | sectionCount | other =>
    obtain rfl := Except.ok.inj h
    cases hcard

/-- The generic cards claim what `diagnostic_ready` says, so all claims are true if that is. -/
theorem chipsHonest_iff_ready :
    ChipsHonest build fuel stack context ↔ (context.diagnosticReady = true → ScanComplete context) := by
  constructor
  · intro h hready
    -- the section of the tests has a generic card in every build
    refine h 0 .tests _ rfl _ List.mem_cons_self (fun hkicker => ?_)
      (appendGenericStatus_claims.mpr hready)
    obtain ⟨kicker, hmem, hsame⟩ := List.mem_map.mp hkicker
    rw [show kicker = "TESTS" from utf8_inj hsame] at hmem
    exact absurd hmem (by decide)
  · intro h now shown cards hcards card hcard hscan hclaims
    rcases claims_of_section build fuel now stack hcards hcard hscan hclaims with hready | hcomplete
    · exact h hready
    · exact hcomplete

/-- **One callback.**  From a state whose claims are true, a callback leads to such a state exactly
    if it keeps the claims. -/
theorem chipsHonest_step (h : ChipsHonest build fuel stack context) (callback : ShellCallback link) :
    ChipsHonest build fuel stack (ShellCallback.step context callback) ↔
      KeepsClaims context callback := by
  rw [chipsHonest_iff_ready] at h ⊢
  cases callback with
  | connectionChanged transport connected adapterIdentity now =>
    constructor
    · intro hafter hready
      exact (hafter hready).connected
    · intro hkeeps hready
      exact ⟨hkeeps hready, (h hready).valid, (h hready).stage, hready⟩
  | diagnosticChanged flow event active ready now =>
    have hsession := (sessionState link).step_get context
      (.diagnosticChanged flow event active ready now)
    obtain ⟨hvalid, hdiagnostic, -, hready⟩ :
        (diagnosticChanged flow event active ready now context).diagnosticValid = flow.isSome ∧
        (diagnosticChanged flow event active ready now context).diagnostic =
          flow.getD LinkDiagnosticFlow.zero ∧ _ ∧
        (diagnosticChanged flow event active ready now context).diagnosticReady = ready := by
      simpa [sessionState, ShellCallback.sessionReport, ShellCallback.step] using hsession
    constructor
    · intro hafter hnow
      have hcomplete := hafter (hready.trans hnow)
      obtain ⟨f, hf⟩ := Option.isSome_iff_exists.mp (hvalid.symm.trans hcomplete.valid)
      refine ⟨diagnosticChanged_connected.symm.trans hcomplete.connected, f, hf, ?_⟩
      have hstage := hcomplete.stage
      rwa [ShellCallback.step, hdiagnostic, hf] at hstage
    · intro hkeeps hafter
      obtain ⟨hconnected, f, rfl, hstage⟩ := hkeeps (hready.symm.trans hafter)
      refine ⟨diagnosticChanged_connected.trans hconnected, hvalid, ?_, hafter⟩
      rwa [ShellCallback.step, hdiagnostic]

/-! ## Runs -/

/-- **When a green chip means a complete scan**: throughout a run, in every section, if and only if
    the link is not reported lost while the last session report is a ready one, and a session is
    reported ready only on a link that is up and with a flow that has not failed. -/
theorem chipsHonest_iff (link : LinkApi) (build : BuildInfo) (fuel : FuelApi link)
    (stack : JaguarVinDecode) (callbacks : List (ShellCallback link)) :
    Always ShellCallback.step (fun _ => ChipsHonest build fuel stack)
        (JaglinkLinuxContext.initial link) callbacks ↔
      Meets ShellCallback.step KeepsClaims (JaglinkLinuxContext.initial link) callbacks := by
  induction callbacks using List.reverseRecOn with
  | nil =>
    refine ⟨fun _ => trivial, fun _ => (always_nil _).mpr ?_⟩
    exact (chipsHonest_iff_ready build fuel stack).mpr fun hready => nomatch hready
  | append_singleton callbacks callback ih =>
    rw [always_snoc, meets_snoc, ih]
    refine and_congr_right fun hmeets => ?_
    exact chipsHonest_step build fuel stack (ih.mpr hmeets callbacks List.prefix_rfl) callback

/-- After the link is lost the dashboard is green. -/
example : (dashboardCard (run ShellCallback.step
    (JaglinkLinuxContext.initial LinkApi.engineSpeedOnly) linkLostRun)).Claims :=
  dashboardCard_claims.mpr rfl

end Jaglink
