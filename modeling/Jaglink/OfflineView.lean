/-
  The offline view: what a refresh publishes while the controller is inactive.

  1. **Program** — `refresh` of an inactive view model, which comes down to publishing
     (`refresh_offline`).

  2. **Specification** — `savedView` is what it is meant to publish: a function of the selected VIN
     and its saved profile.  `refresh_savedView` says that it does, whatever happened before, if
     there is such a profile.

  3. **Where it fails** — if there is no such profile, the VIN text and the diagnostic snapshot are
     reset, but the four identity texts and the name are left as they were.  `emptySession` is a
     session that leaves them in one of two ways without saving anything (`run_emptySession`).

  4. **Result (`offlineView_determined_iff`)** — so in every reachable state the view is determined
     by what is saved exactly when the selected VIN has a profile.  The direction that fails is
     witnessed from every reachable state, by two continuations that save nothing and end up on
     different screens.
-/
import Jaglink.ViewModelRuns

namespace Jaglink

open CLib Runs

/-- The published fields that show a vehicle. -/
structure OfflineView where
  vehicleVINText : String
  identity : VehicleIdentity
  profileDisplayName : String
  snapshot : DiagnosticSnapshot
  deriving DecidableEq

/-- The view of a saved vehicle. -/
def savedView (vin : String) (profile : Profile) : OfflineView where
  vehicleVINText := vin
  identity := savedIdentity profile
  profileDisplayName := (profile.string "displayName").getD "Jaguar vehicle"
  snapshot := restoreSavedDiagnosticSnapshot profile

namespace ConnectionViewModel

variable {api : AppleApi} {vm vm₁ vm₂ : ConnectionViewModel api} {p : Profile} {v : String}

/-- What the view model shows of a vehicle that is not connected. -/
def offlineView (vm : ConnectionViewModel api) : OfflineView where
  vehicleVINText := vm.vehicleVINText
  identity := vm.identity
  profileDisplayName := vm.profileDisplayName
  snapshot := vm.snapshot

/-- The profile the offline view is restored from, if the store has one. -/
def selectedProfile (vm : ConnectionViewModel api) : Option Profile :=
  vm.profile (vm.storeSelectedVIN.getD "")

/-- The same profiles and the same selected VIN. -/
structure SameSaved (vm₁ vm₂ : ConnectionViewModel api) : Prop where
  profile : ∀ w, vm₁.profile w = vm₂.profile w
  selected : vm₁.storeSelectedVIN = vm₂.storeSelectedVIN

/-- Every view model agrees with itself on what is saved. -/
theorem SameSaved.refl (vm : ConnectionViewModel api) : SameSaved vm vm :=
  ⟨fun _ => rfl, rfl⟩

/-- The order of the two does not matter. -/
theorem SameSaved.symm (h : SameSaved vm₁ vm₂) : SameSaved vm₂ vm₁ :=
  ⟨fun w => (h.profile w).symm, h.selected.symm⟩

/-- Agreement passes on. -/
theorem SameSaved.trans {vm₃ : ConnectionViewModel api} (h : SameSaved vm₁ vm₂)
    (h' : SameSaved vm₂ vm₃) : SameSaved vm₁ vm₃ :=
  ⟨fun w => (h.profile w).trans (h'.profile w), h.selected.trans h'.selected⟩

/-- The selected profile is part of what is saved. -/
theorem SameSaved.selectedProfile (h : SameSaved vm₁ vm₂) :
    vm₁.selectedProfile = vm₂.selectedProfile := by
  rw [ConnectionViewModel.selectedProfile, ConnectionViewModel.selectedProfile, h.selected, h.profile]

/-! ## Without a live VIN a refresh saves nothing -/

/-- Without a live VIN the two blocks do nothing. -/
theorem persisted_of_noLive (h : vm.liveVIN = none) : vm.persisted = vm.published := by
  have hpublished : vm.published.liveVIN = none := h
  have hlive : vm.published.persistLiveVIN = vm.published := by
    rcases persistLiveVIN_cases vm.published with ⟨hsame, -⟩ | ⟨v, hv, -, -⟩
    · exact hsame
    · rw [hpublished] at hv
      cases hv
  rcases persistReadyVIN_cases vm.published.persistLiveVIN with ⟨hsame, -⟩ | ⟨v, hv, -⟩
  · rw [persisted, hsame, hlive]
  · rw [hlive, hpublished] at hv
    cases hv

/-- An inactive controller has no live VIN. -/
theorem liveVIN_of_inactive (h : vm.controllerActive = false) : vm.liveVIN = none := by
  rw [liveVIN, h]
  rfl

/-- Without a live VIN a refresh saves nothing. -/
theorem refresh_sameSaved (h : vm.liveVIN = none) : SameSaved vm.refresh vm where
  profile w := by
    rw [refresh_profile, persisted_of_noLive h]
    rfl
  selected := by
    rw [refresh_storeSelectedVIN, persisted_of_noLive h]
    rfl

/-! ## What an offline refresh publishes -/

/-- With the controller inactive a refresh only publishes. -/
theorem refresh_offline (h : vm.controllerActive = false) :
    vm.refresh = vm.published.publishDiagnostics.publishSession := by
  show vm.persisted.publishDiagnostics.publishSession = _
  rw [persisted_of_noLive (liveVIN_of_inactive h)]

/-- With the controller inactive a refresh publishes the selected VIN, or the placeholder. -/
theorem refresh_offline_vin (h : vm.controllerActive = false) :
    vm.refresh.vehicleVINText = vm.storeSelectedVIN.getD "No vehicle loaded" := by
  have hinactive : ¬vm.controllerActive = true := by simp [h]
  rw [refresh_offline h]
  exact if_neg hinactive

/-- With the controller inactive a refresh publishes the texts of the selected profile, or leaves
    those published. -/
theorem refresh_offline_identity (h : vm.controllerActive = false) :
    vm.refresh.identity =
      match vm.selectedProfile with
      | some profile => savedIdentity profile
      | none => vm.identity := by
  have hinactive : ¬vm.controllerActive = true := by simp [h]
  rw [refresh_offline h]
  exact if_neg hinactive

/-- With the controller inactive a refresh publishes the diagnostics of the selected profile, or
    resets them. -/
theorem refresh_offline_snapshot (h : vm.controllerActive = false) :
    vm.refresh.snapshot =
      match vm.selectedProfile with
      | some profile => restoreSavedDiagnosticSnapshot profile
      | none => resetOfflineDiagnosticSnapshot := by
  have hinactive : ¬vm.controllerActive = true := by simp [h]
  rw [refresh_offline h]
  exact if_neg hinactive

/-- No profile is saved under the empty VIN, so a saved profile of the selection is one of a
    selected VIN. -/
theorem selected_of_profile (hsaved : vm.SavedFromVin) (hp : vm.selectedProfile = some p) :
    ∃ v, vm.storeSelectedVIN = some v ∧ vm.profile v = some p ∧ api.characterCount v = 17 := by
  have hcount := (hsaved.saved _ p hp).1
  cases hsel : vm.storeSelectedVIN with
  | none =>
    rw [hsel, Option.getD_none, api.characterCount_ascii "" (by simp)] at hcount
    cases hcount
  | some v =>
    rw [hsel] at hcount
    rw [selectedProfile, hsel] at hp
    exact ⟨v, rfl, hp, hcount⟩

/-- **With a saved profile, the offline view is the view of that profile.** -/
theorem refresh_savedView (hsaved : vm.SavedFromVin) (hinactive : vm.controllerActive = false)
    (hp : vm.selectedProfile = some p) :
    vm.refresh.offlineView = savedView (vm.storeSelectedVIN.getD "") p := by
  obtain ⟨v, hsel, hprofile, hcount⟩ := selected_of_profile hsaved hp
  have hvin := refresh_offline_vin hinactive
  have hidentity := refresh_offline_identity hinactive
  have hsnapshot := refresh_offline_snapshot hinactive
  have hname : vm.refresh.profileDisplayName = (p.string "displayName").getD "Jaguar vehicle" := by
    rw [refresh_offline hinactive]
    exact refreshSavedVehicleProfiles_displayName hsel hprofile hcount
  rw [hp] at hidentity hsnapshot
  rw [hsel] at hvin
  rw [offlineView, hvin, hidentity, hsnapshot, hname, hsel]
  rfl

/-- The VIN text and the diagnostic snapshot never depend on anything but what is saved. -/
theorem refresh_offline_sameSaved (h : SameSaved vm₁ vm₂) (h₁ : vm₁.controllerActive = false)
    (h₂ : vm₂.controllerActive = false) :
    vm₁.refresh.vehicleVINText = vm₂.refresh.vehicleVINText ∧
      vm₁.refresh.snapshot = vm₂.refresh.snapshot := by
  constructor
  · rw [refresh_offline_vin h₁, refresh_offline_vin h₂, h.selected]
  · rw [refresh_offline_snapshot h₁, refresh_offline_snapshot h₂, h.selectedProfile]

/-! ## A session that saves nothing -/

/-- A begun session without a VIN, of which the controller reports `report` or nothing. -/
def sessionWithoutVin (report : Option (LinkDiagnosticFlowEvent Unit)) : List Event :=
  [.flowEvent report, .sharedChanged (.inSession false), .refresh, .sharedChanged .idle]

/-- From any state the controller is idle, and a session begins that reads no VIN. -/
def emptySession (report : Option (LinkDiagnosticFlowEvent Unit)) : List Event :=
  [.sharedChanged .idle, .refresh, .beginConnection .automatic] ++ sessionWithoutVin report

/-- After an offline refresh a session begins without a VIN, and nothing is saved by that. -/
theorem refresh_beginConnection (source : LinkConnectionSource) (h : vm.controllerActive = false) :
    SameSaved (vm.refresh.beginConnection source) vm ∧
      (vm.refresh.beginConnection source).controller = vm.controller.resetVehicleIdentity := by
  have hrefresh := refresh_sameSaved (liveVIN_of_inactive h)
  rw [beginConnection_inactive ((refresh_isActive vm).trans h)]
  exact ⟨⟨hrefresh.profile, hrefresh.selected⟩,
    congrArg JagLinkDiagnosticsController.resetVehicleIdentity (refresh_controller vm)⟩

/-- A refresh in a session without a VIN publishes the controller's texts and saves nothing. -/
theorem refresh_noVin (hactive : vm.controllerActive = true)
    (hvin : vm.controller.vehicleVINText = none) :
    SameSaved vm.refresh vm ∧ vm.refresh.identity = vm.controller.identity := by
  have hlive : vm.liveVIN = none := by
    rw [liveVIN, hvin]
    split <;> rfl
  refine ⟨refresh_sameSaved hlive, ?_⟩
  show vm.persisted.identity = vm.controller.identity
  rw [persisted_of_noLive hlive]
  exact if_pos hactive

/-- What such a session leaves: nothing saved, and the texts the controller showed. -/
theorem run_sessionWithoutVin (vm : ConnectionViewModel api)
    {report : Option (LinkDiagnosticFlowEvent Unit)}
    (hvin : (vm.controller.didReceiveFlowEvent report).vehicleVINText = none) :
    SameSaved (run step vm (sessionWithoutVin report)) vm ∧
      (run step vm (sessionWithoutVin report)).controllerActive = false ∧
      (run step vm (sessionWithoutVin report)).identity =
        (vm.controller.didReceiveFlowEvent report).identity := by
  have hactive : ((vm.step (.flowEvent report)).step
      (.sharedChanged (.inSession false))).controllerActive = true := rfl
  obtain ⟨hsame, hshown⟩ := refresh_noVin hactive hvin
  exact ⟨⟨hsame.profile, hsame.selected⟩, rfl, hshown⟩

/-- A session that reads no VIN saves nothing, yet leaves its texts on screen. -/
theorem run_emptySession (vm : ConnectionViewModel api)
    (report : Option (LinkDiagnosticFlowEvent Unit)) (identity : VehicleIdentity)
    (hreport : ∀ c : JagLinkDiagnosticsController,
      (c.resetVehicleIdentity.didReceiveFlowEvent report).vehicleVINText = none ∧
      (c.resetVehicleIdentity.didReceiveFlowEvent report).identity = identity) :
    SameSaved (run step vm (emptySession report)) vm ∧
      (run step vm (emptySession report)).controllerActive = false ∧
      (run step vm (emptySession report)).identity = identity := by
  have hoffline : (vm.step (.sharedChanged .idle)).controllerActive = false := rfl
  obtain ⟨hbegin, hcontroller⟩ := refresh_beginConnection .automatic hoffline
  obtain ⟨hnovin, hidentity⟩ := hreport (vm.step (.sharedChanged .idle)).controller
  rw [← hcontroller] at hnovin hidentity
  obtain ⟨hsame, hinactive, hshown⟩ := run_sessionWithoutVin _ hnovin
  have hstart : SameSaved (vm.step (.sharedChanged .idle)) vm := ⟨fun _ => rfl, rfl⟩
  exact ⟨(hsame.trans hbegin).trans hstart, hinactive, hshown.trans hidentity⟩

/-- **Without a saved profile, the view tells earlier sessions apart**: from any state two sessions
    that save nothing lead to different offline views. -/
theorem offlineView_residue (vm : ConnectionViewModel api) (hnone : vm.selectedProfile = none) :
    ∃ events₁ events₂ : List Event,
      SameSaved (run step vm events₁) vm ∧ SameSaved (run step vm events₂) vm ∧
      (run step vm events₁).controllerActive = false ∧
      (run step vm events₂).controllerActive = false ∧
      (run step vm events₁).refresh.offlineView ≠ (run step vm events₂).refresh.offlineView := by
  -- the controller reports nothing, or that no VIN was returned
  obtain ⟨hsame₁, hinactive₁, hidentity₁⟩ :=
    run_emptySession vm none pendingIdentity fun _ => ⟨rfl, rfl⟩
  obtain ⟨hsame₂, hinactive₂, hidentity₂⟩ :=
    run_emptySession vm (some (.standardVin false none)) noVinIdentity fun _ => ⟨rfl, rfl⟩
  refine ⟨_, _, hsame₁, hsame₂, hinactive₁, hinactive₂, fun heq => ?_⟩
  have hshown := congrArg (fun view => view.identity.platform) heq
  simp only [offlineView, refresh_offline_identity hinactive₁, refresh_offline_identity hinactive₂,
    hsame₁.selectedProfile, hsame₂.selectedProfile, hnone, hidentity₁, hidentity₂] at hshown
  revert hshown
  decide

/-! ## Exactly when the view is determined -/

/-- Some run from an empty store ends in this state. -/
def InSomeRun (vm : ConnectionViewModel api) : Prop :=
  ∃ shared, Reachable step (initial api shared) vm

/-- Every offline refresh over the same saved vehicles publishes the same view. -/
def OfflineViewDetermined (vm : ConnectionViewModel api) : Prop :=
  ∀ vm₁ vm₂ : ConnectionViewModel api, InSomeRun vm₁ → InSomeRun vm₂ →
    SameSaved vm₁ vm → SameSaved vm₂ vm →
    vm₁.controllerActive = false → vm₂.controllerActive = false →
    vm₁.refresh.offlineView = vm₂.refresh.offlineView

/-- **The offline view depends on nothing but what is saved, exactly if the selected VIN has a saved
    profile.** -/
theorem offlineView_determined_iff (api : AppleApi) (shared : LinkDiagnosticsController)
    (events : List Event) :
    OfflineViewDetermined (run step (initial api shared) events) ↔
      ∃ p, (run step (initial api shared) events).selectedProfile = some p := by
  have hrun : Reachable step (initial api shared) (run step (initial api shared) events) :=
    ⟨events, rfl⟩
  generalize run step (initial api shared) events = vm at hrun
  constructor
  · intro hdetermined
    by_contra hno
    have hnone : vm.selectedProfile = none :=
      Option.eq_none_iff_forall_ne_some.mpr fun p hp => hno ⟨p, hp⟩
    obtain ⟨events₁, events₂, hsame₁, hsame₂, hinactive₁, hinactive₂, hdiffer⟩ :=
      offlineView_residue vm hnone
    exact hdiffer (hdetermined _ _ ⟨shared, hrun.run step events₁⟩ ⟨shared, hrun.run step events₂⟩
      hsame₁ hsame₂ hinactive₁ hinactive₂)
  · rintro ⟨p, hp⟩ vm₁ vm₂ ⟨shared₁, hrun₁⟩ ⟨shared₂, hrun₂⟩ hsame₁ hsame₂ hinactive₁ hinactive₂
    rw [refresh_savedView (reachable_savedFromVin hrun₁) hinactive₁ (hsame₁.selectedProfile.trans hp),
      refresh_savedView (reachable_savedFromVin hrun₂) hinactive₂ (hsame₂.selectedProfile.trans hp),
      hsame₁.selected, hsame₂.selected]

/-- On a fresh install, two sessions without a VIN leave nothing saved and two different views. -/
theorem offlineView_residue_fresh :
    (run step (initial AppleApi.memory .idle)
        (emptySession none)).refresh.offlineView.identity.platform =
      "Jaguar X400 identity pending" ∧
    (run step (initial AppleApi.memory .idle)
        (emptySession (some (.standardVin false none)))).refresh.offlineView.identity.platform =
      "Jaguar identity · standard VIN unavailable" ∧
    (run step (initial AppleApi.memory .idle) (emptySession none)).controllerActive = false ∧
    (run step (initial AppleApi.memory .idle)
        (emptySession (some (.standardVin false none)))).controllerActive = false ∧
    SameSaved (run step (initial AppleApi.memory .idle) (emptySession none))
      (run step (initial AppleApi.memory .idle) (emptySession (some (.standardVin false none)))) := by
  obtain ⟨hsame₁, hinactive₁, -⟩ :=
    run_emptySession (initial AppleApi.memory .idle) none pendingIdentity fun _ => ⟨rfl, rfl⟩
  obtain ⟨hsame₂, hinactive₂, -⟩ := run_emptySession (initial AppleApi.memory .idle)
    (some (.standardVin false none)) noVinIdentity fun _ => ⟨rfl, rfl⟩
  exact ⟨by decide +kernel, by decide +kernel, hinactive₁, hinactive₂, hsame₁.trans hsame₂.symm⟩

end ConnectionViewModel

end Jaglink
