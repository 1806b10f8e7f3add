/-
  Runs of the view model, and what they leave in the vehicle store.

  1. **What a refresh can do** — it writes to the store in two blocks only; `persistLiveVIN_cases`
     and `persistReadyVIN_cases` say once what these can do, and each fact about `refresh` is proved
     for those two blocks and carried through the others.

  2. **What an event can do** — `step_eq`: an event is a change that writes no profile (`quiet`,
     `quiet_profile`), then a refresh if it is one that refreshes.  So each fact about a step is one
     about `quiet` and one about `refresh`.

  3. **What a save holds** — the identity keys, and with diagnostics the snapshot keys and the
     responders (`profileToSave_holdsIdentity`); all other keys are left as they were.

  4. **The invariant (`SavedFromVin`)** — the controller's texts belong to the VIN it holds, and
     every saved profile has a 17-character VIN and carries the texts of that very VIN.  It holds in
     every run (`reachable_savedFromVin`): what is saved under the live VIN is what `published` has
     just taken from the controller.
-/
import Jaglink.ViewModel
import Jaglink.Lib.Runs

namespace Jaglink

open CLib Runs

namespace ConnectionViewModel

variable {api : AppleApi} {vm : ConnectionViewModel api} {v w : String}

/-! ## The blocks -/

/-- A live VIN is what an active controller holds, if it has seventeen characters. -/
theorem liveVIN_eq_some : vm.liveVIN = some v ↔ vm.controllerActive = true ∧
    vm.controller.vehicleVINText = some v ∧ api.characterCount v = 17 := by
  rw [liveVIN]
  cases vm.controllerActive with
  | true => simp [Option.filter_eq_some_iff]
  | false => simp

/-- A listing entry of a saved 17-character VIN carries the saved name. -/
theorem find?_savedProfiles {p : Profile} (hp : vm.profile v = some p)
    (hcount : api.characterCount v = 17) :
    ∃ row, ((api.store.savedProfiles vm.vehicleProfileStore).filterMap vm.summary).find?
        (fun row => row.vin = v) = some row ∧
      row.displayName = (p.string "displayName").getD "Jaguar vehicle" := by
  obtain ⟨d, hd, hvin, hname⟩ := api.store.listed_of_saved _ v p hp
  have hrow : (vm.summary d).isSome := by simp [summary, hvin, hcount]
  obtain ⟨entry, hentry⟩ := Option.isSome_iff_exists.mp hrow
  have hentryvin : entry.vin = v := by
    simp only [summary, hvin, hcount, if_true, Option.some.injEq] at hentry
    rw [← hentry]
  have hfound : (((api.store.savedProfiles vm.vehicleProfileStore).filterMap vm.summary).find?
      (fun row => row.vin = v)).isSome := by
    rw [List.find?_isSome]
    exact ⟨entry, List.mem_filterMap.mpr ⟨d, hd, hentry⟩, by simp [hentryvin]⟩
  obtain ⟨row, hfind⟩ := Option.isSome_iff_exists.mp hfound
  refine ⟨row, hfind, ?_⟩
  -- whichever entry of the VIN comes first, the store gives it the name of the saved profile
  have hrowvin : row.vin = v := by simpa using List.find?_some hfind
  obtain ⟨d', hd', hrow'⟩ := List.mem_filterMap.mp (List.mem_of_find?_eq_some hfind)
  unfold summary at hrow'
  split at hrow'
  · rename_i vin hvin'
    split at hrow'
    · obtain rfl := Option.some.inj hrow'
      obtain rfl : vin = v := hrowvin
      obtain ⟨q, hq, hname'⟩ := api.store.saved_of_listed _ d' vin hd' hvin'
      rw [show api.store.profile vm.vehicleProfileStore vin = some p from hp, Option.some.injEq] at hq
      subst hq
      exact congrArg (fun n => Option.getD n "Jaguar vehicle") hname'
    · cases hrow'
  · cases hrow'

/-- Listing the profiles publishes the name of the selected vehicle. -/
theorem refreshSavedVehicleProfiles_displayName {p : Profile} (hsel : vm.storeSelectedVIN = some v)
    (hp : vm.profile v = some p) (hcount : api.characterCount v = 17) :
    vm.refreshSavedVehicleProfiles.profileDisplayName =
      (p.string "displayName").getD "Jaguar vehicle" := by
  obtain ⟨row, hrow, hname⟩ := find?_savedProfiles hp hcount
  have hstore : api.store.selectedVehicleVIN vm.vehicleProfileStore = some v := hsel
  simp only [refreshSavedVehicleProfiles, storeSelectedVIN, hstore, find?_listed, hrow]
  exact hname

/-- Listing changes no profile. -/
theorem refreshSavedVehicleProfiles_profile (vm : ConnectionViewModel api) (w : String) :
    vm.refreshSavedVehicleProfiles.profile w = vm.profile w := rfl

/-! Without a live VIN the two persisting blocks do nothing; with one they compare it with their
marker, and Swift's `==` is equality there. -/

/-- Without a live VIN nothing is recorded. -/
theorem persistLiveVIN_none (hlive : vm.liveVIN = none) : vm.persistLiveVIN = vm := by
  rw [persistLiveVIN, hlive]

/-- Without a live VIN no snapshot is saved. -/
theorem persistReadyVIN_none (hlive : vm.liveVIN = none) : vm.persistReadyVIN = vm := by
  rw [persistReadyVIN, hlive]

/-- The live VIN is persisted once: Swift's `!=` on it is a difference of texts. -/
theorem persistLiveVIN_some (hlive : vm.liveVIN = some v) :
    vm.persistLiveVIN =
      if vm.lastPersistedLiveVIN ≠ some v then (vm.recordLive v).refreshSavedVehicleProfiles
      else vm := by
  have hsame := api.sameVIN_eq (liveVIN_eq_some.mp hlive).2.2 vm.lastPersistedLiveVIN
  rw [persistLiveVIN, hlive]
  by_cases hmarked : vm.lastPersistedLiveVIN = some v
  · simp [hmarked, hmarked ▸ hsame]
  · have hother := Bool.eq_false_iff.mpr (mt hsame.mp hmarked)
    simp [hmarked, hother]

/-- A ready session is persisted once. -/
theorem persistReadyVIN_some (hlive : vm.liveVIN = some v) :
    vm.persistReadyVIN =
      if vm.controller.shared.isReady = true ∧ vm.lastPersistedReadyVIN ≠ some v then
        (vm.recordReady v).refreshSavedVehicleProfiles
      else vm := by
  have hsame := api.sameVIN_eq (liveVIN_eq_some.mp hlive).2.2 vm.lastPersistedReadyVIN
  rw [persistReadyVIN, hlive]
  by_cases hmarked : vm.lastPersistedReadyVIN = some v
  · simp [hmarked, hmarked ▸ hsame]
  · have hother := Bool.eq_false_iff.mpr (mt hsame.mp hmarked)
    simp [hmarked, hother]

/-- What the first persisting block can do; every proof about it starts from here. -/
theorem persistLiveVIN_cases (vm : ConnectionViewModel api) :
    (vm.persistLiveVIN = vm ∧ ∀ v, vm.liveVIN = some v → vm.lastPersistedLiveVIN = some v) ∨
    ∃ v, vm.liveVIN = some v ∧ vm.lastPersistedLiveVIN ≠ some v ∧
      vm.persistLiveVIN = (vm.recordLive v).refreshSavedVehicleProfiles := by
  cases hlive : vm.liveVIN with
  | none =>
    refine Or.inl ⟨persistLiveVIN_none hlive, fun v hv => ?_⟩
    cases hv
  | some v =>
    rw [persistLiveVIN_some hlive]
    by_cases hnew : vm.lastPersistedLiveVIN ≠ some v
    · exact Or.inr ⟨v, rfl, hnew, if_pos hnew⟩
    · refine Or.inl ⟨if_neg hnew, fun w hw => ?_⟩
      obtain rfl := Option.some.inj hw
      exact not_not.mp hnew

/-- What the second block can do. -/
theorem persistReadyVIN_cases (vm : ConnectionViewModel api) :
    (vm.persistReadyVIN = vm ∧ ∀ v, vm.liveVIN = some v → vm.controller.shared.isReady = true →
      vm.lastPersistedReadyVIN = some v) ∨
    ∃ v, vm.liveVIN = some v ∧ vm.controller.shared.isReady = true ∧
      vm.lastPersistedReadyVIN ≠ some v ∧
      vm.persistReadyVIN = (vm.recordReady v).refreshSavedVehicleProfiles := by
  cases hlive : vm.liveVIN with
  | none =>
    refine Or.inl ⟨persistReadyVIN_none hlive, fun v hv => ?_⟩
    cases hv
  | some v =>
    rw [persistReadyVIN_some hlive]
    by_cases hready : vm.controller.shared.isReady = true ∧ vm.lastPersistedReadyVIN ≠ some v
    · exact Or.inr ⟨v, rfl, hready.1, hready.2, if_pos hready⟩
    · refine Or.inl ⟨if_neg hready, fun w hw hisReady => ?_⟩
      obtain rfl := Option.some.inj hw
      exact not_not.mp fun hnew => hready ⟨hisReady, hnew⟩

/-- The view model before the two persisting blocks. -/
def published (vm : ConnectionViewModel api) : ConnectionViewModel api :=
  vm.refreshSavedVehicleProfiles.publishIdentity

/-- The view model after them. -/
def persisted (vm : ConnectionViewModel api) : ConnectionViewModel api :=
  vm.published.persistLiveVIN.persistReadyVIN

/-- The persisting blocks write the store and the published fields, never the controller. -/
theorem persistLiveVIN_controller (vm : ConnectionViewModel api) :
    vm.persistLiveVIN.controller = vm.controller := by
  rcases persistLiveVIN_cases vm with ⟨hsame, -⟩ | ⟨v, -, -, hrecord⟩
  · rw [hsame]
  · rw [hrecord]
    rfl

theorem persistReadyVIN_controller (vm : ConnectionViewModel api) :
    vm.persistReadyVIN.controller = vm.controller := by
  rcases persistReadyVIN_cases vm with ⟨hsame, -⟩ | ⟨v, -, -, -, hrecord⟩
  · rw [hsame]
  · rw [hrecord]
    rfl

theorem persistLiveVIN_controllerActive (vm : ConnectionViewModel api) :
    vm.persistLiveVIN.controllerActive = vm.controllerActive := by
  rw [controllerActive, persistLiveVIN_controller, controllerActive]

/-- After the block that persists a live VIN, that VIN is the marker. -/
theorem persistLiveVIN_marks (h : vm.liveVIN = some v) :
    vm.persistLiveVIN.lastPersistedLiveVIN = some v := by
  rcases persistLiveVIN_cases vm with ⟨hsame, hmarked⟩ | ⟨u, hlive, -, hrecord⟩
  · rw [hsame]
    exact hmarked v h
  · rw [hrecord]
    exact hlive.symm.trans h

/-- Saving a ready session leaves the marker of the live VIN alone. -/
theorem persistReadyVIN_lastPersistedLiveVIN (vm : ConnectionViewModel api) :
    vm.persistReadyVIN.lastPersistedLiveVIN = vm.lastPersistedLiveVIN := by
  rcases persistReadyVIN_cases vm with ⟨hsame, -⟩ | ⟨u, -, -, -, hrecord⟩
  · rw [hsame]
  · rw [hrecord]
    rfl

/-- The live VIN is the controller's. -/
theorem liveVIN_congr {vm' : ConnectionViewModel api} (h : vm'.controller = vm.controller) :
    vm'.liveVIN = vm.liveVIN := by
  rw [liveVIN, liveVIN, controllerActive, controllerActive, h]

theorem persisted_controller (vm : ConnectionViewModel api) :
    vm.persisted.controller = vm.controller := by
  rw [persisted, persistReadyVIN_controller, persistLiveVIN_controller]
  rfl

/-! ## `refresh` as a whole

The last two blocks touch neither the store nor the markers. -/

/-- A refresh does not write the controller; the four that follow are what comes of that. -/
theorem refresh_controller (vm : ConnectionViewModel api) : vm.refresh.controller = vm.controller :=
  persisted_controller vm

theorem refresh_controllerActive (vm : ConnectionViewModel api) :
    vm.refresh.controllerActive = vm.controllerActive := by
  rw [controllerActive, refresh_controller, controllerActive]

theorem refresh_isActive (vm : ConnectionViewModel api) :
    vm.refresh.isActive = vm.controllerActive := by
  show vm.persisted.controller.shared.isActive = _
  rw [persisted_controller]
  rfl

theorem refresh_liveVIN (vm : ConnectionViewModel api) : vm.refresh.liveVIN = vm.liveVIN :=
  liveVIN_congr (refresh_controller vm)

/-- After the persisting blocks a refresh writes no profile. -/
theorem refresh_profile (vm : ConnectionViewModel api) (w : String) :
    vm.refresh.profile w = vm.persisted.profile w := rfl

/-- Publishing moves no selection: the store's is the one the two blocks leave. -/
theorem refresh_storeSelectedVIN (vm : ConnectionViewModel api) :
    vm.refresh.storeSelectedVIN = vm.persisted.storeSelectedVIN := rfl

/-- Publishing moves no marker: that of the live VIN is the one the two blocks leave. -/
theorem refresh_lastPersistedLiveVIN (vm : ConnectionViewModel api) :
    vm.refresh.lastPersistedLiveVIN = vm.persisted.lastPersistedLiveVIN := rfl

/-! ## Events

Every event changes the view model without writing a profile (`quiet`), and two kinds of it then
refresh. -/

/-- A session begins with the identity reset and both markers cleared. -/
theorem beginConnection_inactive {source : LinkConnectionSource} (h : vm.isActive = false) :
    vm.beginConnection source = { vm with
      lastPersistedLiveVIN := none
      lastPersistedReadyVIN := none
      isSimulationActive := decide (source = .simulated)
      controller := vm.controller.resetVehicleIdentity } := by
  have hactive : ¬vm.isActive = true := by simp [h]
  unfold beginConnection
  rw [if_neg hactive]

/-- The view model after the store was asked to select a vehicle. -/
def selectInStore (vm : ConnectionViewModel api) (vin : String) : ConnectionViewModel api :=
  { vm with vehicleProfileStore := (api.store.selectOfflineVehicle vm.vehicleProfileStore vin).2 }

/-- The view model an accepted selection refreshes. -/
def selectAccepted (vm : ConnectionViewModel api) (vin : String) : ConnectionViewModel api :=
  { vm.selectInStore vin with selectedVehicleVIN := some vin }

/-- Does the event refresh the view model? -/
def refreshes (vm : ConnectionViewModel api) : Event → Bool
  | .refresh => true
  | .selectSavedVehicle vin =>
    !vm.isActive && (api.store.selectOfflineVehicle vm.vehicleProfileStore vin).1
  | _ => false

/-- What the event does short of refreshing. -/
def quiet (vm : ConnectionViewModel api) : Event → ConnectionViewModel api
  | .refresh => vm
  | .selectSavedVehicle vin =>
    if vm.isActive then vm
    else if (api.store.selectOfflineVehicle vm.vehicleProfileStore vin).1 then vm.selectAccepted vin
    else vm.selectInStore vin
  | event => vm.step event

/-- Selecting a vehicle, short of the refresh that may follow. -/
theorem quiet_selectSavedVehicle (vm : ConnectionViewModel api) (vin : String) :
    vm.quiet (.selectSavedVehicle vin) =
      if vm.isActive then vm
      else if (api.store.selectOfflineVehicle vm.vehicleProfileStore vin).1 then
        vm.selectAccepted vin
      else vm.selectInStore vin := rfl

/-- **What a step can do.** -/
theorem step_eq (vm : ConnectionViewModel api) (event : Event) :
    vm.step event = if vm.refreshes event then (vm.quiet event).refresh else vm.quiet event := by
  cases event with
  | selectSavedVehicle vin =>
    have hstep : vm.step (.selectSavedVehicle vin) =
        if vm.isActive then vm
        else if (api.store.selectOfflineVehicle vm.vehicleProfileStore vin).1 then
          (vm.selectAccepted vin).refresh
        else vm.selectInStore vin := rfl
    rw [hstep, quiet_selectSavedVehicle]
    by_cases hactive : vm.isActive = true
    · have hquiet : ¬vm.refreshes (.selectSavedVehicle vin) = true := by simp [refreshes, hactive]
      simp only [if_pos hactive, if_neg hquiet]
    · by_cases haccept : (api.store.selectOfflineVehicle vm.vehicleProfileStore vin).1 = true
      · have hrefresh : vm.refreshes (.selectSavedVehicle vin) = true := by
          simp [refreshes, hactive, haccept]
        simp only [if_neg hactive, if_pos haccept, if_pos hrefresh]
      · have hquiet : ¬vm.refreshes (.selectSavedVehicle vin) = true := by
          simp [refreshes, haccept]
        simp only [if_neg hactive, if_neg haccept, if_neg hquiet]
  | beginConnection _ | flowEvent _ | sharedChanged _ | refresh | disconnect => rfl

/-- The selection is the only thing a refreshing event changes before it refreshes. -/
theorem quiet_controller {event : Event} (h : vm.refreshes event = true) :
    (vm.quiet event).controller = vm.controller := by
  cases event with
  | refresh => rfl
  | selectSavedVehicle vin =>
    rw [quiet_selectSavedVehicle]
    split
    · rfl
    · split <;> rfl
  | beginConnection _ | flowEvent _ | sharedChanged _ | disconnect => cases h

/-- No event writes a profile before it refreshes. -/
theorem quiet_profile (vm : ConnectionViewModel api) (event : Event) (w : String) :
    (vm.quiet event).profile w = vm.profile w := by
  cases event with
  | beginConnection source =>
    show (vm.beginConnection source).profile w = vm.profile w
    unfold beginConnection
    split <;> rfl
  | selectSavedVehicle vin =>
    have hselect : api.store.profile
        (api.store.selectOfflineVehicle vm.vehicleProfileStore vin).2 w = vm.profile w :=
      api.store.select_profile ..
    rw [quiet_selectSavedVehicle]
    split
    · rfl
    · split <;> exact hselect
  | flowEvent _ | sharedChanged _ | refresh | disconnect => rfl

/-- Short of refreshing, an event clears the marker of the live VIN or leaves it alone. -/
theorem quiet_lastPersistedLiveVIN (vm : ConnectionViewModel api) (event : Event) :
    (vm.quiet event).lastPersistedLiveVIN = none ∨
      (vm.quiet event).lastPersistedLiveVIN = vm.lastPersistedLiveVIN := by
  cases event with
  | beginConnection source =>
    show (vm.beginConnection source).lastPersistedLiveVIN = none ∨
      (vm.beginConnection source).lastPersistedLiveVIN = _
    unfold beginConnection
    split
    · exact Or.inr rfl
    · exact Or.inl rfl
  | selectSavedVehicle vin =>
    rw [quiet_selectSavedVehicle]
    refine Or.inr ?_
    split
    · rfl
    · split <;> rfl
  | flowEvent _ | sharedChanged _ | refresh | disconnect => exact Or.inr rfl

/-! ## What is written -/

/-- The profile carries these identity texts. -/
structure HoldsIdentity (p : Profile) (identity : VehicleIdentity) : Prop where
  platform : p.string "platform" = some identity.platform
  configuration : p.string "configuration" = some identity.configuration
  powertrain : p.string "powertrain" = some identity.powertrain
  build : p.string "build" = some identity.build

/-- The keys of every save. -/
def identityKeys : List String :=
  ["displayName", "manufacturer", "platform", "configuration", "powertrain", "build"]

/-- The keys of a save with diagnostics. -/
def snapshotKeys : List String :=
  ["obdProtocolText", "standardResponderSummary", "supportedPIDSummary", "standardVINText",
    "standardLiveValueRows", "diagnosticCapabilityText", "diagnosticCapabilityDetailText",
    "faultScanStatusText", "storedDTCs", "pendingDTCs", "permanentDTCs", "storedDTCDisplayRows",
    "pendingDTCDisplayRows", "permanentDTCDisplayRows", "readinessStatusText",
    "readinessMonitorStatus", "freezeFrameContext"]

/-- The responders have a single key of their own. -/
theorem responderEntries_keys (responders : List ResponderProfile) {key : String}
    (h : key ≠ "standardResponderProfiles") : key ∉ (responderEntries responders).map Prod.fst := by
  rw [responderEntries]
  split
  · simp
  · simpa using h

/-- The identity entries survive the rest of the assignments. -/
theorem profileToSave_identity {name : String} {snapshot : Bool} {key : String} {value : ProfileValue}
    (h : (key, value) ∈ identityEntries name vm.identity) :
    vm.profileToSave v name snapshot key = some value := by
  have hkey : key ∈ identityKeys := List.mem_map_of_mem (f := Prod.fst) h
  have hsnapshot : key ∉ snapshotKeys :=
    (show ∀ k ∈ identityKeys, k ∉ snapshotKeys by decide) key hkey
  have hresponders : key ≠ "standardResponderProfiles" :=
    (show ∀ k ∈ identityKeys, k ≠ "standardResponderProfiles" by decide) key hkey
  have hkeys : ((identityEntries name vm.identity).map Prod.fst).Nodup :=
    show identityKeys.Nodup by decide
  have hassigned : ∀ p : Profile, p.setAll (identityEntries name vm.identity) key = some value :=
    fun p => Profile.setAll_mem hkeys h p
  rw [profileToSave]
  cases snapshot with
  | false => exact hassigned _
  | true =>
    show ((Profile.setAll _ (snapshotEntries _)).setAll (responderEntries _)) key = some value
    rw [Profile.setAll_other (responderEntries_keys _ hresponders), Profile.setAll_other hsnapshot]
    exact hassigned _

/-- A save holds the name it is given: no later assignment touches that key. -/
theorem profileToSave_displayName {name : String} {snapshot : Bool} :
    (vm.profileToSave v name snapshot).string "displayName" = some name :=
  Profile.string_eq_some (profileToSave_identity (by simp [identityEntries]))

/-- A saved profile holds the published texts. -/
theorem profileToSave_holdsIdentity {name : String} {snapshot : Bool} :
    HoldsIdentity (vm.profileToSave v name snapshot) vm.identity where
  platform := Profile.string_eq_some (profileToSave_identity (by simp [identityEntries]))
  configuration := Profile.string_eq_some (profileToSave_identity (by simp [identityEntries]))
  powertrain := Profile.string_eq_some (profileToSave_identity (by simp [identityEntries]))
  build := Profile.string_eq_some (profileToSave_identity (by simp [identityEntries]))

/-- Recording a live VIN saves the published texts, under the name the profile has if it has one. -/
theorem recordLive_self (vm : ConnectionViewModel api) (v : String) :
    ∃ q name, (vm.recordLive v).profile v = some q ∧ HoldsIdentity q vm.identity ∧
      q.string "displayName" = some name ∧
      ∀ p d, vm.profile v = some p → p.string "displayName" = some d → name = d := by
  refine ⟨_, _, api.store.save_self .., profileToSave_holdsIdentity, profileToSave_displayName, ?_⟩
  intro p d hp hd
  have hrecorded : api.store.profile (api.store.recordLiveVIN vm.vehicleProfileStore v) v = some p :=
    api.store.record_string hp
  simp only [profile, hrecorded, Option.bind_some, hd, Option.getD_some]

/-- Recording a live VIN writes that VIN's profile only. -/
theorem recordLive_other (vm : ConnectionViewModel api) (h : w ≠ v) :
    (vm.recordLive v).profile w = vm.profile w := by
  show api.store.profile (api.store.saveProfile _ _ v) w = api.store.profile vm.vehicleProfileStore w
  rw [api.store.save_other _ _ v w h, api.store.record_other _ v w h]

/-- A recorded VIN is the selected one. -/
theorem recordLive_storeSelectedVIN (vm : ConnectionViewModel api) (v : String) :
    (vm.recordLive v).storeSelectedVIN = some v := by
  show api.store.selectedVehicleVIN (api.store.saveProfile _ _ v) = some v
  rw [api.store.save_selected, api.store.record_selected]

/-- A ready session is saved with the published texts under the published name. -/
theorem recordReady_self (vm : ConnectionViewModel api) (v : String) :
    ∃ q, (vm.recordReady v).profile v = some q ∧ HoldsIdentity q vm.identity ∧
      q.string "displayName" = some vm.profileDisplayName :=
  ⟨_, api.store.save_self .., profileToSave_holdsIdentity, profileToSave_displayName⟩

/-- Nothing is saved under another VIN. -/
theorem recordReady_other (vm : ConnectionViewModel api) (h : w ≠ v) :
    (vm.recordReady v).profile w = vm.profile w :=
  api.store.save_other _ _ v w h

/-- Saving a ready session selects nothing. -/
theorem recordReady_storeSelectedVIN (vm : ConnectionViewModel api) (v : String) :
    (vm.recordReady v).storeSelectedVIN = vm.storeSelectedVIN :=
  api.store.save_selected ..

/-! ## Only the live VIN's profile is written -/

/-- The first block writes under the live VIN only. -/
theorem persistLiveVIN_other (h : vm.liveVIN ≠ some w) :
    vm.persistLiveVIN.profile w = vm.profile w := by
  rcases persistLiveVIN_cases vm with ⟨hsame, -⟩ | ⟨v, hlive, -, hrecord⟩
  · rw [hsame]
  · rw [hrecord, refreshSavedVehicleProfiles_profile]
    exact recordLive_other vm fun hw => h (hw ▸ hlive)

/-- The second block writes under the live VIN only. -/
theorem persistReadyVIN_other (h : vm.liveVIN ≠ some w) :
    vm.persistReadyVIN.profile w = vm.profile w := by
  rcases persistReadyVIN_cases vm with ⟨hsame, -⟩ | ⟨v, hlive, -, -, hrecord⟩
  · rw [hsame]
  · rw [hrecord, refreshSavedVehicleProfiles_profile]
    exact recordReady_other vm fun hw => h (hw ▸ hlive)

/-- **A refresh writes no profile but the live one.** -/
theorem refresh_other (h : vm.liveVIN ≠ some w) : vm.refresh.profile w = vm.profile w := by
  have hpublished : vm.published.liveVIN = vm.liveVIN := rfl
  have hlive : vm.published.persistLiveVIN.liveVIN = vm.liveVIN :=
    liveVIN_congr (persistLiveVIN_controller vm.published)
  rw [refresh_profile, persisted, persistReadyVIN_other (hlive ▸ h),
    persistLiveVIN_other (hpublished ▸ h)]
  rfl

/-! ## Saved profiles belong to their VIN -/

/-- A 17-character VIN and the texts computed from it. -/
def SavedUnder (api : AppleApi) (v : String) (p : Profile) : Prop :=
  api.characterCount v = 17 ∧
    ∃ vin : CString, v = jagLinkStringFromCString (some vin) ∧ HoldsIdentity p (vinIdentity vin)

/-- Controller and saved profiles hold texts of their own VINs. -/
structure SavedFromVin (vm : ConnectionViewModel api) : Prop where
  controller : vm.controller.IdentityOfVin
  saved : ∀ v p, vm.profile v = some p → SavedUnder api v p

/-- While there is a live VIN the published texts are the controller's. -/
def PublishesLive (vm : ConnectionViewModel api) : Prop :=
  vm.liveVIN ≠ none → vm.identity = vm.controller.identity

/-- Publishing makes the live texts the published ones. -/
theorem published_publishesLive (vm : ConnectionViewModel api) : vm.published.PublishesLive := by
  intro hlive
  obtain ⟨v, hv⟩ := Option.ne_none_iff_exists'.mp hlive
  exact if_pos (liveVIN_eq_some.mp hv).1

/-- What is written under the live VIN while the controller's texts are published. -/
theorem savedUnder_live (hcontroller : vm.controller.IdentityOfVin) (hpublish : vm.PublishesLive)
    (hlive : vm.liveVIN = some v) {q : Profile} (hq : HoldsIdentity q vm.identity) :
    SavedUnder api v q := by
  obtain ⟨-, hvin, hcount⟩ := liveVIN_eq_some.mp hlive
  obtain ⟨vin, htext, hidentity⟩ := hcontroller v hvin
  refine ⟨hcount, vin, htext, ?_⟩
  rwa [hpublish (by simp [hlive]), hidentity] at hq

/-- What the first block saves are the live VIN's own texts. -/
theorem persistLiveVIN_savedFromVin (h : vm.SavedFromVin) (hpublish : vm.PublishesLive) :
    vm.persistLiveVIN.SavedFromVin ∧ vm.persistLiveVIN.PublishesLive := by
  rcases persistLiveVIN_cases vm with ⟨hsame, -⟩ | ⟨v, hlive, -, hrecord⟩
  · rw [hsame]
    exact ⟨h, hpublish⟩
  · rw [hrecord]
    refine ⟨⟨h.controller, fun w p hp => ?_⟩, hpublish⟩
    by_cases hw : w = v
    · subst hw
      obtain ⟨q, -, hq, hidentity, -⟩ := recordLive_self vm w
      obtain rfl : q = p := Option.some.inj (hq.symm.trans hp)
      exact savedUnder_live h.controller hpublish hlive hidentity
    · exact h.saved w p ((recordLive_other vm hw).symm.trans hp)

/-- The second block saves the same published texts. -/
theorem persistReadyVIN_savedFromVin (h : vm.SavedFromVin) (hpublish : vm.PublishesLive) :
    vm.persistReadyVIN.SavedFromVin := by
  rcases persistReadyVIN_cases vm with ⟨hsame, -⟩ | ⟨v, hlive, -, -, hrecord⟩
  · rw [hsame]
    exact h
  · rw [hrecord]
    refine ⟨h.controller, fun w p hp => ?_⟩
    by_cases hw : w = v
    · subst hw
      obtain ⟨q, hq, hidentity, -⟩ := recordReady_self vm w
      obtain rfl : q = p := Option.some.inj (hq.symm.trans hp)
      exact savedUnder_live h.controller hpublish hlive hidentity
    · exact h.saved w p ((recordReady_other vm hw).symm.trans hp)

/-- A refresh keeps the invariant: it publishes before it persists. -/
theorem refresh_savedFromVin (h : vm.SavedFromVin) : vm.refresh.SavedFromVin := by
  have hpublished : vm.published.SavedFromVin := ⟨h.controller, h.saved⟩
  obtain ⟨hlive, hpublish⟩ := persistLiveVIN_savedFromVin hpublished (published_publishesLive vm)
  have hready := persistReadyVIN_savedFromVin hlive hpublish
  exact ⟨hready.controller, hready.saved⟩

/-- **Every event keeps saved profiles with their VIN.** -/
theorem step_savedFromVin (h : vm.SavedFromVin) (event : Event) : (vm.step event).SavedFromVin := by
  have hcontroller : (vm.quiet event).controller.IdentityOfVin := by
    cases event with
    | beginConnection source =>
      show (vm.beginConnection source).controller.IdentityOfVin
      unfold beginConnection
      split
      · exact h.controller
      · exact JagLinkDiagnosticsController.identityOfVin_reset _
    | flowEvent event =>
      exact JagLinkDiagnosticsController.identityOfVin_didReceiveFlowEvent event h.controller
    | selectSavedVehicle vin =>
      rw [quiet_selectSavedVehicle]
      split
      · exact h.controller
      · split <;> exact h.controller
    | sharedChanged _ | refresh | disconnect => exact h.controller
  have hquiet : (vm.quiet event).SavedFromVin :=
    ⟨hcontroller, fun v p hp => h.saved v p ((quiet_profile vm event v).symm.trans hp)⟩
  rw [step_eq]
  split
  · exact refresh_savedFromVin hquiet
  · exact hquiet

/-- An empty store holds no texts at all. -/
theorem initial_savedFromVin (api : AppleApi) (shared : LinkDiagnosticsController) :
    (initial api shared).SavedFromVin := by
  refine refresh_savedFromVin ⟨JagLinkDiagnosticsController.identityOfVin_reset _, fun v p hp => ?_⟩
  have hnone := api.store.empty_profile v
  rw [show api.store.profile api.store.empty v = some p from hp] at hnone
  cases hnone

/-- In every state of every run the saved texts are of their own VINs. -/
theorem reachable_savedFromVin {shared : LinkDiagnosticsController}
    (h : Reachable step (initial api shared) vm) : vm.SavedFromVin := by
  have hstep : ∀ (vm : ConnectionViewModel api) event, vm.SavedFromVin →
      (vm.step event).SavedFromVin :=
    fun _ event hvm => step_savedFromVin hvm event
  exact reachable_invariant step hstep (initial_savedFromVin api shared) h

end ConnectionViewModel

end Jaglink
