/-
  A refresh settles, and a session is persisted once.

  1. **Program** — `refresh` runs on every update and on every change of a setting, so it is
     repeated at will; what it asks of the store must not be repeated with it.

  2. **A refresh settles (`refresh_refresh`)** — each of its six blocks leaves a state that the same
     block does not change again, and no later block undoes it.  `Settled` is the conjunction of
     these facts; one lemma a block gets there (`refresh_publishIdentity`, `refresh_persistLiveVIN`,
     ...). The block that lists the saved vehicles is the delicate one: it runs first, and the two
     blocks that persist run it again after they have written (`persisted_listed`).

  3. **Counting calls** — `VehicleProfileStore.logged` is any store with a log of the calls that
     write; `unlogged_step` says that the log is only observed, so what is counted over it happens
     over the plain store.

  4. **A session is persisted once (`refresh_persists_once`)** — in a session that reads one VIN
     (`OneSession`) the markers go through three stages, and the log grows when the stage does:
     nothing; the live VIN recorded and the identity saved; the snapshot saved too.  `AtStage` is
     that invariant, with the step that caused each call; one lemma a stage keeps it, and
     `run_atStage` carries it through the session.
-/
import Jaglink.OfflineView

namespace Jaglink

open CLib Runs

namespace ConnectionViewModel

variable {api : AppleApi} {vm : ConnectionViewModel api} {v : String}

/-! ## The listing -/

/-- The listed name of the selected vehicle. -/
def listedName (vm : ConnectionViewModel api) : Option String :=
  vm.storeSelectedVIN.bind fun v =>
    (((api.store.savedProfiles vm.vehicleProfileStore).filterMap vm.summary).find?
      fun row => row.vin = v).map (·.displayName)

/-- Listing the vehicles takes over the name of the selected one, if it is listed. -/
theorem refreshSavedVehicleProfiles_name (vm : ConnectionViewModel api) :
    vm.refreshSavedVehicleProfiles.profileDisplayName =
      vm.listedName.getD vm.profileDisplayName := by
  cases hselected : api.store.selectedVehicleVIN vm.vehicleProfileStore with
  | none => simp [refreshSavedVehicleProfiles, listedName, storeSelectedVIN, hselected]
  | some v =>
    cases hfind : ((api.store.savedProfiles vm.vehicleProfileStore).filterMap vm.summary).find?
        fun row => row.vin = v with
    | none =>
      simp only [refreshSavedVehicleProfiles, listedName, storeSelectedVIN, hselected, find?_listed,
        hfind, Option.bind_some, Option.map_none, Option.getD_none]
    | some row =>
      simp only [refreshSavedVehicleProfiles, listedName, storeSelectedVIN, hselected, find?_listed,
        hfind, Option.bind_some, Option.map_some, Option.getD_some]

/-- What is published of the saved profiles is what the store has. -/
structure Listed (vm : ConnectionViewModel api) : Prop where
  profiles : vm.savedVehicleProfiles =
    (api.store.savedProfiles vm.vehicleProfileStore).filterMap vm.summary
  selected : vm.selectedVehicleVIN = vm.storeSelectedVIN
  name : vm.listedName.getD vm.profileDisplayName = vm.profileDisplayName

/-- Listing leaves nothing to list. -/
theorem refreshSavedVehicleProfiles_listed (vm : ConnectionViewModel api) :
    vm.refreshSavedVehicleProfiles.Listed where
  profiles := rfl
  selected := rfl
  name := by
    show vm.listedName.getD vm.refreshSavedVehicleProfiles.profileDisplayName = _
    rw [refreshSavedVehicleProfiles_name]
    cases vm.listedName <;> rfl

/-- Where the list is up to date, listing changes nothing. -/
theorem Listed.refreshSavedVehicleProfiles_eq (h : vm.Listed) :
    vm.refreshSavedVehicleProfiles = vm := by
  have hname : vm.refreshSavedVehicleProfiles.profileDisplayName = vm.profileDisplayName :=
    (refreshSavedVehicleProfiles_name vm).trans h.name
  calc vm.refreshSavedVehicleProfiles
      = { vm with
          savedVehicleProfiles :=
            (api.store.savedProfiles vm.vehicleProfileStore).filterMap vm.summary
          selectedVehicleVIN := vm.storeSelectedVIN
          profileDisplayName := vm.refreshSavedVehicleProfiles.profileDisplayName } := rfl
    _ = vm := by rw [hname, ← h.profiles, ← h.selected]

/-- The first block lists the vehicles after it has written. -/
theorem persistLiveVIN_listed (h : vm.Listed) : vm.persistLiveVIN.Listed := by
  rcases persistLiveVIN_cases vm with ⟨hsame, -⟩ | ⟨u, -, -, hrecord⟩
  · rwa [hsame]
  · rw [hrecord]
    exact refreshSavedVehicleProfiles_listed _

/-- The second block leaves the list that of the saved profiles. -/
theorem persistReadyVIN_listed (h : vm.Listed) : vm.persistReadyVIN.Listed := by
  rcases persistReadyVIN_cases vm with ⟨hsame, -⟩ | ⟨u, -, -, -, hrecord⟩
  · rwa [hsame]
  · rw [hrecord]
    exact refreshSavedVehicleProfiles_listed _

/-- After both blocks the list is up to date, for `published` lists them first. -/
theorem persisted_listed (vm : ConnectionViewModel api) : vm.persisted.Listed := by
  have hlisted := refreshSavedVehicleProfiles_listed vm
  have hpublished : vm.published.Listed := ⟨hlisted.profiles, hlisted.selected, hlisted.name⟩
  exact persistReadyVIN_listed (persistLiveVIN_listed hpublished)

/-! ## The texts of an active controller -/

/-- The published connection and identity are the controller's. -/
structure ShowsController (vm : ConnectionViewModel api) : Prop where
  statusText : vm.statusText = vm.controller.shared.statusText
  peripheralName : vm.peripheralName = vm.controller.shared.peripheralName.getD "No adapter"
  adapterIdentifier : vm.adapterIdentifier = vm.controller.shared.adapterIdentifier.getD "Unknown"
  vehicleVINText :
    vm.vehicleVINText = vm.controller.vehicleVINText.getD "Not returned by SAE Mode 09"
  identity : vm.identity = vm.controller.identity

/-- With an active controller the published fields are the controller's. -/
theorem published_showsController (h : vm.controllerActive = true) :
    vm.published.ShowsController :=
  ⟨rfl, rfl, rfl, if_pos h, if_pos h⟩

/-- Publishing them again changes nothing. -/
theorem ShowsController.publishIdentity_eq (h : vm.ShowsController)
    (hactive : vm.controllerActive = true) : vm.publishIdentity = vm := by
  have hvin : vm.publishIdentity.vehicleVINText = vm.vehicleVINText :=
    (if_pos hactive).trans h.vehicleVINText.symm
  have hidentity : vm.publishIdentity.identity = vm.identity :=
    (if_pos hactive).trans h.identity.symm
  calc vm.publishIdentity
      = { vm with
          statusText := vm.controller.shared.statusText
          peripheralName := vm.controller.shared.peripheralName.getD "No adapter"
          adapterIdentifier := vm.controller.shared.adapterIdentifier.getD "Unknown"
          vehicleVINText := vm.publishIdentity.vehicleVINText
          identity := vm.publishIdentity.identity } := rfl
    _ = vm := by
      rw [hvin, hidentity, ← h.statusText, ← h.peripheralName, ← h.adapterIdentifier]

/-- The first block publishes none of these fields. -/
theorem persistLiveVIN_showsController (h : vm.ShowsController) :
    vm.persistLiveVIN.ShowsController := by
  rcases persistLiveVIN_cases vm with ⟨hsame, -⟩ | ⟨u, -, -, hrecord⟩
  · rwa [hsame]
  · rw [hrecord]
    exact ⟨h.statusText, h.peripheralName, h.adapterIdentifier, h.vehicleVINText, h.identity⟩

/-- The second block publishes none of the controller's fields. -/
theorem persistReadyVIN_showsController (h : vm.ShowsController) :
    vm.persistReadyVIN.ShowsController := by
  rcases persistReadyVIN_cases vm with ⟨hsame, -⟩ | ⟨u, -, -, -, hrecord⟩
  · rwa [hsame]
  · rw [hrecord]
    exact ⟨h.statusText, h.peripheralName, h.adapterIdentifier, h.vehicleVINText, h.identity⟩

/-- Both blocks leave the published fields the controller's. -/
theorem persisted_showsController (h : vm.controllerActive = true) :
    vm.persisted.ShowsController :=
  persistReadyVIN_showsController (persistLiveVIN_showsController (published_showsController h))

/-! ## A refresh settles -/

/-- No block of a refresh has anything left to do. -/
structure Settled (vm : ConnectionViewModel api) : Prop where
  listed : vm.refreshSavedVehicleProfiles = vm
  identity : vm.publishIdentity = vm
  live : vm.persistLiveVIN = vm
  ready : vm.persistReadyVIN = vm
  diagnostics : vm.publishDiagnostics = vm
  session : vm.publishSession = vm

/-- A settled view model has nothing to refresh. -/
theorem Settled.refresh_eq (h : vm.Settled) : vm.refresh = vm := by
  rw [refresh, h.listed, h.identity, h.live, h.ready, h.diagnostics, h.session]

/-- The identity comes from the controller, from the selected profile, or stays. -/
theorem publishIdentity_identity (vm : ConnectionViewModel api) :
    vm.publishIdentity.identity =
      if vm.controllerActive then vm.controller.identity
      else ((vm.profile (vm.selectedVehicleVIN.getD "")).map savedIdentity).getD vm.identity := by
  unfold publishIdentity
  cases vm.profile (vm.selectedVehicleVIN.getD "") <;> rfl

/-- Publishing the identity twice is publishing it once. -/
theorem publishIdentity_publishIdentity (vm : ConnectionViewModel api) :
    vm.publishIdentity.publishIdentity = vm.publishIdentity := by
  have hidentity : vm.publishIdentity.publishIdentity.identity = vm.publishIdentity.identity := by
    rw [publishIdentity_identity vm.publishIdentity]
    show (if vm.controllerActive then vm.controller.identity
      else ((vm.profile (vm.selectedVehicleVIN.getD "")).map savedIdentity).getD
        vm.publishIdentity.identity) = _
    rw [publishIdentity_identity vm]
    cases vm.controllerActive with
    | true => rfl
    | false => cases vm.profile (vm.selectedVehicleVIN.getD "") <;> rfl
  calc vm.publishIdentity.publishIdentity
      = { vm.publishIdentity with identity := vm.publishIdentity.publishIdentity.identity } := rfl
    _ = vm.publishIdentity := by rw [hidentity]

/-- After a refresh there is no identity left to publish. -/
theorem refresh_publishIdentity (vm : ConnectionViewModel api) :
    vm.refresh.publishIdentity = vm.refresh := by
  cases hactive : vm.controllerActive with
  | true =>
    have hshown := persisted_showsController hactive
    have hrefresh : vm.refresh.ShowsController := ⟨hshown.statusText, hshown.peripheralName,
      hshown.adapterIdentifier, hshown.vehicleVINText, hshown.identity⟩
    exact hrefresh.publishIdentity_eq ((refresh_controllerActive vm).trans hactive)
  | false =>
    rw [refresh_offline hactive]
    show vm.published.publishIdentity.publishDiagnostics.publishSession = _
    rw [published, publishIdentity_publishIdentity]

/-- After a refresh its live VIN is persisted. -/
theorem refresh_persistLiveVIN (vm : ConnectionViewModel api) :
    vm.refresh.persistLiveVIN = vm.refresh := by
  rcases persistLiveVIN_cases vm.refresh with ⟨hsame, -⟩ | ⟨u, hlive, hnew, -⟩
  · exact hsame
  · -- the refresh has marked this very VIN
    have hpublished : vm.published.liveVIN = some u := (refresh_liveVIN vm).symm.trans hlive
    refine absurd ?_ hnew
    rw [refresh_lastPersistedLiveVIN, persisted, persistReadyVIN_lastPersistedLiveVIN]
    exact persistLiveVIN_marks hpublished

/-- After the block that persists a ready session, that VIN is the ready marker. -/
theorem persistReadyVIN_marks (hlive : vm.liveVIN = some v)
    (hready : vm.controller.shared.isReady = true) :
    vm.persistReadyVIN.lastPersistedReadyVIN = some v := by
  rcases persistReadyVIN_cases vm with ⟨hsame, hmarked⟩ | ⟨u, hu, -, -, hrecord⟩
  · rw [hsame]
    exact hmarked v hlive hready
  · rw [hrecord]
    exact hu.symm.trans hlive

/-- After a refresh a ready session is saved. -/
theorem refresh_persistReadyVIN (vm : ConnectionViewModel api) :
    vm.refresh.persistReadyVIN = vm.refresh := by
  rcases persistReadyVIN_cases vm.refresh with ⟨hsame, -⟩ | ⟨u, hlive, hready, hnew, -⟩
  · exact hsame
  · have hcontroller := persistLiveVIN_controller vm.published
    rw [refresh_liveVIN] at hlive
    rw [refresh_controller] at hready
    have hblocklive : vm.published.persistLiveVIN.liveVIN = some u :=
      (liveVIN_congr hcontroller).trans hlive
    have hblockready : vm.published.persistLiveVIN.controller.shared.isReady = true := by
      rw [hcontroller]
      exact hready
    have hmarked : vm.refresh.lastPersistedReadyVIN = some u :=
      persistReadyVIN_marks hblocklive hblockready
    exact absurd hmarked hnew

/-- **A refresh settles.** -/
theorem refresh_settled (vm : ConnectionViewModel api) : vm.refresh.Settled where
  listed := by
    have h := persisted_listed vm
    have hrefresh : vm.refresh.Listed := ⟨h.profiles, h.selected, h.name⟩
    exact hrefresh.refreshSavedVehicleProfiles_eq
  identity := refresh_publishIdentity vm
  live := refresh_persistLiveVIN vm
  ready := refresh_persistReadyVIN vm
  diagnostics := rfl
  session := rfl

/-- **A second refresh changes nothing.** -/
theorem refresh_refresh (vm : ConnectionViewModel api) : vm.refresh.refresh = vm.refresh :=
  (refresh_settled vm).refresh_eq

end ConnectionViewModel

/-! ## A store that logs the calls made to it -/

/-- The calls that can change a store. -/
inductive StoreCall
  | recordLiveVIN (vin : String)
  | saveProfile (profile : Profile) (vin : String)
  | selectOfflineVehicle (vin : String)

/-- Selecting a vehicle moves the selection; the other calls write profiles. -/
def StoreCall.isWrite : StoreCall → Bool
  | .recordLiveVIN _ | .saveProfile _ _ => true
  | .selectOfflineVehicle _ => false

/-- The store, with a log of the calls made to it. -/
def VehicleProfileStore.logged (store : VehicleProfileStore) : VehicleProfileStore where
  State := store.State × List StoreCall
  empty := (store.empty, [])
  profile s := store.profile s.1
  savedProfiles s := store.savedProfiles s.1
  selectedVehicleVIN s := store.selectedVehicleVIN s.1
  associatedAdapterIdentifier s := store.associatedAdapterIdentifier s.1
  recordLiveVIN s v := (store.recordLiveVIN s.1 v, s.2 ++ [.recordLiveVIN v])
  saveProfile s p v := (store.saveProfile s.1 p v, s.2 ++ [.saveProfile p v])
  selectOfflineVehicle s v :=
    ((store.selectOfflineVehicle s.1 v).1,
      (store.selectOfflineVehicle s.1 v).2, s.2 ++ [.selectOfflineVehicle v])
  empty_profile := store.empty_profile
  empty_selected := store.empty_selected
  record_selected s := store.record_selected s.1
  record_self s := store.record_self s.1
  record_other s := store.record_other s.1
  save_selected s := store.save_selected s.1
  save_self s := store.save_self s.1
  save_other s := store.save_other s.1
  select_profile s := store.select_profile s.1
  select_accepted s := store.select_accepted s.1
  select_refused s := store.select_refused s.1
  listed_of_saved s := store.listed_of_saved s.1
  saved_of_listed s := store.saved_of_listed s.1

/-- The same parameters over a logged store. -/
def AppleApi.logged (api : AppleApi) : AppleApi := { api with store := api.store.logged }

namespace ConnectionViewModel

variable {api : AppleApi} {vm : ConnectionViewModel api.logged} {v : String}

/-- The same view model without the log. -/
def unlogged (vm : ConnectionViewModel api.logged) : ConnectionViewModel api :=
  { vm with vehicleProfileStore := vm.vehicleProfileStore.1 }

/-- The log changes nothing about what the first block does. -/
theorem unlogged_persistLiveVIN (vm : ConnectionViewModel api.logged) :
    vm.persistLiveVIN.unlogged = vm.unlogged.persistLiveVIN := by
  have hlive : vm.unlogged.liveVIN = vm.liveVIN := rfl
  cases hvin : vm.liveVIN with
  | none => rw [persistLiveVIN_none hvin, persistLiveVIN_none (hlive.trans hvin)]
  | some v =>
    rw [persistLiveVIN_some hvin, persistLiveVIN_some (hlive.trans hvin)]
    by_cases hnew : vm.lastPersistedLiveVIN ≠ some v
    · exact (congrArg unlogged (if_pos hnew)).trans (if_pos hnew).symm
    · exact (congrArg unlogged (if_neg hnew)).trans (if_neg hnew).symm

/-- The log makes no difference to what the second block does. -/
theorem unlogged_persistReadyVIN (vm : ConnectionViewModel api.logged) :
    vm.persistReadyVIN.unlogged = vm.unlogged.persistReadyVIN := by
  have hlive : vm.unlogged.liveVIN = vm.liveVIN := rfl
  cases hvin : vm.liveVIN with
  | none => rw [persistReadyVIN_none hvin, persistReadyVIN_none (hlive.trans hvin)]
  | some v =>
    rw [persistReadyVIN_some hvin, persistReadyVIN_some (hlive.trans hvin)]
    by_cases hready : vm.controller.shared.isReady = true ∧ vm.lastPersistedReadyVIN ≠ some v
    · exact (congrArg unlogged (if_pos hready)).trans (if_pos hready).symm
    · exact (congrArg unlogged (if_neg hready)).trans (if_neg hready).symm

/-- A refresh over the logged store is one over the plain store. -/
theorem unlogged_refresh (vm : ConnectionViewModel api.logged) :
    vm.refresh.unlogged = vm.unlogged.refresh := by
  show vm.published.persistLiveVIN.persistReadyVIN.unlogged.publishDiagnostics.publishSession =
    vm.unlogged.published.persistLiveVIN.persistReadyVIN.publishDiagnostics.publishSession
  rw [unlogged_persistReadyVIN, unlogged_persistLiveVIN]
  rfl

/-- **The log is only observed**: without it every step is the same. -/
theorem unlogged_step (vm : ConnectionViewModel api.logged) (event : Event) :
    (vm.step event).unlogged = vm.unlogged.step event := by
  have hquiet : (vm.quiet event).unlogged = vm.unlogged.quiet event := by
    cases event with
    | beginConnection source =>
      show (vm.beginConnection source).unlogged = vm.unlogged.beginConnection source
      unfold beginConnection
      exact apply_ite unlogged _ _ _
    | selectSavedVehicle vin =>
      rw [quiet_selectSavedVehicle, quiet_selectSavedVehicle, apply_ite unlogged, apply_ite unlogged]
      rfl
    | flowEvent _ | sharedChanged _ | refresh | disconnect => rfl
  have hrefreshes : vm.unlogged.refreshes event = vm.refreshes event := by
    cases event <;> rfl
  rw [step_eq, step_eq, hrefreshes, ← hquiet, ← unlogged_refresh, apply_ite unlogged]

/-! ## The calls of one session -/

/-- The calls made since the start. -/
def calls (vm : ConnectionViewModel api.logged) : List StoreCall := vm.vehicleProfileStore.2

/-- Those of them that write profiles. -/
def writes (vm : ConnectionViewModel api.logged) : List StoreCall :=
  vm.calls.filter StoreCall.isWrite

/-- The view model that saves the identity: the live VIN is recorded, selected and named. -/
def recorded (vm : ConnectionViewModel api.logged) (v : String) : ConnectionViewModel api.logged :=
  { vm with
    vehicleProfileStore := api.logged.store.recordLiveVIN vm.vehicleProfileStore v
    selectedVehicleVIN := some v
    profileDisplayName := (vm.recordLive v).profileDisplayName }

/-- The calls that persist a new live VIN: it is recorded, and its identity saved. -/
def identityCalls (vm : ConnectionViewModel api.logged) (v : String) : List StoreCall :=
  [.recordLiveVIN v,
    .saveProfile
      ((vm.recorded v).profileToSave v (vm.recorded v).profileDisplayName false) v]

/-- The call that persists a ready session: the diagnostic snapshot is saved. -/
def snapshotCall (vm : ConnectionViewModel api.logged) (v : String) : StoreCall :=
  .saveProfile (vm.profileToSave v vm.profileDisplayName true) v

/-- Recording a live VIN calls two writing functions. -/
theorem recordLive_writes (vm : ConnectionViewModel api.logged) (v : String) :
    (vm.recordLive v).writes = vm.writes ++ vm.identityCalls v := by
  have hcalls : (vm.recordLive v).calls = vm.calls ++ vm.identityCalls v := by
    show (vm.calls ++ [_]) ++ [_] = vm.calls ++ [_, _]
    rw [List.append_assoc]
    rfl
  rw [writes, hcalls, List.filter_append]
  rfl

/-- Saving a ready session calls one. -/
theorem recordReady_writes (vm : ConnectionViewModel api.logged) (v : String) :
    (vm.recordReady v).writes = vm.writes ++ [vm.snapshotCall v] := by
  have hcalls : (vm.recordReady v).calls = vm.calls ++ [vm.snapshotCall v] := rfl
  rw [writes, hcalls, List.filter_append]
  rfl

/-- Selecting a vehicle is no write, and short of refreshing nothing else is called. -/
theorem quiet_writes (vm : ConnectionViewModel api.logged) (event : Event) :
    (vm.quiet event).writes = vm.writes := by
  cases event with
  | beginConnection source =>
    show (vm.beginConnection source).writes = vm.writes
    unfold beginConnection
    split <;> rfl
  | selectSavedVehicle vin =>
    have hselect : (vm.calls ++ [StoreCall.selectOfflineVehicle vin]).filter StoreCall.isWrite =
        vm.writes := by
      rw [List.filter_append, writes]
      exact List.append_nil _
    rw [quiet_selectSavedVehicle]
    split
    · rfl
    · split <;> exact hselect
  | flowEvent _ | sharedChanged _ | refresh | disconnect => rfl

/-! ## The stages of a session -/

/-- A step that belongs to a session reading no VIN but `v`: it does not begin a connection, and a
    refresh finds no other live VIN. -/
structure OneSession (v : String) (vm : ConnectionViewModel api.logged) (event : Event) : Prop where
  rejected : ∀ source, event = .beginConnection source → vm.isActive = true
  onlyVIN : vm.refreshes event = true → ∀ u, vm.liveVIN = some u → u = v

/-- A step that refreshes and sees the controller active with `v`. -/
def Sees (v : String) (taken : ConnectionViewModel api.logged × Event) : Prop :=
  taken.1.refreshes taken.2 = true ∧ taken.1.liveVIN = some v

/-- A step that sees the controller active with `v` and ready. -/
def SeesReady (v : String) (taken : ConnectionViewModel api.logged × Event) : Prop :=
  Sees v taken ∧ taken.1.controller.shared.isReady = true

/-- The view model as the persisting blocks of such a step find it. -/
def found (taken : ConnectionViewModel api.logged × Event) : ConnectionViewModel api.logged :=
  (taken.1.quiet taken.2).published

/-- How far a session has come: nothing written, the VIN recorded, the snapshot saved. -/
inductive SessionStage
  | begun
  | recorded
  | saved

/-- The stage a session has come to after `steps`: what it has written since `before`, and the two
    markers. -/
def AtStage (before : List StoreCall) (v : String)
    (steps : List (ConnectionViewModel api.logged × Event)) (vm : ConnectionViewModel api.logged) :
    SessionStage → Prop
  | .begun =>
    (∀ taken ∈ steps, ¬Sees v taken) ∧ vm.writes = before ∧
      vm.lastPersistedLiveVIN = none ∧ vm.lastPersistedReadyVIN = none
  | .recorded =>
    (∀ taken ∈ steps, ¬SeesReady v taken) ∧
      (∃ taken ∈ steps, Sees v taken ∧ vm.writes = before ++ (found taken).identityCalls v) ∧
      vm.lastPersistedLiveVIN = some v ∧ vm.lastPersistedReadyVIN = none
  | .saved =>
    (∃ taken ∈ steps, ∃ ready ∈ steps, Sees v taken ∧ SeesReady v ready ∧
      vm.writes = before ++ (found taken).identityCalls v ++
        [(found ready).persistLiveVIN.snapshotCall v]) ∧
      vm.lastPersistedLiveVIN = some v ∧ vm.lastPersistedReadyVIN = some v

section Blocks

variable (hlive : vm.liveVIN = some v)
include hlive

/-- A new live VIN is recorded, marked, and the ready marker cleared. -/
theorem persistLiveVIN_new (hnew : vm.lastPersistedLiveVIN ≠ some v) :
    vm.persistLiveVIN.writes = vm.writes ++ vm.identityCalls v ∧
      vm.persistLiveVIN.lastPersistedLiveVIN = some v ∧
      vm.persistLiveVIN.lastPersistedReadyVIN = none := by
  have hrecord : vm.persistLiveVIN = (vm.recordLive v).refreshSavedVehicleProfiles := by
    rw [persistLiveVIN_some hlive]
    exact if_pos hnew
  rw [hrecord]
  exact ⟨recordLive_writes vm v, rfl, rfl⟩

/-- A marked one is left alone. -/
theorem persistLiveVIN_old (hold : vm.lastPersistedLiveVIN = some v) : vm.persistLiveVIN = vm := by
  rw [persistLiveVIN_some hlive]
  exact if_neg (not_not_intro hold)

/-- A ready session that is not marked is saved and marked. -/
theorem persistReadyVIN_new (hready : vm.controller.shared.isReady = true)
    (hnew : vm.lastPersistedReadyVIN ≠ some v) :
    vm.persistReadyVIN.writes = vm.writes ++ [vm.snapshotCall v] ∧
      vm.persistReadyVIN.lastPersistedReadyVIN = some v := by
  have hrecord : vm.persistReadyVIN = (vm.recordReady v).refreshSavedVehicleProfiles := by
    rw [persistReadyVIN_some hlive]
    exact if_pos ⟨hready, hnew⟩
  rw [hrecord]
  exact ⟨recordReady_writes vm v, rfl⟩

/-- A marked one is left alone, and so is one that is not ready. -/
theorem persistReadyVIN_old
    (hold : vm.controller.shared.isReady = true → vm.lastPersistedReadyVIN = some v) :
    vm.persistReadyVIN = vm := by
  rw [persistReadyVIN_some hlive]
  exact if_neg fun h => h.2 (hold h.1)

end Blocks

/-- Short of refreshing, a step of the session leaves the markers alone. -/
theorem quiet_markers {event : Event}
    (h : ∀ source, event = .beginConnection source → vm.isActive = true) :
    (vm.quiet event).lastPersistedLiveVIN = vm.lastPersistedLiveVIN ∧
      (vm.quiet event).lastPersistedReadyVIN = vm.lastPersistedReadyVIN := by
  cases event with
  | beginConnection source =>
    show (vm.beginConnection source).lastPersistedLiveVIN = _ ∧
      (vm.beginConnection source).lastPersistedReadyVIN = _
    unfold beginConnection
    rw [if_pos (h source rfl)]
    exact ⟨rfl, rfl⟩
  | selectSavedVehicle vin =>
    rw [quiet_selectSavedVehicle]
    split
    · exact ⟨rfl, rfl⟩
    · split <;> exact ⟨rfl, rfl⟩
  | flowEvent _ | sharedChanged _ | refresh | disconnect => exact ⟨rfl, rfl⟩

/-- A step that does not see `v` writes nothing and leaves the markers alone. -/
theorem step_unseen {event : Event} (h : OneSession v vm event) (hunseen : ¬Sees v (vm, event)) :
    (vm.step event).writes = vm.writes ∧
      (vm.step event).lastPersistedLiveVIN = vm.lastPersistedLiveVIN ∧
      (vm.step event).lastPersistedReadyVIN = vm.lastPersistedReadyVIN := by
  have hquiet : (vm.quiet event).writes = vm.writes ∧
      (vm.quiet event).lastPersistedLiveVIN = vm.lastPersistedLiveVIN ∧
      (vm.quiet event).lastPersistedReadyVIN = vm.lastPersistedReadyVIN :=
    ⟨quiet_writes vm event, quiet_markers h.rejected⟩
  rw [step_eq]
  split
  · rename_i hrefreshes
    have hnone : (vm.quiet event).liveVIN = none := by
      rw [liveVIN_congr (quiet_controller hrefreshes)]
      refine Option.eq_none_iff_forall_ne_some.mpr fun u hu => hunseen ⟨hrefreshes, ?_⟩
      rw [hu, h.onlyVIN hrefreshes u hu]
    have hpersisted := persisted_of_noLive hnone
    show (vm.quiet event).persisted.writes = _ ∧
      (vm.quiet event).persisted.lastPersistedLiveVIN = _ ∧
      (vm.quiet event).persisted.lastPersistedReadyVIN = _
    rw [hpersisted]
    exact hquiet
  · exact hquiet

/-- What the persisting blocks find at a step that sees `v`. -/
theorem Sees.found {event : Event} (h : Sees v (vm, event)) :
    (found (vm, event)).liveVIN = some v ∧ (found (vm, event)).writes = vm.writes ∧
      (found (vm, event)).controller = vm.controller ∧
      (found (vm, event)).lastPersistedLiveVIN = vm.lastPersistedLiveVIN ∧
      (found (vm, event)).lastPersistedReadyVIN = vm.lastPersistedReadyVIN := by
  have hcontroller : (vm.quiet event).controller = vm.controller := quiet_controller h.1
  have hbegin : ∀ source, event = .beginConnection source → vm.isActive = true := by
    rintro source rfl
    cases h.1
  have hlive : (vm.quiet event).liveVIN = some v := (liveVIN_congr hcontroller).trans h.2
  exact ⟨hlive, quiet_writes vm event, hcontroller, quiet_markers hbegin⟩

/-- A step that sees the controller with `v` does to the log and the markers what the persisting
    blocks do. -/
theorem Sees.step {event : Event} (h : Sees v (vm, event)) :
    (vm.step event).writes =
        (ConnectionViewModel.found (vm, event)).persistLiveVIN.persistReadyVIN.writes ∧
      (vm.step event).lastPersistedLiveVIN =
        (ConnectionViewModel.found
          (vm, event)).persistLiveVIN.persistReadyVIN.lastPersistedLiveVIN ∧
      (vm.step event).lastPersistedReadyVIN =
        (ConnectionViewModel.found
          (vm, event)).persistLiveVIN.persistReadyVIN.lastPersistedReadyVIN := by
  rw [step_eq, if_pos h.1]
  exact ⟨rfl, rfl, rfl⟩

variable {before : List StoreCall} {stage : SessionStage}
  {steps : List (ConnectionViewModel api.logged × Event)}

/-- A list and its new last element are looked at apart. -/
theorem forall_mem_snoc {α : Type} {P : α → Prop} {as : List α} {a : α} :
    (∀ b ∈ as ++ [a], P b) ↔ (∀ b ∈ as, P b) ∧ P a := by
  rw [List.forall_mem_append, List.forall_mem_singleton]

/-- A step that does not see the VIN leaves the stage as it is. -/
theorem AtStage.unseen (h : AtStage before v steps vm stage) {event : Event}
    (hsession : OneSession v vm event) (hunseen : ¬Sees v (vm, event)) :
    AtStage before v (steps ++ [(vm, event)]) (vm.step event) stage := by
  obtain ⟨hwrites, hmarked, hready⟩ := step_unseen hsession hunseen
  cases stage with
  | begun =>
    obtain ⟨hnone, hbefore, hlive, hr⟩ := h
    exact ⟨forall_mem_snoc.mpr ⟨hnone, hunseen⟩, hwrites.trans hbefore, hmarked.trans hlive,
      hready.trans hr⟩
  | recorded =>
    obtain ⟨hnone, ⟨taken, htaken, hsees, hcalls⟩, hlive, hr⟩ := h
    exact ⟨forall_mem_snoc.mpr ⟨hnone, fun hsr => hunseen hsr.1⟩,
      ⟨taken, List.mem_append_left _ htaken, hsees, hwrites.trans hcalls⟩, hmarked.trans hlive,
      hready.trans hr⟩
  | saved =>
    obtain ⟨⟨taken, htaken, ready, hreadymem, hsees, hseesready, hcalls⟩, hlive, hr⟩ := h
    exact ⟨⟨taken, List.mem_append_left _ htaken, ready, List.mem_append_left _ hreadymem, hsees,
      hseesready, hwrites.trans hcalls⟩, hmarked.trans hlive, hready.trans hr⟩

section Seen

variable {event : Event} (hsees : Sees v (vm, event))
include hsees

/-- After the first block the second finds `v` too. -/
theorem found_again : (found (vm, event)).persistLiveVIN.liveVIN = some v ∧
    (found (vm, event)).persistLiveVIN.controller.shared.isReady =
      vm.controller.shared.isReady := by
  obtain ⟨hlive, -, hcontroller, -, -⟩ := hsees.found
  constructor
  · rw [liveVIN_congr (persistLiveVIN_controller _), hlive]
  · rw [persistLiveVIN_controller, hcontroller]

/-- A step that sees `v` leaves the marker of live VINs where the first block has put it. -/
theorem step_marks_live : (vm.step event).lastPersistedLiveVIN =
    (found (vm, event)).persistLiveVIN.lastPersistedLiveVIN := by
  obtain ⟨-, hmarked, -⟩ := hsees.step
  rw [hmarked, persistReadyVIN_lastPersistedLiveVIN]

/-- With `v` marked already, the first block does nothing. -/
theorem found_marked (hhaslive : vm.lastPersistedLiveVIN = some v) :
    (found (vm, event)).persistLiveVIN.writes = vm.writes ∧
      (found (vm, event)).persistLiveVIN.lastPersistedReadyVIN = vm.lastPersistedReadyVIN ∧
      (vm.step event).lastPersistedLiveVIN = some v := by
  obtain ⟨hlive, hwrites, -, hmarked, hreadymarked⟩ := hsees.found
  have hfirst : (found (vm, event)).persistLiveVIN = found (vm, event) :=
    persistLiveVIN_old hlive (hmarked.trans hhaslive)
  rw [step_marks_live hsees, hfirst]
  exact ⟨hwrites, hreadymarked, hmarked.trans hhaslive⟩

/-- A ready controller and an unset marker: one snapshot is saved after the first block. -/
theorem step_saves (hready : vm.controller.shared.isReady = true)
    (hnew : (found (vm, event)).persistLiveVIN.lastPersistedReadyVIN ≠ some v) :
    (vm.step event).writes = (found (vm, event)).persistLiveVIN.writes ++
        [(found (vm, event)).persistLiveVIN.snapshotCall v] ∧
      (vm.step event).lastPersistedReadyVIN = some v := by
  obtain ⟨hlive, hsameready⟩ := found_again hsees
  obtain ⟨hwrites, -, hmarked⟩ := hsees.step
  rw [hwrites, hmarked]
  exact persistReadyVIN_new hlive (hsameready.trans hready) hnew

/-- A controller that is not ready, or a marker already set: the first block is all the step does to
    the log and the markers. -/
theorem step_skips (hold : vm.controller.shared.isReady = true →
      (found (vm, event)).persistLiveVIN.lastPersistedReadyVIN = some v) :
    (vm.step event).writes = (found (vm, event)).persistLiveVIN.writes ∧
      (vm.step event).lastPersistedReadyVIN =
        (found (vm, event)).persistLiveVIN.lastPersistedReadyVIN := by
  obtain ⟨hlive, hsameready⟩ := found_again hsees
  obtain ⟨hwrites, -, hmarked⟩ := hsees.step
  rw [hwrites, hmarked, persistReadyVIN_old hlive fun hr => hold (hsameready.symm.trans hr)]
  exact ⟨rfl, rfl⟩

/-- From the start, a step that sees the VIN records it, and saves it if it is ready. -/
theorem AtStage.seen_begun (h : AtStage before v steps vm .begun) :
    ∃ next, AtStage before v (steps ++ [(vm, event)]) (vm.step event) next := by
  have hthis : (vm, event) ∈ steps ++ [(vm, event)] := by simp
  obtain ⟨hnone, hbefore, hnolive, -⟩ := h
  obtain ⟨hlive, hwrites, -, hmarked, -⟩ := hsees.found
  have hnew : (found (vm, event)).lastPersistedLiveVIN ≠ some v := by
    rw [hmarked, hnolive]
    simp
  obtain ⟨hfirst, hfirstlive, hfirstready⟩ := persistLiveVIN_new hlive hnew
  rw [hwrites, hbefore] at hfirst
  have hsteplive := (step_marks_live hsees).trans hfirstlive
  by_cases hready : vm.controller.shared.isReady = true
  · have hnewready : (found (vm, event)).persistLiveVIN.lastPersistedReadyVIN ≠ some v := by
      rw [hfirstready]
      simp
    obtain ⟨hsecond, hstepready⟩ := step_saves hsees hready hnewready
    rw [hfirst] at hsecond
    exact ⟨.saved, ⟨_, hthis, _, hthis, hsees, ⟨hsees, hready⟩, hsecond⟩, hsteplive, hstepready⟩
  · obtain ⟨hsame, hstepready⟩ := step_skips hsees fun hr => absurd hr hready
    have hnoneready : ∀ taken ∈ steps ++ [(vm, event)], ¬SeesReady v taken :=
      forall_mem_snoc.mpr ⟨fun taken htaken hsr => hnone taken htaken hsr.1, fun hsr => hready hsr.2⟩
    exact ⟨.recorded, hnoneready, ⟨_, hthis, hsees, hsame.trans hfirst⟩, hsteplive,
      hstepready.trans hfirstready⟩

/-- Once it is recorded, such a step saves it if it is ready, and else writes nothing. -/
theorem AtStage.seen_recorded (h : AtStage before v steps vm .recorded) :
    ∃ next, AtStage before v (steps ++ [(vm, event)]) (vm.step event) next := by
  have hthis : (vm, event) ∈ steps ++ [(vm, event)] := by simp
  obtain ⟨hnone, ⟨taken, htaken, hseestaken, hcalls⟩, hhaslive, hnoready⟩ := h
  obtain ⟨hfoundwrites, hfoundready, hsteplive⟩ := found_marked hsees hhaslive
  rw [hcalls] at hfoundwrites
  rw [hnoready] at hfoundready
  by_cases hready : vm.controller.shared.isReady = true
  · have hnewready : (found (vm, event)).persistLiveVIN.lastPersistedReadyVIN ≠ some v := by
      rw [hfoundready]
      simp
    obtain ⟨hsecond, hstepready⟩ := step_saves hsees hready hnewready
    rw [hfoundwrites] at hsecond
    exact ⟨.saved, ⟨taken, List.mem_append_left _ htaken, _, hthis, hseestaken, ⟨hsees, hready⟩,
      hsecond⟩, hsteplive, hstepready⟩
  · obtain ⟨hsame, hstepready⟩ := step_skips hsees fun hr => absurd hr hready
    have hnoneready : ∀ taken ∈ steps ++ [(vm, event)], ¬SeesReady v taken :=
      forall_mem_snoc.mpr ⟨hnone, fun hsr => hready hsr.2⟩
    exact ⟨.recorded, hnoneready, ⟨taken, List.mem_append_left _ htaken, hseestaken,
      hsame.trans hfoundwrites⟩, hsteplive, hstepready.trans hfoundready⟩

/-- Once it is saved, nothing is written any more. -/
theorem AtStage.seen_saved (h : AtStage before v steps vm .saved) :
    AtStage before v (steps ++ [(vm, event)]) (vm.step event) .saved := by
  obtain ⟨⟨taken, htaken, ready, hreadymem, hseestaken, hseesready, hcalls⟩, hhaslive, hhasready⟩ := h
  obtain ⟨hfoundwrites, hfoundready, hsteplive⟩ := found_marked hsees hhaslive
  rw [hhasready] at hfoundready
  obtain ⟨hsame, hstepready⟩ := step_skips hsees fun _ => hfoundready
  refine ⟨⟨taken, List.mem_append_left _ htaken, ready, List.mem_append_left _ hreadymem, hseestaken,
    hseesready, ?_⟩, hsteplive, hstepready.trans hfoundready⟩
  rw [hsame, hfoundwrites, hcalls]

/-- A step that sees `v` brings the session to the stage its controller allows. -/
theorem AtStage.seen (h : AtStage before v steps vm stage) :
    ∃ next, AtStage before v (steps ++ [(vm, event)]) (vm.step event) next := by
  cases stage with
  | begun => exact h.seen_begun hsees
  | recorded => exact h.seen_recorded hsees
  | saved => exact ⟨.saved, h.seen_saved hsees⟩

end Seen

/-- **Every step of the session keeps it at a stage.** -/
theorem AtStage.step (h : AtStage before v steps vm stage) {event : Event}
    (hsession : OneSession v vm event) :
    ∃ next, AtStage before v (steps ++ [(vm, event)]) (vm.step event) next := by
  by_cases hsees : Sees v (vm, event)
  · exact h.seen hsees
  · exact ⟨stage, h.unseen hsession hsees⟩

/-- A session that begins is at the first stage. -/
theorem atStage_begun {source : LinkConnectionSource} (hinactive : vm.isActive = false) :
    AtStage vm.writes v [] (vm.beginConnection source) .begun := by
  rw [beginConnection_inactive hinactive]
  exact ⟨fun _ htaken => absurd htaken List.not_mem_nil, rfl, rfl, rfl⟩

/-- A session has come to one of the stages, whatever its events. -/
theorem run_atStage (hbegun : AtStage before v [] vm .begun) {session : List Event}
    (h : Meets ConnectionViewModel.step (OneSession v) vm session) :
    ∃ stage, AtStage before v (Runs.steps ConnectionViewModel.step vm session)
      (run ConnectionViewModel.step vm session) stage := by
  -- from the last event of the session
  induction session using List.reverseRecOn with
  | nil => exact ⟨.begun, hbegun⟩
  | append_singleton session event ih =>
    rw [meets_snoc] at h
    obtain ⟨stage, hstage⟩ := ih h.1
    rw [steps_snoc, run_snoc]
    exact hstage.step h.2

/-- **A refresh settles, and a session is persisted once.**  A second refresh changes nothing and
    calls no writing function of the store.  After a connection began, as long as no other does and
    refreshes find no other live VIN than `v`: nothing is written if no refresh sees `v`; recording
    `v` and saving its identity are all that is written if some refresh does but none sees it ready;
    and one diagnostic snapshot is saved besides if some refresh does. -/
theorem refresh_persists_once (api : AppleApi) :
    (∀ vm : ConnectionViewModel api, vm.refresh.refresh = vm.refresh) ∧
    (∀ vm : ConnectionViewModel api.logged, vm.refresh.refresh.calls = vm.refresh.calls) ∧
    ∀ (vm : ConnectionViewModel api.logged) (source : LinkConnectionSource) (session : List Event)
      (v : String), vm.isActive = false →
      Meets step (OneSession v) (vm.beginConnection source) session →
      let steps := Runs.steps step (vm.beginConnection source) session
      let written := (run step (vm.beginConnection source) session).writes
      ((∀ taken ∈ steps, ¬Sees v taken) → written = vm.writes) ∧
      ((∃ taken ∈ steps, Sees v taken) → (∀ taken ∈ steps, ¬SeesReady v taken) →
        ∃ taken ∈ steps, Sees v taken ∧
          written = vm.writes ++ (found taken).identityCalls v) ∧
      ((∃ ready ∈ steps, SeesReady v ready) →
        ∃ taken ∈ steps, ∃ ready ∈ steps, Sees v taken ∧ SeesReady v ready ∧
          written = vm.writes ++ (found taken).identityCalls v ++
            [(found ready).persistLiveVIN.snapshotCall v]) := by
  refine ⟨refresh_refresh, fun vm => congrArg calls (refresh_refresh vm), ?_⟩
  intro vm source session v hinactive hsession steps written
  obtain ⟨stage, hstage⟩ := run_atStage (atStage_begun hinactive) hsession
  cases stage with
  | begun =>
    obtain ⟨hnone, hwrites, -⟩ := hstage
    refine ⟨fun _ => hwrites, ?_, ?_⟩
    · rintro ⟨taken, htaken, hsees⟩
      exact absurd hsees (hnone taken htaken)
    · rintro ⟨ready, hready, hsees⟩
      exact absurd hsees.1 (hnone ready hready)
  | recorded =>
    obtain ⟨hnone, ⟨taken, htaken, hsees, hwrites⟩, -⟩ := hstage
    refine ⟨fun h => absurd hsees (h taken htaken), fun _ _ => ⟨taken, htaken, hsees, hwrites⟩, ?_⟩
    rintro ⟨ready, hready, hseesready⟩
    exact absurd hseesready (hnone ready hready)
  | saved =>
    obtain ⟨⟨taken, htaken, ready, hready, hsees, hseesready, hwrites⟩, -⟩ := hstage
    exact ⟨fun h => absurd hsees (h taken htaken),
      fun _ h => absurd hseesready (h ready hready),
      fun _ => ⟨taken, htaken, ready, hready, hsees, hseesready, hwrites⟩⟩

/-- A session that reads a vehicle, becomes ready and is refreshed once more than it needs. -/
def readySession : List Event :=
  [.sharedChanged (.inSession false), .flowEvent (some (.standardVin true (text "SAJAA51K83YC00001"))),
    .refresh, .sharedChanged (.inSession true), .refresh, .refresh]

/-- Two refreshes write, the first of them the identity and the second the snapshot. -/
theorem refresh_persists_once_readySession :
    Meets step (OneSession "SAJAA51K83YC00001")
      ((initial AppleApi.memory.logged .idle).beginConnection .automatic) readySession ∧
    ∃ taken ready : ConnectionViewModel AppleApi.memory.logged × Event,
      Sees "SAJAA51K83YC00001" taken ∧ SeesReady "SAJAA51K83YC00001" ready ∧
      (run step ((initial AppleApi.memory.logged .idle).beginConnection .automatic)
        readySession).writes = (found taken).identityCalls "SAJAA51K83YC00001" ++
          [(found ready).persistLiveVIN.snapshotCall "SAJAA51K83YC00001"] := by
  have hmeets : Meets step (OneSession "SAJAA51K83YC00001")
      ((initial AppleApi.memory.logged .idle).beginConnection .automatic) readySession := by
    refine ⟨⟨fun _ h => ?_, fun h => ?_⟩, ⟨fun _ h => ?_, fun h => ?_⟩,
      ⟨fun _ h => ?_, fun _ _ h => (Option.some.inj h).symm⟩, ⟨fun _ h => ?_, fun h => ?_⟩,
      ⟨fun _ h => ?_, fun _ _ h => (Option.some.inj h).symm⟩,
      ⟨fun _ h => ?_, fun _ _ h => (Option.some.inj h).symm⟩, trivial⟩
    all_goals cases h
  refine ⟨hmeets, ?_⟩
  obtain ⟨-, -, honce⟩ := refresh_persists_once AppleApi.memory
  obtain ⟨-, -, hready⟩ := honce _ .automatic _ _ rfl hmeets
  -- the fifth step is the refresh that finds the session ready
  obtain ⟨taken, -, ready, -, hsees, hseesready, hwrites⟩ :=
    hready ⟨_, List.mem_of_getElem? (i := 4) rfl, ⟨rfl, rfl⟩, rfl⟩
  exact ⟨taken, ready, hsees, hseesready, hwrites⟩
end ConnectionViewModel

end Jaglink
