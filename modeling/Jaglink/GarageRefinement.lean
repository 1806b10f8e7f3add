/-
  The view model carries out the garage.

  1. **The relation (`Shows`)** — a profile is saved under a VIN exactly if the garage keeps that
     vehicle, every key of it holds what is kept (`Holds`), and the store and the garage have the
     same vehicle selected.

  2. **The commands** — `commands` says what an event asks of the garage: a selection the store
     accepts selects, and a refresh meets the live vehicle if its VIN is not the marked one and has
     it report if it is ready and not marked as such.

  3. **The simulation (`shows_step`)** — if the view model shows the garage, it shows it after the
     event and its commands.  One lemma for each persisting block (`shows_persistLiveVIN`,
     `shows_persistReadyVIN`), each from what the block saves, key by key.

  4. **Runs (`garage_carried_out`)** — the simulation lifted to runs by `run_carries_out`, with the
     view an offline refresh publishes.

  5. **What comes down** — what holds of the garage holds of the store.
     `diagnostics_from_one_moment` is the provenance of a saved diagnostic snapshot: all of it was
     true at one step of the run.
-/
import Jaglink.Garage
import Jaglink.SavedVehicles
import Jaglink.SnapshotRoundTrip

namespace Jaglink

open CLib Runs

/-! ## What a profile holds -/

namespace ConnectionViewModel

/-- The profile holds what is kept of the vehicle. -/
structure Holds (p : Profile) (kept : KeptVehicle) : Prop where
  displayName : p.string "displayName" = some kept.displayName
  identity : HoldsIdentity p kept.identity
  diagnostics : ∀ d, kept.diagnostics = some d → HoldsSnapshot p d
  noDiagnostics : kept.diagnostics = none → ∀ key ∈ snapshotKeys, p key = none
  responders : p "standardResponderProfiles" = kept.responders.map .responders

variable {api : AppleApi} {vm : ConnectionViewModel api} {garage : Garage} {v w key : String}
variable {p q : Profile} {kept : KeptVehicle}

/-- The store holds what the garage keeps. -/
structure Shows (vm : ConnectionViewModel api) (garage : Garage) : Prop where
  saved : ∀ v kept, garage.vehicles v = some kept → ∃ p, vm.profile v = some p ∧ Holds p kept
  unsaved : ∀ v, garage.vehicles v = none → vm.profile v = none
  selected : vm.storeSelectedVIN = garage.selected

/-- Diagnostics are restored from their own keys. -/
theorem restore_congr (h : ∀ key ∈ snapshotKeys, p key = q key) :
    restoreSavedDiagnosticSnapshot p = restoreSavedDiagnosticSnapshot q := by
  simp only [snapshotKeys, List.forall_mem_cons] at h
  simp only [restoreSavedDiagnosticSnapshot, Profile.string, Profile.strings, h]

/-- The view of a saved profile is the view of the vehicle. -/
theorem Holds.savedView (h : Holds p kept) (vin : String) : savedView vin p = kept.view vin := by
  have hsnapshot : restoreSavedDiagnosticSnapshot p =
      kept.diagnostics.getD Garage.noDiagnostics := by
    cases hkept : kept.diagnostics with
    | some d => exact restore_holdsSnapshot (h.diagnostics d hkept)
    | none => exact restore_congr (h.noDiagnostics hkept)
  rw [Jaglink.savedView, KeptVehicle.view, restore_holdsIdentity h.identity, h.displayName, hsnapshot]
  rfl

/-- A profile with the same keys but the identity's, and with the identity saved anew. -/
theorem Holds.renew {name : String} {identity : VehicleIdentity} (h : Holds p kept)
    (hother : ∀ key, key ∉ identityKeys → q key = p key) (hname : q.string "displayName" = some name)
    (hidentity : HoldsIdentity q identity) :
    Holds q { kept with displayName := name, identity := identity } where
  displayName := hname
  identity := hidentity
  diagnostics d hd entry hentry := by
    have hkey : entry.1 ∈ snapshotKeys := List.mem_map_of_mem (f := Prod.fst) hentry
    have hnot : entry.1 ∉ identityKeys :=
      (show ∀ k ∈ snapshotKeys, k ∉ identityKeys by decide) _ hkey
    rw [hother _ hnot]
    exact h.diagnostics d hd entry hentry
  noDiagnostics hd key hkey := by
    have hnot : key ∉ identityKeys :=
      (show ∀ k ∈ snapshotKeys, k ∉ identityKeys by decide) _ hkey
    rw [hother _ hnot]
    exact h.noDiagnostics hd key hkey
  responders := by
    rw [hother _ (by decide)]
    exact h.responders

/-- One vehicle is kept anew, the others stay. -/
theorem shows_keep {vm' : ConnectionViewModel api} {selected : Option String} (h : Shows vm garage)
    (hq : vm'.profile v = some q) (hkept : Holds q kept)
    (hother : ∀ w, w ≠ v → vm'.profile w = vm.profile w) (hselected : vm'.storeSelectedVIN = selected) :
    Shows vm' { garage.keep v kept with selected := selected } where
  saved w kept' hw := by
    by_cases hwv : w = v
    · subst hwv
      obtain rfl : kept = kept' := Option.some.inj ((garage.keep_self w kept).symm.trans hw)
      exact ⟨q, hq, hkept⟩
    · rw [hother w hwv]
      exact h.saved w kept' ((garage.keep_other kept hwv).symm.trans hw)
  unsaved w hw := by
    by_cases hwv : w = v
    · subst hwv
      exact absurd hw (by simp)
    · rw [hother w hwv]
      exact h.unsaved w ((garage.keep_other kept hwv).symm.trans hw)
  selected := hselected

/-! ## The two blocks that save -/

/-- The name of a vehicle that has none yet. -/
def newName (vm : ConnectionViewModel api) (vin : String) : String :=
  if vm.selectedVehicleVIN = some vin then vm.profileDisplayName else "Jaguar vehicle · " ++ vin

/-- What recording a live VIN saves under it. -/
theorem recordLive_saved (vm : ConnectionViewModel api) (hcount : api.characterCount v = 17) :
    ∃ q, (vm.recordLive v).profile v = some q ∧ HoldsIdentity q vm.identity ∧
      q.string "displayName" = some ((vm.savedName v).getD (vm.newName v)) ∧
      ∀ key, key ∉ identityKeys → q key = vm.previous v key := by
  have hsaved : (vm.recordLive v).profile v = some _ := api.store.save_self ..
  refine ⟨_, hsaved, profileToSave_holdsIdentity, ?_, fun key hkey => ?_⟩
  · -- the name the block looks up is the one saved before: recording adds an empty profile at most
    have hname : ((api.store.profile (api.store.recordLiveVIN vm.vehicleProfileStore v) v).bind
        fun profile => profile.string "displayName") = vm.savedName v := by
      rcases api.store.record_self vm.vehicleProfileStore v with hsame | ⟨hnone, hempty⟩
      · rw [hsame]
        rfl
      · rw [hempty, savedName, profile, hnone]
        rfl
    have hnewName : (if api.sameVIN vm.selectedVehicleVIN (some v) then vm.profileDisplayName
        else "Jaguar vehicle · " ++ v) = vm.newName v :=
      if_congr (api.sameVIN_eq hcount _) rfl rfl
    rw [profileToSave_displayName, ← hname, ← hnewName]
    rfl
  · have hrecorded := recordLive_previous vm (v := v) hkey
    rw [previous, hsaved] at hrecorded
    exact hrecorded

/-- A vehicle is met. -/
theorem shows_recordLive (h : Shows vm garage) (hcount : api.characterCount v = 17) :
    Shows (vm.recordLive v) (garage.execute (.meet v (vm.newName v) vm.identity)) := by
  obtain ⟨q, hq, hidentity, hname, hother⟩ := recordLive_saved vm hcount
  have hkept : Holds q (garage.met v (vm.newName v) vm.identity) := by
    rw [Garage.met]
    cases hvehicle : garage.vehicles v with
    | some kept =>
      obtain ⟨p, hp, hholds⟩ := h.saved v kept hvehicle
      have hsavedName : vm.savedName v = some kept.displayName :=
        savedName_eq_some.mpr ⟨p, hp, hholds.displayName⟩
      rw [hsavedName] at hname
      have hprevious : vm.previous v = p := by rw [previous, hp, Option.getD_some]
      exact hholds.renew (fun key hkey => (hother key hkey).trans (congrFun hprevious key)) hname
        hidentity
    | none =>
      have hnone := h.unsaved v hvehicle
      have hsavedName : vm.savedName v = none := by rw [savedName, hnone, Option.bind_none]
      have hempty : ∀ key, key ∉ identityKeys → q key = none := by
        intro key hkey
        rw [hother key hkey, previous, hnone]
        rfl
      rw [hsavedName] at hname
      exact {
        displayName := hname
        identity := hidentity
        diagnostics := fun d hd => absurd hd (by simp)
        noDiagnostics := fun _ key hkey =>
          hempty key ((show ∀ k ∈ snapshotKeys, k ∉ identityKeys by decide) key hkey)
        responders := hempty _ (by decide) }
  exact shows_keep h hq hkept (fun w hw => recordLive_other vm hw)
    (recordLive_storeSelectedVIN vm v)

/-- A session reports on a vehicle. -/
theorem shows_recordReady (h : Shows vm garage) (v : String) :
    Shows (vm.recordReady v) (garage.execute (.report v vm.profileDisplayName vm.identity
      (vm.controller.snapshot api.uppercaseString) vm.controller.standardResponderProfiles)) := by
  have hsaved : (vm.recordReady v).profile v =
      some (vm.profileToSave v vm.profileDisplayName true) := api.store.save_self ..
  have hresponders : vm.previous v "standardResponderProfiles" =
      ((garage.vehicles v).bind (·.responders)).map .responders := by
    cases hvehicle : garage.vehicles v with
    | some kept =>
      obtain ⟨p, hp, hholds⟩ := h.saved v kept hvehicle
      rw [previous, hp]
      exact hholds.responders
    | none =>
      rw [previous, h.unsaved v hvehicle]
      rfl
  have hkept : Holds (vm.profileToSave v vm.profileDisplayName true)
      (garage.reported v vm.profileDisplayName vm.identity
        (vm.controller.snapshot api.uppercaseString) vm.controller.standardResponderProfiles) := {
    displayName := profileToSave_displayName
    identity := profileToSave_holdsIdentity
    diagnostics := by
      intro d hd
      obtain rfl := Option.some.inj hd
      exact profileToSave_holdsSnapshot vm v _
    noDiagnostics := fun hd => absurd hd (Option.some_ne_none _)
    responders := by
      rw [profileToSave_responders, Garage.reported]
      split
      · exact hresponders
      · rfl }
  exact shows_keep h hsaved hkept (fun w hw => recordReady_other vm hw)
    ((recordReady_storeSelectedVIN vm v).trans h.selected)

/-! ## Commands -/

/-- A live VIN that is not persisted yet is a vehicle that is met. -/
def meetCommands (vm : ConnectionViewModel api) : List GarageCommand :=
  match vm.liveVIN with
  | some liveVIN =>
    if vm.lastPersistedLiveVIN ≠ some liveVIN then
      [.meet liveVIN (vm.newName liveVIN) vm.identity]
    else []
  | none => []

/-- A ready session that is not persisted yet reports. -/
def reportCommands (vm : ConnectionViewModel api) : List GarageCommand :=
  match vm.liveVIN with
  | some liveVIN =>
    if vm.controller.shared.isReady = true ∧ vm.lastPersistedReadyVIN ≠ some liveVIN then
      [.report liveVIN vm.profileDisplayName vm.identity
        (vm.controller.snapshot api.uppercaseString) vm.controller.standardResponderProfiles]
    else []
  | none => []

/-- The commands a refresh gives: a vehicle is met, and then it may report. -/
def refreshCommands (vm : ConnectionViewModel api) : List GarageCommand :=
  vm.published.meetCommands ++ vm.published.persistLiveVIN.reportCommands

/-- An accepted selection. -/
def selectCommands (vm : ConnectionViewModel api) : Event → List GarageCommand
  | .selectSavedVehicle vin =>
    if vm.refreshes (.selectSavedVehicle vin) = true then [.select vin] else []
  | _ => []

/-- What an event asks of the garage. -/
def commands (vm : ConnectionViewModel api) (event : Event) : List GarageCommand :=
  vm.selectCommands event ++ if vm.refreshes event = true then (vm.quiet event).refreshCommands else []

/-- The first block meets the live vehicle, or does nothing. -/
theorem shows_persistLiveVIN (h : Shows vm garage) :
    Shows vm.persistLiveVIN (run Garage.execute garage vm.meetCommands) := by
  rw [meetCommands]
  cases hlive : vm.liveVIN with
  | some v =>
    rw [persistLiveVIN_some hlive]
    dsimp only
    by_cases hnew : vm.lastPersistedLiveVIN ≠ some v
    · rw [if_pos hnew, if_pos hnew]
      have hrecorded := shows_recordLive h (liveVIN_eq_some.mp hlive).2.2
      exact ⟨hrecorded.saved, hrecorded.unsaved, hrecorded.selected⟩
    · rw [if_neg hnew, if_neg hnew]
      exact h
  | none =>
    rw [persistLiveVIN_none hlive]
    exact h

/-- The second block of a refresh has the session's vehicle report, or does nothing. -/
theorem shows_persistReadyVIN (h : Shows vm garage) :
    Shows vm.persistReadyVIN (run Garage.execute garage vm.reportCommands) := by
  rw [reportCommands]
  cases hlive : vm.liveVIN with
  | some v =>
    rw [persistReadyVIN_some hlive]
    dsimp only
    by_cases hnew : vm.controller.shared.isReady = true ∧ vm.lastPersistedReadyVIN ≠ some v
    · rw [if_pos hnew, if_pos hnew]
      have hrecorded := shows_recordReady h v
      exact ⟨hrecorded.saved, hrecorded.unsaved, hrecorded.selected⟩
    · rw [if_neg hnew, if_neg hnew]
      exact h
  | none =>
    rw [persistReadyVIN_none hlive]
    exact h

/-- A refresh carries out its commands. -/
theorem shows_refresh (h : Shows vm garage) :
    Shows vm.refresh (run Garage.execute garage vm.refreshCommands) := by
  have hpublished : Shows vm.published garage := ⟨h.saved, h.unsaved, h.selected⟩
  have hpersisted := shows_persistReadyVIN (shows_persistLiveVIN hpublished)
  rw [refreshCommands, run_append]
  exact ⟨hpersisted.saved, hpersisted.unsaved, hpersisted.selected⟩

/-- An accepted selection moves the store's selection. -/
theorem quiet_accepted (h : vm.refreshes (.selectSavedVehicle v) = true) :
    (vm.quiet (.selectSavedVehicle v)).storeSelectedVIN = some v := by
  simp only [refreshes, Bool.and_eq_true, Bool.not_eq_true'] at h
  have hinactive : ¬vm.isActive = true := by simp [h.1]
  rw [quiet_selectSavedVehicle, if_neg hinactive, if_pos h.2]
  exact api.store.select_accepted _ _ h.2

/-- A refused selection leaves the store's selection as it is. -/
theorem quiet_refused (h : ¬vm.refreshes (.selectSavedVehicle v) = true) :
    (vm.quiet (.selectSavedVehicle v)).storeSelectedVIN = vm.storeSelectedVIN := by
  rw [quiet_selectSavedVehicle]
  by_cases hactive : vm.isActive = true
  · rw [if_pos hactive]
  · have hrefuse : (api.store.selectOfflineVehicle vm.vehicleProfileStore v).1 = false := by
      simpa [refreshes, hactive] using h
    have hrefused : ¬(api.store.selectOfflineVehicle vm.vehicleProfileStore v).1 = true := by
      simp [hrefuse]
    rw [if_neg hactive, if_neg hrefused]
    exact api.store.select_refused _ _ hrefuse

/-- Short of refreshing, an event can only select a vehicle. -/
theorem shows_quiet (h : Shows vm garage) (event : Event) :
    Shows (vm.quiet event) (run Garage.execute garage (vm.selectCommands event)) := by
  cases event with
  | selectSavedVehicle vin =>
    rw [selectCommands]
    have hprofile := quiet_profile vm (.selectSavedVehicle vin)
    by_cases hrefreshes : vm.refreshes (.selectSavedVehicle vin) = true
    · rw [if_pos hrefreshes]
      refine ⟨fun v kept hv => ?_, fun v hv => ?_, ?_⟩
      · rw [hprofile]
        exact h.saved v kept hv
      · rw [hprofile]
        exact h.unsaved v hv
      · exact quiet_accepted hrefreshes
    · rw [if_neg hrefreshes]
      refine ⟨fun v kept hv => ?_, fun v hv => ?_, ?_⟩
      · rw [hprofile]
        exact h.saved v kept hv
      · rw [hprofile]
        exact h.unsaved v hv
      · rw [quiet_refused hrefreshes]
        exact h.selected
  | beginConnection source =>
    show Shows (vm.beginConnection source) garage
    unfold beginConnection
    split
    · exact h
    · exact ⟨h.saved, h.unsaved, h.selected⟩
  | flowEvent _ | sharedChanged _ | refresh | disconnect => exact ⟨h.saved, h.unsaved, h.selected⟩

/-- **One event is carried out.** -/
theorem shows_step (vm : ConnectionViewModel api) (garage : Garage) (event : Event)
    (h : Shows vm garage) :
    Shows (vm.step event) (run Garage.execute garage (vm.commands event)) := by
  have hquiet := shows_quiet h event
  rw [step_eq, commands, run_append]
  split
  · exact shows_refresh hquiet
  · exact hquiet

/-! ## Runs -/

/-- Without a live VIN a refresh gives no command. -/
theorem shows_refresh_noLive (h : Shows vm garage) (hlive : vm.liveVIN = none) :
    Shows vm.refresh garage := by
  have hsame := refresh_sameSaved hlive
  refine ⟨fun v kept hv => ?_, fun v hv => ?_, hsame.selected.trans h.selected⟩
  · rw [hsame.profile]
    exact h.saved v kept hv
  · rw [hsame.profile]
    exact h.unsaved v hv

/-- At the start the view model shows an empty garage. -/
theorem shows_initial (api : AppleApi) (shared : LinkDiagnosticsController) :
    Shows (initial api shared) Garage.empty := by
  refine shows_refresh_noLive ⟨fun v kept hv => absurd hv (by simp [Garage.empty]),
    fun v _ => api.store.empty_profile v, api.store.empty_selected⟩ ?_
  -- a new controller has no VIN, active or not
  unfold liveVIN
  split <;> rfl

/-- The garage after a run on a fresh install. -/
def garageAfter (api : AppleApi) (shared : LinkDiagnosticsController) (events : List Event) :
    Garage :=
  run Garage.execute Garage.empty (issued step commands (initial api shared) events)

/-- **In every run the view model shows the garage of its commands.** -/
theorem shows_run (api : AppleApi) (shared : LinkDiagnosticsController) (events : List Event) :
    Shows (run step (initial api shared) events) (garageAfter api shared events) :=
  run_carries_out step Garage.execute commands shows_step (shows_initial api shared) events

/-- **The view model carries out the garage.**  After any run on a fresh install the store holds
    exactly what the garage keeps after the commands of the run, and if the garage keeps the
    selected vehicle, a refresh with the controller inactive publishes the view of that vehicle. -/
theorem garage_carried_out (api : AppleApi) (shared : LinkDiagnosticsController)
    (events : List Event) :
    Shows (run step (initial api shared) events) (garageAfter api shared events) ∧
    ∀ v kept, (garageAfter api shared events).selected = some v →
      (garageAfter api shared events).vehicles v = some kept →
      (run step (initial api shared) events).controllerActive = false →
      (run step (initial api shared) events).refresh.offlineView = kept.view v := by
  have hshows := shows_run api shared events
  refine ⟨hshows, fun v kept hselected hkept hinactive => ?_⟩
  have hrun : Reachable step (initial api shared) (run step (initial api shared) events) :=
    ⟨events, rfl⟩
  obtain ⟨p, hp, hholds⟩ := hshows.saved v kept hkept
  have hstore : (run step (initial api shared) events).storeSelectedVIN = some v :=
    hshows.selected.trans hselected
  have hprofile : (run step (initial api shared) events).selectedProfile = some p := by
    rw [selectedProfile, hstore]
    exact hp
  rw [refresh_savedView (reachable_savedFromVin hrun) hinactive hprofile, hstore]
  exact hholds.savedView v

/-! ## Where saved diagnostics come from -/

/-- The step saves the controller's diagnostics under `v`. -/
def SavesUnder (v : String) (vm : ConnectionViewModel api) (event : Event) : Prop :=
  vm.refreshes event = true ∧ (vm.quiet event).SavesSnapshot v

/-- After the block that persists a live VIN, the ready marker is open exactly if one of the two
    markers was. -/
theorem persistLiveVIN_unsaved_iff (hlive : vm.liveVIN = some v) :
    vm.persistLiveVIN.lastPersistedReadyVIN ≠ some v ↔
      vm.lastPersistedLiveVIN ≠ some v ∨ vm.lastPersistedReadyVIN ≠ some v := by
  refine ⟨fun hready => ?_, persistLiveVIN_unsaved hlive⟩
  rcases persistLiveVIN_cases vm with ⟨hsame, -⟩ | ⟨u, hu, hnew, -⟩
  · rw [hsame] at hready
    exact Or.inr hready
  · obtain rfl : v = u := Option.some.inj (hlive.symm.trans hu)
    exact Or.inl hnew

/-- The first block changes nothing about which vehicle is live. -/
theorem published_persistLiveVIN_liveVIN (vm : ConnectionViewModel api) :
    vm.published.persistLiveVIN.liveVIN = vm.liveVIN :=
  liveVIN_congr (persistLiveVIN_controller vm.published)

/-- Meeting a vehicle is no report. -/
theorem not_report_of_meet {c : GarageCommand} (hc : c ∈ vm.meetCommands) :
    Garage.reportOn v c = none := by
  rw [meetCommands] at hc
  split at hc
  · split at hc
    · rw [List.mem_singleton.mp hc]
      rfl
    · cases hc
  · cases hc

/-- Selecting one is no report. -/
theorem not_report_of_select {event : Event} {c : GarageCommand} (hc : c ∈ vm.selectCommands event) :
    Garage.reportOn v c = none := by
  unfold selectCommands at hc
  split at hc
  · split at hc
    · rw [List.mem_singleton.mp hc]
      rfl
    · cases hc
  · cases hc

/-- A report among the commands of a refresh is on the vehicle whose diagnostics it saves. -/
theorem savesSnapshot_of_report {c : GarageCommand} {diagnostics : DiagnosticSnapshot}
    (hc : c ∈ vm.refreshCommands) (hreport : Garage.reportOn v c = some diagnostics) :
    vm.SavesSnapshot v ∧ diagnostics = vm.controller.snapshot api.uppercaseString := by
  rcases List.mem_append.mp hc with hc | hc
  · rw [not_report_of_meet hc] at hreport
    cases hreport
  rw [reportCommands, published_persistLiveVIN_liveVIN, persistLiveVIN_controller] at hc
  cases hvin : vm.liveVIN with
  | none =>
    rw [hvin] at hc
    cases hc
  | some u =>
    rw [hvin] at hc
    dsimp only at hc
    split at hc
    · rename_i hopen
      rw [List.mem_singleton.mp hc, Garage.reportOn] at hreport
      split at hreport
      · rename_i huv
        subst huv
        have hpublished : vm.published.liveVIN = some u := hvin
        exact ⟨⟨hvin, hopen.1, (persistLiveVIN_unsaved_iff hpublished).mp hopen.2⟩,
          (Option.some.inj hreport).symm⟩
      · cases hreport
    · cases hc

/-- A refresh that saves diagnostics reports them. -/
theorem report_of_savesSnapshot (h : vm.SavesSnapshot v) :
    ∃ c ∈ vm.refreshCommands,
      Garage.reportOn v c = some (vm.controller.snapshot api.uppercaseString) := by
  have hpublished : vm.published.liveVIN = some v := h.live
  have hunsaved : vm.published.persistLiveVIN.lastPersistedReadyVIN ≠ some v :=
    (persistLiveVIN_unsaved_iff hpublished).mpr h.unsaved
  have hready : vm.published.controller.shared.isReady = true := h.ready
  have hcommands : vm.published.persistLiveVIN.reportCommands =
      [.report v vm.published.persistLiveVIN.profileDisplayName vm.published.persistLiveVIN.identity
        (vm.controller.snapshot api.uppercaseString) vm.controller.standardResponderProfiles] := by
    rw [reportCommands, published_persistLiveVIN_liveVIN, persistLiveVIN_controller, h.live]
    dsimp only
    rw [if_pos ⟨hready, hunsaved⟩]
    rfl
  rw [refreshCommands, hcommands]
  exact ⟨_, List.mem_append_right _ (List.mem_singleton_self _), if_pos rfl⟩

/-- An event reports on a vehicle exactly if it saves diagnostics under its VIN. -/
theorem event_reports_iff {event : Event} {diagnostics : DiagnosticSnapshot} :
    (∃ c ∈ vm.commands event, Garage.reportOn v c = some diagnostics) ↔
      SavesUnder v vm event ∧ diagnostics = vm.controller.snapshot api.uppercaseString := by
  constructor
  · rintro ⟨c, hc, hreport⟩
    rcases List.mem_append.mp hc with hc | hc
    · rw [not_report_of_select hc] at hreport
      cases hreport
    · split at hc
      · rename_i hrefreshes
        have hsaves := savesSnapshot_of_report hc hreport
        rw [quiet_controller hrefreshes] at hsaves
        exact ⟨⟨hrefreshes, hsaves.1⟩, hsaves.2⟩
      · cases hc
  · rintro ⟨⟨hrefreshes, hsaves⟩, rfl⟩
    have hreport := report_of_savesSnapshot hsaves
    rw [quiet_controller hrefreshes] at hreport
    obtain ⟨c, hc, hreport⟩ := hreport
    refine ⟨c, List.mem_append_right _ ?_, hreport⟩
    rwa [if_pos hrefreshes]

/-- Where no command reports on `v`, no step saves under it. -/
theorem meets_of_leaves {events : List Event} {garage : Garage}
    (h : Meets Garage.execute (Garage.diagnosticsOf v).Leaves garage
      (issued step commands vm events)) :
    Meets step (fun vm event => ¬SavesUnder v vm event) vm events := by
  have hnone : ∀ c ∈ issued step commands vm events, Garage.reportOn v c = none := by
    refine (meets_const Garage.execute).mp (h.imp fun garage c hc => ?_)
    exact Option.map_eq_none_iff.mp hc
  refine ((forall_issued step commands).mp hnone).imp fun vm event hcommands hsaves => ?_
  obtain ⟨c, hc, hreport⟩ := event_reports_iff.mpr ⟨hsaves, rfl⟩
  rw [hcommands c hc] at hreport
  cases hreport

/-- **Saved diagnostics are from one moment.**  In any run on a fresh install, either no step has
    saved diagnostics under `v` and its profile has none of their keys; or one step was the last to
    do so, and the profile holds all seventeen texts as the controller had them at that step. -/
theorem diagnostics_from_one_moment (api : AppleApi) (shared : LinkDiagnosticsController)
    (events : List Event) (v : String) :
    (Meets step (fun vm event => ¬SavesUnder v vm event) (initial api shared) events ∧
      ∀ p, (run step (initial api shared) events).profile v = some p →
        ∀ key ∈ snapshotKeys, p key = none) ∨
    ∃ before event later, events = before ++ event :: later ∧
      SavesUnder v (run step (initial api shared) before) event ∧
      Meets step (fun vm event => ¬SavesUnder v vm event)
        (run step (initial api shared) (before ++ [event])) later ∧
      ∃ p, (run step (initial api shared) events).profile v = some p ∧
        HoldsSnapshot p
          ((run step (initial api shared) before).controller.snapshot api.uppercaseString) := by
  have hshows := shows_run api shared events
  rcases (Garage.diagnosticsOf v).run_get_cases Garage.empty
    (issued step commands (initial api shared) events) with ⟨hleaves, hget⟩ | hwritten
  · -- no report was issued: what is kept of the vehicle has no diagnostics, nor has its profile
    refine Or.inl ⟨meets_of_leaves hleaves, fun p hp => ?_⟩
    have hget : ((garageAfter api shared events).vehicles v).bind (·.diagnostics) = none := hget
    cases hkept : (garageAfter api shared events).vehicles v with
    | none =>
      rw [hshows.unsaved v hkept] at hp
      cases hp
    | some kept =>
      obtain ⟨q, hq, hholds⟩ := hshows.saved v kept hkept
      obtain rfl : q = p := Option.some.inj (hq.symm.trans hp)
      rw [hkept] at hget
      exact hholds.noDiagnostics hget
  · -- the last report was issued by one step, and the profile holds what it carries
    obtain ⟨pre, c, post, hissued, hwrites, hpost⟩ := hwritten
    obtain ⟨diagnostics, hreport, hget⟩ := Option.map_eq_some_iff.mp hwrites
    obtain ⟨before, event, later, rest, hevents, ⟨early, hcommands⟩, hlater⟩ :=
      issued_eq_append_cons step commands hissued
    have hc : c ∈ (run step (initial api shared) before).commands event := by
      rw [hcommands]
      exact List.mem_append_right _ List.mem_cons_self
    obtain ⟨hsaves, hdiagnostics⟩ := event_reports_iff.mp ⟨c, hc, hreport⟩
    refine Or.inr ⟨before, event, later, hevents, hsaves, ?_, ?_⟩
    · rw [hlater, meets_append] at hpost
      exact meets_of_leaves hpost.2
    · have hget : some diagnostics =
          ((garageAfter api shared events).vehicles v).bind (·.diagnostics) := hget
      obtain ⟨kept, hkept, hd⟩ := Option.bind_eq_some_iff.mp hget.symm
      obtain ⟨p, hp, hholds⟩ := hshows.saved v kept hkept
      refine ⟨p, hp, ?_⟩
      rw [← hdiagnostics]
      exact hholds.diagnostics diagnostics hd

end ConnectionViewModel

end Jaglink
