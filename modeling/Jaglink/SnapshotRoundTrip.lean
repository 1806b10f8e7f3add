/-
  A saved session comes back as it was.

  1. **Programs** — the texts of a ready session are written by `saveVehicleProfile`, one dictionary
     key each, into whatever the vehicle's profile already holds, and read back in two other places:
     the identity by `publishIdentity`, the diagnostics by `restoreSavedDiagnosticSnapshot`, each
     field by its key with a cast and a fallback.

  2. **Encoder and decoder** — `restore_holdsSnapshot` and `restore_holdsIdentity` say the two agree
     on every key and every type, whatever profile lies underneath: a profile that holds a snapshot
     is read as that snapshot, and no fallback is used.

  3. **What a save leaves alone** — every key that is not assigned keeps its value, and the
     responders keep theirs exactly when the session has none (`profileToSave_true_other`,
     `profileToSave_responders`).

  4. **Result (`snapshot_roundTrip`)** carries that through a refresh that saves and a later one
     that restores.  The refresh that saves also records the live VIN if it is new; that save
     assigns identity keys only (`persistLiveVIN_previous`), so what it finds in the profile is the
     old one.
-/
import Jaglink.OfflineView

namespace Jaglink

open CLib Runs

/-! ## Encoder and decoder -/

namespace ConnectionViewModel

variable {api : AppleApi} {vm next : ConnectionViewModel api} {v name key : String}

/-- The profile carries these diagnostics. -/
def HoldsSnapshot (p : Profile) (snapshot : DiagnosticSnapshot) : Prop :=
  ∀ entry ∈ snapshotEntries snapshot, p entry.1 = some entry.2

/-- Every field is read under the key and at the type it is written with; no fallback is used. -/
theorem restore_holdsSnapshot {p : Profile} {snapshot : DiagnosticSnapshot}
    (h : HoldsSnapshot p snapshot) : restoreSavedDiagnosticSnapshot p = snapshot := by
  simp only [HoldsSnapshot, snapshotEntries, List.forall_mem_cons] at h
  simp only [restoreSavedDiagnosticSnapshot, Profile.string, Profile.strings, h, Option.getD_some]

/-- The texts are read under the keys they are written with. -/
theorem restore_holdsIdentity {p : Profile} {identity : VehicleIdentity}
    (h : HoldsIdentity p identity) : savedIdentity p = identity := by
  rw [savedIdentity, h.platform, h.configuration, h.powertrain, h.build]
  rfl

/-! ## What is in the saved dictionary -/

/-- The profile a save starts from. -/
def previous (vm : ConnectionViewModel api) (v : String) : Profile :=
  (vm.profile v).getD Profile.empty

/-- The diagnostics survive the responders, which have a key of their own. -/
theorem profileToSave_holdsSnapshot (vm : ConnectionViewModel api) (v name : String) :
    HoldsSnapshot (vm.profileToSave v name true) (vm.controller.snapshot api.uppercaseString) := by
  intro entry hentry
  have hkey : entry.1 ∈ snapshotKeys := List.mem_map_of_mem (f := Prod.fst) hentry
  have hresponders : entry.1 ≠ "standardResponderProfiles" :=
    (show ∀ k ∈ snapshotKeys, k ≠ "standardResponderProfiles" by decide) _ hkey
  have hkeys : ((snapshotEntries (vm.controller.snapshot api.uppercaseString)).map Prod.fst).Nodup :=
    show snapshotKeys.Nodup by decide
  show ((Profile.setAll _ (snapshotEntries _)).setAll (responderEntries _)) entry.1 = some entry.2
  rw [Profile.setAll_other (responderEntries_keys _ hresponders)]
  exact Profile.setAll_mem hkeys hentry _

/-- A save without diagnostics assigns the identity keys only. -/
theorem profileToSave_false_other (hidentity : key ∉ identityKeys) :
    vm.profileToSave v name false key = vm.previous v key :=
  Profile.setAll_other hidentity _

/-- A save with diagnostics keeps what lies under any other key. -/
theorem profileToSave_true_other (hidentity : key ∉ identityKeys) (hsnapshot : key ∉ snapshotKeys)
    (hresponders : key ≠ "standardResponderProfiles") :
    vm.profileToSave v name true key = vm.previous v key := by
  show (((vm.previous v).setAll (identityEntries _ _)).setAll (snapshotEntries _)).setAll
    (responderEntries _) key = _
  rw [Profile.setAll_other (responderEntries_keys _ hresponders), Profile.setAll_other hsnapshot,
    Profile.setAll_other hidentity]

/-- The responders are replaced by the new ones, if there are any. -/
theorem profileToSave_responders (vm : ConnectionViewModel api) (v name : String) :
    vm.profileToSave v name true "standardResponderProfiles" =
      if vm.controller.standardResponderProfiles = [] then vm.previous v "standardResponderProfiles"
      else some (.responders vm.controller.standardResponderProfiles) := by
  have hidentity : "standardResponderProfiles" ∉ identityKeys := by decide
  have hsnapshot : "standardResponderProfiles" ∉ snapshotKeys := by decide
  show (((vm.previous v).setAll (identityEntries _ _)).setAll (snapshotEntries _)).setAll
    (responderEntries _) _ = _
  rw [responderEntries]
  split
  · show ((vm.previous v).setAll (identityEntries _ _)).setAll (snapshotEntries _) _ = _
    rw [Profile.setAll_other hsnapshot, Profile.setAll_other hidentity]
  · exact Profile.setAll_mem (by simp) (List.mem_singleton_self _) _

/-! ## A refresh that saves the snapshot -/

/-- What makes a refresh save the diagnostic snapshot under `v`: an active, ready controller with
    the live VIN `v`, and a marker that does not say it is done.  A live VIN that is new clears the
    ready marker first. -/
structure SavesSnapshot (vm : ConnectionViewModel api) (v : String) : Prop where
  live : vm.liveVIN = some v
  ready : vm.controller.shared.isReady = true
  unsaved : vm.lastPersistedLiveVIN ≠ some v ∨ vm.lastPersistedReadyVIN ≠ some v

/-- Recording a live VIN leaves every key but the identity's as it was. -/
theorem recordLive_previous (vm : ConnectionViewModel api) (hkey : key ∉ identityKeys) :
    (vm.recordLive v).previous v key = vm.previous v key := by
  have hrecorded : (api.store.profile (api.store.recordLiveVIN vm.vehicleProfileStore v) v).getD
      Profile.empty = vm.previous v := by
    rcases api.store.record_self vm.vehicleProfileStore v with hsame | ⟨hnone, hempty⟩
    · rw [hsame]
      rfl
    · rw [hempty, previous, profile, hnone]
      rfl
  have hsaved : (vm.recordLive v).profile v = some _ := api.store.save_self ..
  rw [previous, hsaved, Option.getD_some, profileToSave_false_other hkey, ← hrecorded]
  rfl

/-- The first block assigns identity keys only. -/
theorem persistLiveVIN_previous (vm : ConnectionViewModel api) (hlive : vm.liveVIN = some v)
    (hkey : key ∉ identityKeys) : vm.persistLiveVIN.previous v key = vm.previous v key := by
  rcases persistLiveVIN_cases vm with ⟨hsame, -⟩ | ⟨u, hu, -, hrecord⟩
  · rw [hsame]
  · obtain rfl : v = u := Option.some.inj (hlive.symm.trans hu)
    rw [hrecord, previous, refreshSavedVehicleProfiles_profile]
    exact recordLive_previous vm hkey

/-- The first block leaves the published texts as they are. -/
theorem persistLiveVIN_identity (vm : ConnectionViewModel api) :
    vm.persistLiveVIN.identity = vm.identity := by
  rcases persistLiveVIN_cases vm with ⟨hsame, -⟩ | ⟨u, -, -, hrecord⟩
  · rw [hsame]
  · rw [hrecord]
    rfl

/-- After the block that persists a live VIN, the ready marker is cleared or both are as before. -/
theorem persistLiveVIN_unsaved (hlive : vm.liveVIN = some v)
    (h : vm.lastPersistedLiveVIN ≠ some v ∨ vm.lastPersistedReadyVIN ≠ some v) :
    vm.persistLiveVIN.lastPersistedReadyVIN ≠ some v := by
  rcases persistLiveVIN_cases vm with ⟨hsame, hmarked⟩ | ⟨u, -, -, hrecord⟩
  · rw [hsame]
    exact h.resolve_left (not_not_intro (hmarked v hlive))
  · rw [hrecord]
    intro hready
    cases hready

/-- **Such a refresh saves the snapshot**, as the last thing it writes. -/
theorem refresh_profile_of_savesSnapshot (h : vm.SavesSnapshot v) :
    vm.refresh.profile v = some (vm.published.persistLiveVIN.profileToSave v
      vm.published.persistLiveVIN.profileDisplayName true) := by
  have hpublished : vm.published.liveVIN = some v := h.live
  have hlive : vm.published.persistLiveVIN.liveVIN = some v := by
    rw [liveVIN_congr (persistLiveVIN_controller vm.published), hpublished]
  have hready : vm.published.persistLiveVIN.controller.shared.isReady = true := by
    rw [persistLiveVIN_controller]
    exact h.ready
  have hunsaved : vm.published.persistLiveVIN.lastPersistedReadyVIN ≠ some v :=
    persistLiveVIN_unsaved hpublished h.unsaved
  have hblock : vm.published.persistLiveVIN.persistReadyVIN =
      (vm.published.persistLiveVIN.recordReady v).refreshSavedVehicleProfiles := by
    rw [persistReadyVIN_some hlive]
    exact if_pos ⟨hready, hunsaved⟩
  rw [refresh_profile, persisted, hblock]
  exact api.store.save_self ..

/-- **Saving and restoring a session.**  Let a refresh save the diagnostic snapshot under `v`.  A
    later refresh that finds the controller inactive, `v` selected and its profile as it was saved
    publishes the controller's four identity texts and seventeen diagnostic fields of the time of
    the save.  In the profile every key that is not assigned keeps its value, and the responders
    keep theirs exactly when there are no new ones. -/
theorem snapshot_roundTrip (h : vm.SavesSnapshot v) :
    (∀ next : ConnectionViewModel api, next.controllerActive = false →
      next.storeSelectedVIN = some v → next.profile v = vm.refresh.profile v →
      next.refresh.identity = vm.controller.identity ∧
      next.refresh.snapshot = vm.controller.snapshot api.uppercaseString) ∧
    ∃ saved, vm.refresh.profile v = some saved ∧
      (∀ key, key ∉ identityKeys → key ∉ snapshotKeys → key ≠ "standardResponderProfiles" →
        saved key = vm.previous v key) ∧
      saved "standardResponderProfiles" =
        if vm.controller.standardResponderProfiles = [] then
          vm.previous v "standardResponderProfiles"
        else some (.responders vm.controller.standardResponderProfiles) := by
  have hsaved := refresh_profile_of_savesSnapshot h
  have hcontroller : vm.published.persistLiveVIN.controller = vm.controller :=
    persistLiveVIN_controller vm.published
  have hactive : vm.controllerActive = true := (liveVIN_eq_some.mp h.live).1
  have hidentity : vm.published.persistLiveVIN.identity = vm.controller.identity := by
    rw [persistLiveVIN_identity]
    exact if_pos hactive
  have hprevious : ∀ key, key ∉ identityKeys →
      vm.published.persistLiveVIN.previous v key = vm.previous v key := by
    have hlive : vm.published.liveVIN = some v := h.live
    exact fun key hkey => persistLiveVIN_previous vm.published hlive hkey
  constructor
  · intro next hinactive hselected hsame
    have hprofile : next.selectedProfile = vm.refresh.profile v := by
      rw [selectedProfile, hselected, ← hsame]
      rfl
    rw [refresh_offline_identity hinactive, refresh_offline_snapshot hinactive, hprofile, hsaved]
    constructor
    · rw [← hidentity]
      exact restore_holdsIdentity profileToSave_holdsIdentity
    · rw [← hcontroller]
      exact restore_holdsSnapshot (profileToSave_holdsSnapshot _ _ _)
  · refine ⟨_, hsaved, fun key hkey hsnapshot hresponders => ?_, ?_⟩
    · rw [profileToSave_true_other hkey hsnapshot hresponders, hprevious key hkey]
    · rw [profileToSave_responders, hcontroller, hprevious _ (by decide)]

/-- A profile saved before, with a responder and the time of that save. -/
def oldProfile : Profile := Profile.empty.setAll
  [("displayName", .string "Estate"), ("updatedAt", .number 4742290407621132288),
    ("obdProtocolText", .string "ISO 9141-2"),
    ("standardResponderProfiles", .responders [⟨0x7e8, false, [0x0c]⟩])]

/-- An install that has it in its store. -/
def oldInstall : ConnectionViewModel AppleApi.memory :=
  { initial AppleApi.memory .idle with
    vehicleProfileStore := AppleApi.memory.store.saveProfile AppleApi.memory.store.empty oldProfile
      "SAJAA51K83YC00001" }

/-- LINK is ready, with diagnostics collected from these responders. -/
def collected (responders : List ResponderProfile) : LinkDiagnosticsController :=
  { LinkDiagnosticsController.inSession true with
    obdProtocolText := "ISO 15765-4"
    faultScanStatusText := "1 stored"
    storedDTCs := ["p0420"]
    freezeFrameContext := ["2210 rpm"]
    diagnosticFlow := some responders }

/-- A session that reads the vehicle and becomes ready. -/
def readyRun (responders : List ResponderProfile) : List Event :=
  [.beginConnection .automatic, .flowEvent (some (.standardVin true (text "SAJAA51K83YC00001"))),
    .sharedChanged (collected responders)]

/-- Such a session is saved, whatever its responders. -/
theorem readyRun_savesSnapshot (responders : List ResponderProfile) :
    SavesSnapshot (run step oldInstall (readyRun responders)) "SAJAA51K83YC00001" := by
  refine ⟨rfl, rfl, Or.inl fun hlive => ?_⟩
  cases hlive

/-- The session is saved over the old profile, ended and shown again.  The old time stays; the old
    responder gives way to a new one, and stays if there is none. -/
theorem snapshot_roundTrip_overOldProfile :
    ∃ saved kept : Profile,
      (run step oldInstall
        (readyRun [⟨0x7e9, true, [0x0d]⟩] ++ [.refresh, .sharedChanged .idle, .refresh])).snapshot =
        (JagLinkDiagnosticsController.initial
          (collected [⟨0x7e9, true, [0x0d]⟩])).snapshot String.toUpper ∧
      (run step oldInstall (readyRun [⟨0x7e9, true, [0x0d]⟩] ++ [.refresh])).profile
        "SAJAA51K83YC00001" = some saved ∧
      saved "updatedAt" = some (.number 4742290407621132288) ∧
      saved "standardResponderProfiles" = some (.responders [⟨0x7e9, true, [0x0d]⟩]) ∧
      (run step oldInstall (readyRun [] ++ [.refresh])).profile "SAJAA51K83YC00001" = some kept ∧
      kept "standardResponderProfiles" = some (.responders [⟨0x7e8, false, [0x0c]⟩]) := by
  obtain ⟨hrestores, saved, hsaved, hother, hnew⟩ :=
    snapshot_roundTrip (readyRun_savesSnapshot [⟨0x7e9, true, [0x0d]⟩])
  obtain ⟨-, kept, hkept, -, hold⟩ := snapshot_roundTrip (readyRun_savesSnapshot [])
  -- the view model that is refreshed again once the session is over
  obtain ⟨-, hsnapshot⟩ := hrestores ((run step oldInstall
    (readyRun [⟨0x7e9, true, [0x0d]⟩])).refresh.step (.sharedChanged .idle)) rfl rfl rfl
  rw [run_append, run_append, run_append]
  refine ⟨saved, kept, hsnapshot, hsaved, ?_, hnew, hkept, hold⟩
  rw [hother _ (by decide) (by decide) (by decide)]
  rfl

end ConnectionViewModel

end Jaglink
