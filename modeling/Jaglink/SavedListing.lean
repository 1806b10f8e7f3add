/-
  The list of saved vehicles and the name of the selected one.

  1. **Program** — `refreshSavedVehicleProfiles` copies the store's list, selection and name into
     published fields; `selectSavedVehicle` changes the store between two refreshes.

  2. **Specification (`ListsSaved`)** — the published list has one row for each saved vehicle, with
     its VIN and name, the published selection is the store's, and the name on screen is that of the
     selected vehicle wherever it is shown.

  3. **Result (`savedVehicles_listed`)** — these copies cannot go stale: whatever changes the store
     in between refreshes, short of a selection the store refuses (`quiet_unlisted`).

  4. The saved names come down from the garage (`Shows`), so what the list says of a vehicle is what
     the garage keeps of it.
-/
import Jaglink.SessionVin

namespace Jaglink

open CLib Runs

namespace ConnectionViewModel

variable {api : AppleApi} {vm : ConnectionViewModel api} {garage : Garage} {v : String}

/-- `selectedVehicleDisplayName`: the name of the first row with the selected VIN. -/
def selectedVehicleDisplayName (vm : ConnectionViewModel api) : String :=
  match vm.selectedVehicleVIN with
  | some selectedVehicleVIN =>
    ((vm.savedVehicleProfiles.find? fun row => api.sameText row.vin selectedVehicleVIN).map
      (·.displayName)).getD "Jaguar vehicle"
  | none => "No vehicle loaded"

/-- The published list, selection and name are those of the store. -/
structure ListsSaved (vm : ConnectionViewModel api) : Prop where
  named : ∀ row ∈ vm.savedVehicleProfiles, vm.savedName row.vin = some row.displayName
  listed : ∀ v, vm.profile v ≠ none → ∃ row ∈ vm.savedVehicleProfiles, row.vin = v
  selected : vm.selectedVehicleVIN = vm.storeSelectedVIN
  shown : ∀ v, vm.storeSelectedVIN = some v → vm.profile v ≠ none →
    vm.savedName v = some vm.profileDisplayName

/-- Every saved profile has a name. -/
theorem Shows.named {p : Profile} (h : Shows vm garage) (hp : vm.profile v = some p) :
    ∃ name, p.string "displayName" = some name := by
  cases hkept : garage.vehicles v with
  | none =>
    rw [h.unsaved v hkept] at hp
    cases hp
  | some kept =>
    obtain ⟨q, hq, hholds⟩ := h.saved v kept hkept
    obtain rfl : q = p := Option.some.inj (hq.symm.trans hp)
    exact ⟨kept.displayName, hholds.displayName⟩

/-- A listed row carries the VIN and the name of a saved profile. -/
theorem summary_saved {d : Profile} {row : JagSavedVehicleProfileSummary}
    (hshows : Shows vm garage) (hd : d ∈ api.store.savedProfiles vm.vehicleProfileStore)
    (hrow : vm.summary d = some row) : vm.savedName row.vin = some row.displayName := by
  unfold summary at hrow
  split at hrow
  · rename_i vin hvin
    split at hrow
    · obtain rfl := Option.some.inj hrow
      obtain ⟨p, hp, hname⟩ := api.store.saved_of_listed _ d vin hd hvin
      have hprofile : vm.profile vin = some p := hp
      obtain ⟨name, hnamed⟩ := hshows.named hprofile
      rw [savedName, hprofile, hname, Option.bind_some, hnamed]
      rfl
    · cases hrow
  · cases hrow

/-- A refresh lists what is saved. -/
theorem refresh_listsSaved (hsaved : vm.SavedFromVin) (hshows : Shows vm.refresh garage) :
    vm.refresh.ListsSaved where
  named row hrow := by
    have hprofiles := (persisted_listed vm).profiles
    rw [show vm.refresh.savedVehicleProfiles = vm.persisted.savedVehicleProfiles from rfl,
      hprofiles] at hrow
    obtain ⟨d, hd, hsummary⟩ := List.mem_filterMap.mp hrow
    exact summary_saved hshows hd hsummary
  listed v hv := by
    obtain ⟨p, hp⟩ := Option.ne_none_iff_exists'.mp hv
    have hcount := ((refresh_savedFromVin hsaved).saved v p hp).1
    obtain ⟨row, hrow, -⟩ := find?_savedProfiles hp hcount
    have hprofiles := (persisted_listed vm).profiles
    refine ⟨row, ?_, by simpa using List.find?_some hrow⟩
    rw [show vm.refresh.savedVehicleProfiles = vm.persisted.savedVehicleProfiles from rfl, hprofiles]
    exact List.mem_of_find?_eq_some hrow
  selected := refresh_selected vm
  shown v hselected hv := by
    obtain ⟨p, hp⟩ := Option.ne_none_iff_exists'.mp hv
    have hcount := ((refresh_savedFromVin hsaved).saved v p hp).1
    have hname := refreshSavedVehicleProfiles_displayName hselected hp hcount
    rw [(refresh_settled vm).listed] at hname
    obtain ⟨name, hnamed⟩ := hshows.named hp
    rw [savedName, hp, hname, Option.bind_some, hnamed]
    rfl

/-- A refused selection leaves the list as it is. -/
theorem quiet_unlisted {vin : String} (h : ¬vm.refreshes (.selectSavedVehicle vin) = true) :
    (vm.quiet (.selectSavedVehicle vin)).savedVehicleProfiles = vm.savedVehicleProfiles ∧
      (vm.quiet (.selectSavedVehicle vin)).selectedVehicleVIN = vm.selectedVehicleVIN ∧
      (vm.quiet (.selectSavedVehicle vin)).profileDisplayName = vm.profileDisplayName := by
  rw [quiet_selectSavedVehicle]
  by_cases hactive : vm.isActive = true
  · rw [if_pos hactive]
    exact ⟨rfl, rfl, rfl⟩
  · have hrefuse : ¬(api.store.selectOfflineVehicle vm.vehicleProfileStore vin).1 = true := by
      simpa [refreshes, hactive] using h
    rw [if_neg hactive, if_neg hrefuse]
    exact ⟨rfl, rfl, rfl⟩

/-- An event that does not refresh touches neither side. -/
theorem quiet_listsSaved {event : Event} (h : vm.ListsSaved) (hquiet : ¬vm.refreshes event = true) :
    (vm.quiet event).ListsSaved := by
  cases event with
  | selectSavedVehicle vin =>
    have hstore := quiet_refused hquiet
    have hprofile := quiet_profile vm (.selectSavedVehicle vin)
    obtain ⟨hprofiles, hselected, hname⟩ := quiet_unlisted hquiet
    have hsavedName : ∀ w, (vm.quiet (.selectSavedVehicle vin)).savedName w = vm.savedName w :=
      fun w => savedName_congr (hprofile w)
    refine ⟨fun row hrow => ?_, fun v hv => ?_, ?_, fun v hv hsaved => ?_⟩
    · rw [hsavedName]
      exact h.named row (hprofiles ▸ hrow)
    · rw [hprofiles]
      exact h.listed v (hprofile v ▸ hv)
    · rw [hselected, hstore]
      exact h.selected
    · rw [hsavedName, hname]
      exact h.shown v (hstore ▸ hv) (hprofile v ▸ hsaved)
  | beginConnection source =>
    show (vm.beginConnection source).ListsSaved
    unfold beginConnection
    split
    · exact h
    · exact ⟨h.named, h.listed, h.selected, h.shown⟩
  | flowEvent _ | sharedChanged _ | refresh | disconnect =>
    exact ⟨h.named, h.listed, h.selected, h.shown⟩

/-- In every state of every run the list is that of the saved vehicles. -/
theorem run_listsSaved (api : AppleApi) (shared : LinkDiagnosticsController) (events : List Event) :
    (run step (initial api shared) events).ListsSaved := by
  induction events using List.reverseRecOn with
  | nil =>
    have hsettled : (initial api shared).refresh = initial api shared := refresh_refresh _
    have hshows : Shows (initial api shared).refresh Garage.empty :=
      hsettled.symm ▸ shows_initial api shared
    exact hsettled ▸ refresh_listsSaved (initial_savedFromVin api shared) hshows
  | append_singleton events event ih =>
    have hrun : Reachable step (initial api shared) (run step (initial api shared) events) :=
      ⟨events, rfl⟩
    have hsaved := reachable_savedFromVin hrun
    have hshows := shows_run api shared (events ++ [event])
    rw [run_snoc, step_eq] at hshows ⊢
    split at hshows
    · rename_i hrefreshes
      rw [if_pos hrefreshes]
      exact refresh_listsSaved (quiet_savedFromVin hsaved hrefreshes) hshows
    · rename_i hquiet
      rw [if_neg hquiet]
      exact quiet_listsSaved ih hquiet

/-- The name shown for a selected saved vehicle is its saved name. -/
theorem ListsSaved.selectedVehicleDisplayName_eq (h : vm.ListsSaved)
    (hcount : api.characterCount v = 17) (hselected : vm.selectedVehicleVIN = some v)
    (hv : vm.profile v ≠ none) : vm.savedName v = some vm.selectedVehicleDisplayName := by
  have hsame : ∀ row : JagSavedVehicleProfileSummary, api.sameText row.vin v = true ↔ row.vin = v := by
    intro row
    rw [api.sameText_comm, api.sameText_vin v row.vin hcount, eq_comm]
  obtain ⟨row, hrow, hvin⟩ := h.listed v hv
  have hfound : (vm.savedVehicleProfiles.find? fun row => api.sameText row.vin v).isSome :=
    List.find?_isSome.mpr ⟨row, hrow, (hsame row).mpr hvin⟩
  obtain ⟨first, hfirst⟩ := Option.isSome_iff_exists.mp hfound
  have hfirstvin : first.vin = v := (hsame first).mp (@List.find?_some _ _ first _ hfirst)
  have hname := h.named first (List.mem_of_find?_eq_some hfirst)
  simp only [selectedVehicleDisplayName, hselected, hfirst, Option.map_some, Option.getD_some]
  rwa [hfirstvin] at hname

/-- **The list of saved vehicles is never stale.**  In every state of every run on a fresh install
    the rows are exactly the vehicles with a saved profile, each under its saved name; the published
    selection is the store's; and for a selected vehicle with a saved profile, its saved name, the
    published name and the name shown for the selection are one. -/
theorem savedVehicles_listed (api : AppleApi) (shared : LinkDiagnosticsController)
    (events : List Event) :
    (∀ v, (∃ row ∈ (run step (initial api shared) events).savedVehicleProfiles, row.vin = v) ↔
      (run step (initial api shared) events).profile v ≠ none) ∧
    (∀ row ∈ (run step (initial api shared) events).savedVehicleProfiles,
      (run step (initial api shared) events).savedName row.vin = some row.displayName) ∧
    (run step (initial api shared) events).selectedVehicleVIN =
      (run step (initial api shared) events).storeSelectedVIN ∧
    ∀ v, (run step (initial api shared) events).selectedVehicleVIN = some v →
      (run step (initial api shared) events).profile v ≠ none →
      (run step (initial api shared) events).savedName v =
        some (run step (initial api shared) events).profileDisplayName ∧
      (run step (initial api shared) events).selectedVehicleDisplayName =
        (run step (initial api shared) events).profileDisplayName := by
  have h := run_listsSaved api shared events
  have hsaved : (run step (initial api shared) events).SavedFromVin :=
    reachable_savedFromVin ⟨events, rfl⟩
  generalize run step (initial api shared) events = vm at h hsaved
  refine ⟨fun v => ⟨?_, h.listed v⟩, h.named, h.selected, fun v hselected hv => ?_⟩
  · rintro ⟨row, hrow, rfl⟩ hnone
    have hname := h.named row hrow
    rw [savedName, hnone] at hname
    cases hname
  · have hname := h.shown v (h.selected ▸ hselected) hv
    obtain ⟨p, hp⟩ := Option.ne_none_iff_exists'.mp hv
    have hcount := (hsaved.saved v p hp).1
    have hdisplay := h.selectedVehicleDisplayName_eq hcount hselected hv
    exact ⟨hname, Option.some.inj (hdisplay.symm.trans hname)⟩

end ConnectionViewModel

end Jaglink
