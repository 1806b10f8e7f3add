/-
  What saved vehicles can rely on, in every run of the view model from an empty store.

  1. **In every run** — texts and entries are safe: a profile carries the texts of its own VIN, and
     a step writes under the live VIN only (`step_other`).

  2. **In the runs that meet `KeepsSelection`** — names and the selection are safe as well.  The
     block that saves a ready session takes the name from `profileDisplayName`, and a live VIN that
     was persisted already is not selected again; both are right as long as the VIN persisted last
     is the selected one.

  3. **The crux (`SelectionFollows`)** is that invariant: while the controller is active, the VIN
     persisted last is selected in the store.  A refresh keeps it (`refresh_follows`), since the
     block that moves the marker selects as well, and `KeepsSelection` is what the other events must
     do to keep it (`quiet_follows`).  Together with it a refresh changes no saved name
     (`refresh_savedName`).

  4. **What the condition excludes** — `beginConnection` clears the marker, so a session it began is
     safe; `reactivatedRun` and `staleSelectionRun` are sessions it did not begin, and in both the
     live vehicle gets another vehicle's name.
-/
import Jaglink.ViewModelRuns

namespace Jaglink

open CLib Runs

namespace ConnectionViewModel

variable {api : AppleApi} {vm : ConnectionViewModel api} {v w name : String}

/-- The name a vehicle is saved under. -/
def savedName (vm : ConnectionViewModel api) (v : String) : Option String :=
  (vm.profile v).bind fun profile => profile.string "displayName"

/-- A name is that of a saved profile. -/
theorem savedName_eq_some : vm.savedName v = some name ↔
    ∃ p, vm.profile v = some p ∧ p.string "displayName" = some name :=
  Option.bind_eq_some_iff

/-- A saved name is read from the profile alone. -/
theorem savedName_congr {vm' : ConnectionViewModel api} (h : vm'.profile v = vm.profile v) :
    vm'.savedName v = vm.savedName v := by
  rw [savedName, savedName, h]

/-! ## The selection follows the live VIN -/

/-- While the controller is active, the VIN persisted last is selected in the store. -/
def SelectionFollows (vm : ConnectionViewModel api) : Prop :=
  vm.controllerActive = true →
    ∀ v, vm.lastPersistedLiveVIN = some v → vm.storeSelectedVIN = some v

/-- `profileDisplayName` is the name of the vehicle selected in the store. -/
def ShowsSelected (vm : ConnectionViewModel api) : Prop :=
  ∀ v p, vm.storeSelectedVIN = some v → vm.profile v = some p → api.characterCount v = 17 →
    vm.profileDisplayName = (p.string "displayName").getD "Jaguar vehicle"

/-- Listing the vehicles takes over the name of the selected one. -/
theorem refreshSavedVehicleProfiles_showsSelected (vm : ConnectionViewModel api) :
    vm.refreshSavedVehicleProfiles.ShowsSelected :=
  fun _ _ hsel hp hcount => refreshSavedVehicleProfiles_displayName hsel hp hcount

/-- The VIN the first block marks is the one it selects. -/
theorem persistLiveVIN_follows (h : vm.SelectionFollows) : vm.persistLiveVIN.SelectionFollows := by
  rcases persistLiveVIN_cases vm with ⟨hsame, -⟩ | ⟨u, -, -, hrecord⟩
  · rw [hsame]
    exact h
  · rw [hrecord]
    intro _ v hv
    obtain rfl : u = v := Option.some.inj hv
    exact recordLive_storeSelectedVIN vm u

/-- It lists the vehicles after writing. -/
theorem persistLiveVIN_showsSelected (h : vm.ShowsSelected) : vm.persistLiveVIN.ShowsSelected := by
  rcases persistLiveVIN_cases vm with ⟨hsame, -⟩ | ⟨u, -, -, hrecord⟩
  · rw [hsame]
    exact h
  · rw [hrecord]
    exact refreshSavedVehicleProfiles_showsSelected _

/-- The second block selects nothing. -/
theorem persistReadyVIN_storeSelectedVIN (vm : ConnectionViewModel api) :
    vm.persistReadyVIN.storeSelectedVIN = vm.storeSelectedVIN := by
  rcases persistReadyVIN_cases vm with ⟨hsame, -⟩ | ⟨u, -, -, -, hrecord⟩
  · rw [hsame]
  · rw [hrecord]
    exact recordReady_storeSelectedVIN vm u

/-- The published selection is the store's after every refresh. -/
theorem refresh_selected (vm : ConnectionViewModel api) :
    vm.refresh.selectedVehicleVIN = vm.refresh.storeSelectedVIN := by
  have hlive : vm.published.persistLiveVIN.selectedVehicleVIN =
      vm.published.persistLiveVIN.storeSelectedVIN := by
    rcases persistLiveVIN_cases vm.published with ⟨hsame, -⟩ | ⟨u, -, -, hrecord⟩
    · rw [hsame]
      rfl
    · rw [hrecord]
      rfl
  show vm.persisted.selectedVehicleVIN = vm.persisted.storeSelectedVIN
  rcases persistReadyVIN_cases vm.published.persistLiveVIN with ⟨hsame, -⟩ | ⟨u, -, -, -, hrecord⟩
  · rw [persisted, hsame]
    exact hlive
  · rw [persisted, hrecord]
    rfl

/-- A refresh keeps the selection with the marker. -/
theorem refresh_follows (h : vm.SelectionFollows) : vm.refresh.SelectionFollows := by
  have hpublished : vm.published.SelectionFollows := h
  have hlive := persistLiveVIN_follows hpublished
  intro hactive v hv
  rw [refresh_lastPersistedLiveVIN, persisted, persistReadyVIN_lastPersistedLiveVIN] at hv
  rw [refresh_storeSelectedVIN, persisted, persistReadyVIN_storeSelectedVIN]
  refine hlive ?_ v hv
  rw [refresh_controllerActive] at hactive
  exact (persistLiveVIN_controllerActive vm.published).trans hactive

/-- **A refresh leaves the live VIN selected.** -/
theorem refresh_selects_live (h : vm.SelectionFollows) (hlive : vm.liveVIN = some v) :
    vm.refresh.storeSelectedVIN = some v := by
  refine refresh_follows h ?_ v ?_
  · rw [refresh_controllerActive]
    exact (liveVIN_eq_some.mp hlive).1
  · rw [refresh_lastPersistedLiveVIN, persisted, persistReadyVIN_lastPersistedLiveVIN]
    have hpublished : vm.published.liveVIN = some v := hlive
    exact persistLiveVIN_marks hpublished

/-! ## Names stay -/

/-- The first block reads the name a VIN has before it writes one. -/
theorem persistLiveVIN_savedName (h : vm.savedName v = some name) :
    vm.persistLiveVIN.savedName v = some name := by
  rcases persistLiveVIN_cases vm with ⟨hsame, -⟩ | ⟨u, -, -, hrecord⟩
  · rwa [hsame]
  · rw [hrecord]
    show (vm.recordLive u).savedName v = some name
    by_cases hv : v = u
    · subst hv
      -- the block reads the name this very VIN is saved under
      obtain ⟨p, hp, hname⟩ := savedName_eq_some.mp h
      obtain ⟨q, name', hq, -, hname', hkeep⟩ := recordLive_self vm v
      obtain rfl : name' = name := hkeep p name hp hname
      exact savedName_eq_some.mpr ⟨q, hq, hname'⟩
    · rwa [savedName_congr (recordLive_other vm hv)]

/-- The second block writes the published name, right only while its VIN is selected. -/
theorem persistReadyVIN_savedName (hshows : vm.ShowsSelected)
    (hselected : ∀ u, vm.liveVIN = some u → vm.storeSelectedVIN = some u)
    (h : vm.savedName v = some name) : vm.persistReadyVIN.savedName v = some name := by
  rcases persistReadyVIN_cases vm with ⟨hsame, -⟩ | ⟨u, hlive, -, -, hrecord⟩
  · rwa [hsame]
  · rw [hrecord]
    show (vm.recordReady u).savedName v = some name
    by_cases hv : v = u
    · subst hv
      -- the block takes the published name, which is this VIN's because this VIN is selected
      obtain ⟨p, hp, hname⟩ := savedName_eq_some.mp h
      have hpublished : vm.profileDisplayName = name := by
        rw [hshows v p (hselected v hlive) hp (liveVIN_eq_some.mp hlive).2.2, hname]
        rfl
      obtain ⟨q, hq, -, hname'⟩ := recordReady_self vm v
      exact savedName_eq_some.mpr ⟨q, hq, hname'.trans (congrArg some hpublished)⟩
    · rwa [savedName_congr (recordReady_other vm hv)]

/-- A refresh changes no saved name while the selection follows. -/
theorem refresh_savedName (hfollows : vm.SelectionFollows) (h : vm.savedName v = some name) :
    vm.refresh.savedName v = some name := by
  have hshows : vm.published.ShowsSelected := refreshSavedVehicleProfiles_showsSelected vm
  have hname : vm.published.savedName v = some name := h
  have hpublished : vm.published.SelectionFollows := hfollows
  have hlivefollows := persistLiveVIN_follows hpublished
  have hselected : ∀ u, vm.published.persistLiveVIN.liveVIN = some u →
      vm.published.persistLiveVIN.storeSelectedVIN = some u := by
    intro u hu
    rw [liveVIN_congr (persistLiveVIN_controller vm.published)] at hu
    have hactive : vm.published.persistLiveVIN.controllerActive = true := by
      rw [persistLiveVIN_controllerActive]
      exact (liveVIN_eq_some.mp hu).1
    exact hlivefollows hactive u (persistLiveVIN_marks hu)
  exact persistReadyVIN_savedName (persistLiveVIN_showsSelected hshows) hselected
    (persistLiveVIN_savedName hname)

/-! ## Steps -/

/-- The steps that keep the selection with the VIN persisted last.  The shared controller does not
    become active while another vehicle is selected, and no other vehicle is selected while it is
    active already and the view model has not published that yet. -/
def KeepsSelection (vm : ConnectionViewModel api) : Event → Prop
  | .sharedChanged shared => vm.controllerActive = false → shared.isActive = true →
      ∀ v, vm.lastPersistedLiveVIN = some v → vm.storeSelectedVIN = some v
  | .selectSavedVehicle vin => vm.isActive = false → vm.controllerActive = true →
      ∀ v, vm.lastPersistedLiveVIN = some v → v = vin
  | _ => True

/-- **Only the live VIN's profile is written**, whatever the event. -/
theorem step_other (event : Event) (h : vm.liveVIN ≠ some w) :
    (vm.step event).profile w = vm.profile w := by
  rw [step_eq]
  split
  · rename_i hrefreshes
    have hlive : (vm.quiet event).liveVIN ≠ some w := by
      rwa [liveVIN_congr (quiet_controller hrefreshes)]
    rw [refresh_other hlive, quiet_profile]
  · exact quiet_profile vm event w

/-- Short of refreshing, an event that keeps the selection keeps it with the marker. -/
theorem quiet_follows (event : Event) (hkeeps : vm.KeepsSelection event) (h : vm.SelectionFollows) :
    (vm.quiet event).SelectionFollows := by
  cases event with
  | beginConnection source =>
    show (vm.beginConnection source).SelectionFollows
    unfold beginConnection
    split
    · exact h
    · -- the marker is cleared
      intro _ v hv
      cases hv
  | flowEvent event =>
    have hshared : (vm.controller.didReceiveFlowEvent event).shared = vm.controller.shared :=
      JagLinkDiagnosticsController.didReceiveFlowEvent_shared event vm.controller
    intro hactive
    exact h ((congrArg LinkDiagnosticsController.isActive hshared).symm.trans hactive)
  | sharedChanged shared =>
    intro hactive v hv
    cases hbefore : vm.controllerActive with
    | true => exact h hbefore v hv
    | false => exact hkeeps hbefore hactive v hv
  | refresh => exact h
  | disconnect => exact h
  | selectSavedVehicle vin =>
    rw [quiet_selectSavedVehicle]
    split
    · exact h
    · rename_i hinactive
      split
      · -- accepted: the new selection is the marker
        rename_i haccept
        intro hactive v hv
        obtain rfl : v = vin := hkeeps (Bool.eq_false_iff.mpr hinactive) hactive v hv
        exact api.store.select_accepted _ _ haccept
      · -- refused: the selection stays
        rename_i hrefuse
        intro hactive v hv
        exact (api.store.select_refused _ _ (Bool.eq_false_iff.mpr hrefuse)).trans (h hactive v hv)

/-- Events that keep the selection keep it through the refresh as well. -/
theorem step_follows (event : Event) (hkeeps : vm.KeepsSelection event) (h : vm.SelectionFollows) :
    (vm.step event).SelectionFollows := by
  have hquiet := quiet_follows event hkeeps h
  rw [step_eq]
  split
  · exact refresh_follows hquiet
  · exact hquiet

/-- A step that keeps the selection changes no saved name while the selection follows. -/
theorem step_savedName (event : Event) (hkeeps : vm.KeepsSelection event) (h : vm.SelectionFollows)
    (hname : vm.savedName v = some name) : (vm.step event).savedName v = some name := by
  have hquiet : (vm.quiet event).savedName v = some name := by
    rwa [savedName_congr (quiet_profile vm event v)]
  rw [step_eq]
  split
  · exact refresh_savedName (quiet_follows event hkeeps h) hquiet
  · exact hquiet

/-- A refreshing step leaves the live VIN selected, in the store and in the view model. -/
theorem step_selects_live {event : Event} (hkeeps : vm.KeepsSelection event)
    (h : vm.SelectionFollows) (hrefreshes : vm.refreshes event = true)
    (hlive : (vm.step event).liveVIN = some v) :
    (vm.step event).storeSelectedVIN = some v ∧ (vm.step event).selectedVehicleVIN = some v := by
  rw [step_eq, if_pos hrefreshes] at hlive ⊢
  rw [refresh_liveVIN] at hlive
  have hstore := refresh_selects_live (quiet_follows event hkeeps h) hlive
  exact ⟨hstore, (refresh_selected _).trans hstore⟩

/-! ## Runs -/

/-- At the start nothing is marked. -/
theorem initial_follows (api : AppleApi) (shared : LinkDiagnosticsController) :
    (initial api shared).SelectionFollows := by
  refine refresh_follows fun _ v hv => ?_
  cases hv

/-- The selection follows in every run of such events. -/
theorem run_follows {shared : LinkDiagnosticsController} {events : List Event}
    (h : Meets step KeepsSelection (initial api shared) events) :
    (run step (initial api shared) events).SelectionFollows := by
  have hstep : ∀ (vm : ConnectionViewModel api) event, vm.SelectionFollows →
      vm.KeepsSelection event → (vm.step event).SelectionFollows :=
    fun _ event hfollows hkeeps => step_follows event hkeeps hfollows
  exact run_invariant step hstep (initial_follows api shared) h

/-- In every run that keeps the selection a saved name stays. -/
theorem run_savedName {events : List Event} (hfollows : vm.SelectionFollows)
    (h : Meets step KeepsSelection vm events) (hname : vm.savedName v = some name) :
    (run step vm events).savedName v = some name := by
  -- the name stays because the selection keeps following, so the two go through the run together
  have hstep : ∀ (vm : ConnectionViewModel api) event,
      vm.SelectionFollows ∧ vm.savedName v = some name → vm.KeepsSelection event →
      (vm.step event).SelectionFollows ∧ (vm.step event).savedName v = some name :=
    fun _ event hvm hkeeps =>
      ⟨step_follows event hkeeps hvm.1, step_savedName event hkeeps hvm.1 hvm.2⟩
  exact (run_invariant step hstep ⟨hfollows, hname⟩ h).2

/-- A saved profile carries the texts of the VIN it is saved under. -/
theorem SavedUnder.texts {p : Profile} (h : SavedUnder api v p) :
    ∃ vin : CString, vin.bytes = utf8 v ∧ HoldsIdentity p (vinIdentity vin) := by
  obtain ⟨hcount, vin, rfl, hidentity⟩ := h
  refine ⟨vin, (utf8_jagLinkStringFromCString fun hunknown => ?_).symm, hidentity⟩
  -- the fallback text has seven characters
  have hplain : ∀ c ∈ "unknown".toList, ' ' ≤ c ∧ c ≤ '~' := by simp
  have hseven : "unknown".length = 7 := rfl
  rw [hunknown, api.characterCount_ascii "unknown" hplain, hseven] at hcount
  cases hcount

/-- **Saved vehicles, over every run of the view model from an empty store.** -/
theorem savedVehicles_kept (api : AppleApi) (shared : LinkDiagnosticsController) :
    -- the texts saved under a VIN are computed from that VIN
    (∀ vm, Reachable step (initial api shared) vm → ∀ v p, vm.profile v = some p →
      ∃ vin : CString, vin.bytes = utf8 v ∧ HoldsIdentity p (vinIdentity vin)) ∧
    -- a step writes under the live VIN only, and so under one VIN at most
    (∀ vm, Reachable step (initial api shared) vm → ∀ event,
      (∀ w, vm.liveVIN ≠ some w → (vm.step event).profile w = vm.profile w) ∧
      ∀ v w, w ≠ v → (vm.step event).profile v ≠ vm.profile v →
        (vm.step event).profile w = vm.profile w) ∧
    -- a saved name stays
    (∀ before later, Meets step KeepsSelection (initial api shared) (before ++ later) →
      ∀ v name, (run step (initial api shared) before).savedName v = some name →
        (run step (initial api shared) (before ++ later)).savedName v = some name) ∧
    -- a refresh leaves the live VIN selected
    ∀ events event, Meets step KeepsSelection (initial api shared) (events ++ [event]) →
      (run step (initial api shared) events).refreshes event = true →
      ∀ v, (run step (initial api shared) (events ++ [event])).liveVIN = some v →
        (run step (initial api shared) (events ++ [event])).storeSelectedVIN = some v ∧
        (run step (initial api shared) (events ++ [event])).selectedVehicleVIN = some v := by
  refine ⟨fun vm hvm v p hp => ((reachable_savedFromVin hvm).saved v p hp).texts,
    fun vm _ event => ⟨fun w => step_other event, fun v w hw hwritten => ?_⟩,
    fun before later hmeets v name hname => ?_, fun events event hmeets hrefreshes v hlive => ?_⟩
  · have hlive : vm.liveVIN = some v := by
      by_contra hnot
      exact hwritten (step_other event hnot)
    refine step_other event fun hw' => hw ?_
    exact Option.some.inj (hw'.symm.trans hlive)
  · rw [meets_append] at hmeets
    rw [run_append]
    exact run_savedName (run_follows hmeets.1) hmeets.2 hname
  · rw [meets_snoc] at hmeets
    rw [run_snoc] at hlive ⊢
    exact step_selects_live hmeets.2 (run_follows hmeets.1) hrefreshes hlive

/-- One vehicle is read and the session ends. -/
def firstSession : List Event :=
  [.beginConnection .automatic, .sharedChanged (.inSession true),
    .flowEvent (some (.standardVin true (text "SAJAA51K83YC00001"))), .refresh,
    .sharedChanged .idle, .refresh]

/-- Another vehicle is read in a session of its own. -/
def secondSession : List Event :=
  [.beginConnection .automatic, .sharedChanged (.inSession true),
    .flowEvent (some (.standardVin true (text "SAJAA51K83YC00002")))]

/-- Two sessions that were begun: the first vehicle keeps its name, the second ends up selected. -/
theorem savedVehicles_kept_twoSessions :
    Meets step KeepsSelection (initial AppleApi.memory .idle)
      (firstSession ++ (secondSession ++ [.refresh])) ∧
    (run step (initial AppleApi.memory .idle)
      (firstSession ++ (secondSession ++ [.refresh]))).savedName "SAJAA51K83YC00001" =
        some "Jaguar vehicle · SAJAA51K83YC00001" ∧
    (run step (initial AppleApi.memory .idle)
      ((firstSession ++ secondSession) ++ [.refresh])).selectedVehicleVIN =
        some "SAJAA51K83YC00002" := by
  have hmeets : Meets step KeepsSelection (initial AppleApi.memory .idle)
      (firstSession ++ (secondSession ++ [.refresh])) := by
    refine ⟨trivial, ?_, trivial, trivial, ?_, trivial, trivial, ?_, trivial, trivial, trivial⟩
    · intro _ _ v hv
      cases hv
    · intro _ hactive
      cases hactive
    · intro _ _ v hv
      cases hv
  obtain ⟨-, -, hnames, hselected⟩ := savedVehicles_kept AppleApi.memory .idle
  refine ⟨hmeets, hnames firstSession _ hmeets _ _ (by decide), ?_⟩
  rw [← List.append_assoc] at hmeets
  exact (hselected _ _ hmeets rfl _ (by decide)).2

/-! ## Sessions that no `beginConnection` began -/

/-- Two vehicles are read in one session, which then ends. -/
def twoVehiclesRun : List Event :=
  [.beginConnection .automatic, .sharedChanged (.inSession false),
    .flowEvent (some (.standardVin true (text "SAJAA51K83YC00001"))), .refresh,
    .flowEvent (some (.standardVin true (text "SAJAA51K83YC00002"))), .refresh,
    .sharedChanged .idle, .refresh]

/-- The first vehicle is selected, then the shared controller is active and ready again. -/
def reactivatedRun : List Event :=
  twoVehiclesRun ++
    [.selectSavedVehicle "SAJAA51K83YC00001", .sharedChanged (.inSession true), .refresh]

/-- The shared controller is in a session again, and the first vehicle is selected before the view
    model has seen it. -/
def staleSelectionRun : List Event :=
  twoVehiclesRun ++ [.sharedChanged (.inSession true), .selectSavedVehicle "SAJAA51K83YC00001"]

/-- Both ways the live VIN gets the name of the selected vehicle, which stays selected. -/
theorem reactivatedRun_renames :
    (run step (initial AppleApi.memory .idle) twoVehiclesRun).savedName "SAJAA51K83YC00002" =
      some "Jaguar vehicle · SAJAA51K83YC00002" ∧
    ∀ events ∈ [reactivatedRun, staleSelectionRun],
      (run step (initial AppleApi.memory .idle) events).savedName "SAJAA51K83YC00002" =
        some "Jaguar vehicle · SAJAA51K83YC00001" ∧
      (run step (initial AppleApi.memory .idle) events).liveVIN = some "SAJAA51K83YC00002" ∧
      (run step (initial AppleApi.memory .idle) events).storeSelectedVIN =
        some "SAJAA51K83YC00001" := by
  decide +kernel

end ConnectionViewModel

end Jaglink
