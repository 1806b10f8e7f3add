/-
  Which session a recorded VIN belongs to, and which vehicle the screen is about.

  1. **What the controller holds of a vehicle** is one register of the view model (`heldVehicle`):
     an accepted `beginConnection` clears it, a standard-VIN event writes it, nothing else does.
     What is written is a VIN with the texts of that VIN, or no VIN with texts that tell of no
     decoded vehicle (`HeldVehicle.Consistent`).

  2. **Recording (`recorded_in_its_session`)** — a VIN gets into the store only by a refresh that
     finds it in that register, so it was read in the session that recorded it, and the profile is
     there from that step on (`Records`).

  3. **The screen (`ShowsOneVehicle`)** — VIN text and identity texts come from two sources, the
     controller or the store, and the fallbacks of the two differ.  Either the VIN on screen has its
     own texts beside it, or a placeholder stands there and the texts are none that a decoded
     vehicle has (`textsWithoutVehicle`).  The placeholder may stand over the texts of a VIN that
     was received and did not decode.

  4. **Result (`showsOneVehicle_run`)** — so it is in every run in which the store accepts no
     selection of a vehicle it has not saved (`SelectsSaved`): an offline refresh leaves the
     identity texts alone if the selected VIN has no saved profile.

  5. **The crux (`UntoldUnselected`)** — as long as no vehicle is selected in the store, the
     published texts tell of no decoded vehicle.  A decoded VIN is live, and a live VIN is recorded
     and selected by the very refresh that publishes its texts.
-/
import Jaglink.GarageRefinement
import Jaglink.RefreshOnce

namespace Jaglink

open CLib Runs

/-- The texts that tell of no decoded vehicle: before a session, before its VIN is read, after none
    was returned, and over a VIN that does not decode. -/
def textsWithoutVehicle : List VehicleIdentity :=
  [initialIdentity, pendingIdentity, noVinIdentity, undecodedIdentity]

/-- What the controller holds of the vehicle. -/
structure HeldVehicle where
  vin : Option String
  identity : VehicleIdentity

namespace HeldVehicle

/-- At the start of a session. -/
def pending : HeldVehicle where
  vin := none
  identity := pendingIdentity

/-- After a standard-VIN event. -/
def reported (vinAvailable : Bool) (vin : Option CString) : HeldVehicle :=
  match vinAvailable, vin with
  | true, some vin =>
    { vin := some (jagLinkStringFromCString (some vin))
      identity := vinIdentity vin }
  | _, _ =>
    { vin := none
      identity := noVinIdentity }

/-- Only a VIN that was returned is held. -/
theorem reported_vin {vinAvailable : Bool} {vin : Option CString} {v : String}
    (h : (reported vinAvailable vin).vin = some v) :
    ∃ bytes, vinAvailable = true ∧ vin = some bytes ∧ v = jagLinkStringFromCString (some bytes) := by
  match vinAvailable, vin with
  | true, some bytes => exact ⟨bytes, rfl, rfl, (Option.some.inj h).symm⟩
  | true, none | false, _ => cases h

/-- A VIN with its texts, or no VIN and the texts of none. -/
def Consistent (held : HeldVehicle) : Prop :=
  match held.vin with
  | some v => ∃ vin, v = jagLinkStringFromCString (some vin) ∧ held.identity = vinIdentity vin
  | none => held.identity ∈ textsWithoutVehicle

/-- Before a read there is no VIN, and the texts tell of no vehicle. -/
theorem pending_consistent : pending.Consistent := by
  show pendingIdentity ∈ textsWithoutVehicle
  decide

/-- A read that yields no VIN leaves texts that tell of none. -/
theorem reported_consistent (vinAvailable : Bool) (vin : Option CString) :
    (reported vinAvailable vin).Consistent := by
  have hnone : noVinIdentity ∈ textsWithoutVehicle := by decide
  cases vinAvailable with
  | false => exact hnone
  | true =>
    cases vin with
    | none => exact hnone
    | some vin => exact ⟨vin, rfl, rfl⟩

end HeldVehicle

/-- What the controller holds of the vehicle. -/
def JagLinkDiagnosticsController.held (controller : JagLinkDiagnosticsController) : HeldVehicle where
  vin := controller.vehicleVINText
  identity := controller.identity

namespace ConnectionViewModel

variable {api : AppleApi} {vm : ConnectionViewModel api} {v : String}

/-! ## The vehicle of the session -/

/-- The controller's vehicle, as a register of the view model. -/
def heldVehicle (api : AppleApi) : Register (@step api) HeldVehicle where
  get vm := vm.controller.held
  writes vm event :=
    match event with
    | .beginConnection _ => if vm.isActive then none else some HeldVehicle.pending
    | .flowEvent (some (.standardVin vinAvailable vin)) => some (.reported vinAvailable vin)
    | _ => none
  step_get := by
    intro vm event
    cases event with
    | beginConnection source =>
      show (vm.beginConnection source).controller.held = _
      unfold beginConnection
      split <;> rfl
    | flowEvent event =>
      match event with
      | some (.standardVin true (some vin)) => rfl
      | some (.standardVin true none) | some (.standardVin false _) => rfl
      | some (.liveSample _) | some .other | none => rfl
    | selectSavedVehicle vin =>
      show (vm.selectSavedVehicle vin).controller.held = vm.controller.held
      rw [show vm.selectSavedVehicle vin = vm.step (.selectSavedVehicle vin) from rfl, step_eq]
      split
      · rename_i hrefreshes
        rw [refresh_controller, quiet_controller hrefreshes]
      · rw [quiet_selectSavedVehicle]
        split
        · rfl
        · split <;> rfl
    | refresh => exact congrArg _ (refresh_controller vm)
    | sharedChanged _ | disconnect => rfl

/-- A VIN is written by the event that returned it. -/
theorem standardVin_of_writes {event : Event} {held : HeldVehicle}
    (hwrites : (heldVehicle api).writes vm event = some held) (hvin : held.vin = some v) :
    ∃ vin, event = .flowEvent (some (.standardVin true (some vin))) ∧
      v = jagLinkStringFromCString (some vin) := by
  match event with
  | .beginConnection source =>
    simp only [heldVehicle] at hwrites
    split at hwrites
    · cases hwrites
    · obtain rfl := Option.some.inj hwrites
      cases hvin
  | .flowEvent (some (.standardVin vinAvailable vin)) =>
    obtain rfl := Option.some.inj hwrites
    obtain ⟨bytes, rfl, rfl, hv⟩ := HeldVehicle.reported_vin hvin
    exact ⟨bytes, rfl, hv⟩
  | .flowEvent (some (.liveSample _)) | .flowEvent (some .other) | .flowEvent none
  | .sharedChanged _ | .refresh | .disconnect | .selectSavedVehicle _ => cases hwrites

/-- The step records `v`: a refresh finds it live and not saved yet, and saves a profile of it. -/
def Records (v : String) (vm : ConnectionViewModel api) (event : Event) : Prop :=
  vm.refreshes event = true ∧ vm.liveVIN = some v ∧ vm.profile v = none ∧
    (vm.step event).profile v ≠ none

/-- A profile appears only where its VIN is recorded. -/
theorem records_of_step {event : Event} (hbefore : vm.profile v = none)
    (hafter : (vm.step event).profile v ≠ none) : Records v vm event := by
  refine ⟨?_, ?_, hbefore, hafter⟩
  · by_contra hquiet
    rw [step_eq, if_neg hquiet, quiet_profile] at hafter
    exact hafter hbefore
  · by_contra hother
    rw [step_other event hother] at hafter
    exact hafter hbefore

/-- A fresh install has no profile. -/
theorem initial_profile (api : AppleApi) (shared : LinkDiagnosticsController) (v : String) :
    (initial api shared).profile v = none :=
  (shows_initial api shared).unsaved v rfl

/-- The controller of a fresh install holds nothing. -/
theorem initial_held (api : AppleApi) (shared : LinkDiagnosticsController) :
    (initial api shared).controller.held = HeldVehicle.pending :=
  congrArg JagLinkDiagnosticsController.held (refresh_controller _)

/-- **A VIN is recorded in the session that read it.**  If a run on a fresh install has saved a
    profile under `v`, one of its refreshes found an active controller with this VIN and recorded
    it; a standard-VIN event had returned `v` before; and between the two no session began and no
    other VIN read was reported. -/
theorem recorded_in_its_session (api : AppleApi) (shared : LinkDiagnosticsController)
    (events : List Event) (v : String)
    (h : (run step (initial api shared) events).profile v ≠ none) :
    ∃ before vin between event later,
      events = (before ++ .flowEvent (some (.standardVin true (some vin))) :: between) ++
        event :: later ∧
      v = jagLinkStringFromCString (some vin) ∧
      Meets step (heldVehicle api).Leaves
        (run step (initial api shared)
          (before ++ [.flowEvent (some (.standardVin true (some vin)))])) between ∧
      Records v (run step (initial api shared)
        (before ++ .flowEvent (some (.standardVin true (some vin))) :: between)) event := by
  obtain ⟨pre, event, later, rfl, hnone, hrecorded⟩ := exists_step_of_run step
    (P := fun vm => vm.profile v ≠ none) (not_not.mpr (initial_profile api shared v)) h
  have hrecords := records_of_step (not_not.mp hnone) hrecorded
  have hheld : (run step (initial api shared) pre).controller.held.vin = some v :=
    (liveVIN_eq_some.mp hrecords.2.1).2.1
  rcases (heldVehicle api).run_get_cases (initial api shared) pre with ⟨-, hget⟩ | hwritten
  · -- a VIN that was never written is not held
    have hpending : (run step (initial api shared) pre).controller.held = HeldVehicle.pending :=
      hget.trans (initial_held api shared)
    rw [hpending] at hheld
    cases hheld
  · obtain ⟨before, report, between, rfl, hwrites, hbetween⟩ := hwritten
    obtain ⟨vin, rfl, hvin⟩ := standardVin_of_writes hwrites hheld
    exact ⟨before, vin, between, event, later, rfl, hvin, hbetween, hrecords⟩

/-- The second of two vehicles read in one session. -/
theorem recorded_in_its_session_second :
    ∃ before vin between event later,
      twoVehiclesRun = (before ++ .flowEvent (some (.standardVin true (some vin))) :: between) ++
        event :: later ∧
      "SAJAA51K83YC00002" = jagLinkStringFromCString (some vin) ∧
      Meets step (heldVehicle AppleApi.memory).Leaves
        (run step (initial AppleApi.memory .idle)
          (before ++ [.flowEvent (some (.standardVin true (some vin)))])) between ∧
      Records "SAJAA51K83YC00002" (run step (initial AppleApi.memory .idle)
        (before ++ .flowEvent (some (.standardVin true (some vin))) :: between)) event := by
  have hsaved : ((run step (initial AppleApi.memory .idle) twoVehiclesRun).profile
      "SAJAA51K83YC00002").isSome = true := by decide
  exact recorded_in_its_session AppleApi.memory .idle twoVehiclesRun _
    (Option.isSome_iff_ne_none.mp hsaved)

/-! ## The selected vehicle is a saved one -/

/-- The store accepts no selection of a vehicle it has not saved. -/
def SelectsSaved (vm : ConnectionViewModel api) : Event → Prop
  | .selectSavedVehicle vin =>
    vm.refreshes (.selectSavedVehicle vin) = true → vm.profile vin ≠ none
  | _ => True

/-- The vehicle selected in the store is a saved one. -/
def SelectedSaved (vm : ConnectionViewModel api) : Prop :=
  ∀ v, vm.storeSelectedVIN = some v → vm.profile v ≠ none

/-- The first block saves the VIN it selects. -/
theorem persistLiveVIN_selectedSaved (h : vm.SelectedSaved) : vm.persistLiveVIN.SelectedSaved := by
  rcases persistLiveVIN_cases vm with ⟨hsame, -⟩ | ⟨u, -, -, hrecord⟩
  · rwa [hsame]
  · rw [hrecord]
    intro v hv
    obtain rfl : u = v := Option.some.inj ((recordLive_storeSelectedVIN vm u).symm.trans hv)
    obtain ⟨q, -, hq, -⟩ := recordLive_self vm u
    rw [refreshSavedVehicleProfiles_profile, hq]
    exact Option.some_ne_none q

/-- The second block selects nothing and drops no profile. -/
theorem persistReadyVIN_selectedSaved (h : vm.SelectedSaved) : vm.persistReadyVIN.SelectedSaved := by
  intro v hv
  rw [persistReadyVIN_storeSelectedVIN] at hv
  rcases persistReadyVIN_cases vm with ⟨hsame, -⟩ | ⟨u, -, -, -, hrecord⟩
  · rw [hsame]
    exact h v hv
  · rw [hrecord, refreshSavedVehicleProfiles_profile]
    by_cases hvu : v = u
    · subst hvu
      obtain ⟨q, hq, -⟩ := recordReady_self vm v
      rw [hq]
      exact Option.some_ne_none q
    · rw [recordReady_other vm hvu]
      exact h v hv

/-- A refresh keeps a saved vehicle selected. -/
theorem refresh_selectedSaved (h : vm.SelectedSaved) : vm.refresh.SelectedSaved := by
  have hpublished : vm.published.SelectedSaved := h
  exact persistReadyVIN_selectedSaved (persistLiveVIN_selectedSaved hpublished)

/-- Before it refreshes, an event selects what it is allowed to select. -/
theorem quiet_selectedSaved {event : Event} (h : vm.SelectedSaved) (hevent : SelectsSaved vm event) :
    (vm.quiet event).SelectedSaved := by
  intro v hv
  rw [quiet_profile]
  cases event with
  | selectSavedVehicle vin =>
    by_cases hrefreshes : vm.refreshes (.selectSavedVehicle vin) = true
    · rw [quiet_accepted hrefreshes] at hv
      obtain rfl := Option.some.inj hv
      exact hevent hrefreshes
    · rw [quiet_refused hrefreshes] at hv
      exact h v hv
  | beginConnection source =>
    refine h v (Eq.trans ?_ hv)
    show vm.storeSelectedVIN = (vm.beginConnection source).storeSelectedVIN
    unfold beginConnection
    split <;> rfl
  | flowEvent _ | sharedChanged _ | refresh | disconnect => exact h v hv

/-! ## Decoded VINs are saved -/

/-- A VIN that decodes has the seventeen characters for which a VIN is saved. -/
theorem characterCount_decoded (api : AppleApi) {stack d : JaguarVinDecode} {vin : CString}
    (h : decodedVin stack (some vin) = some d) :
    api.characterCount (jagLinkStringFromCString (some vin)) = 17 := by
  obtain ⟨v, hparse, -⟩ := jaguarVinDecode_eq_true_iff.mp (decodedVin_eq_some.mp h)
  obtain ⟨⟨hlength, hlegal⟩, -⟩ := Vin.parse_eq_some_iff.mp hparse
  have hrange : ∀ b ∈ vin.bytes, 48 ≤ b.toNat ∧ b.toNat ≤ 122 :=
    fun b hb => toNat_of_vinChar (hlegal b hb)
  have hascii : ∀ b ∈ vin.bytes, b.toNat < 128 :=
    fun b hb => Nat.lt_of_le_of_lt (hrange b hb).2 (by decide)
  rw [jagLinkStringFromCString_spelt (ascii_spelt hascii), api.characterCount_ascii]
  · rw [String.length_ofList, List.length_map]
    exact hlength
  · intro c hc
    rw [String.toList_ofList] at hc
    obtain ⟨b, hb, rfl⟩ := List.mem_map.mp hc
    have hcode := (ascii_char b (hascii b hb)).1
    have hbounds := hrange b hb
    constructor
    · show (32 : Nat) ≤ (Char.ofNat b.toNat).toNat
      omega
    · show (Char.ofNat b.toNat).toNat ≤ 126
      omega

/-- Where no VIN is live the controller's texts tell of no decoded vehicle. -/
theorem untold_of_noLive (hheld : vm.controller.held.Consistent) (hactive : vm.controllerActive = true)
    (hlive : vm.liveVIN = none) : vm.controller.identity ∈ textsWithoutVehicle := by
  cases hvin : vm.controller.vehicleVINText with
  | none =>
    rw [HeldVehicle.Consistent, show vm.controller.held.vin = none from hvin] at hheld
    exact hheld
  | some v =>
    rw [HeldVehicle.Consistent, show vm.controller.held.vin = some v from hvin] at hheld
    obtain ⟨vin, rfl, hidentity⟩ := hheld
    -- a VIN that decodes would be live
    have hundecoded : decodedVin JaguarVinDecode.zero (some vin) = none := by
      refine Option.eq_none_iff_forall_ne_some.mpr fun d hd => ?_
      have hsome := liveVIN_eq_some.mpr ⟨hactive, hvin, characterCount_decoded api hd⟩
      rw [hlive] at hsome
      cases hsome
    have htexts : vinIdentity vin = undecodedIdentity := by rw [vinIdentity, hundecoded]
    rw [show vm.controller.identity = vinIdentity vin from hidentity, htexts]
    decide

/-- While the store selects no vehicle, none was persisted and no decoded one is on screen. -/
def UntoldUnselected (vm : ConnectionViewModel api) : Prop :=
  vm.storeSelectedVIN = none → vm.lastPersistedLiveVIN = none ∧ vm.identity ∈ textsWithoutVehicle

/-- No profile is saved under the empty text, which stands in for a missing selection. -/
theorem SavedFromVin.selectedProfile_none (h : vm.SavedFromVin)
    (hselected : vm.storeSelectedVIN = none) : vm.selectedProfile = none := by
  rw [selectedProfile, hselected, Option.getD_none]
  refine Option.eq_none_iff_forall_ne_some.mpr fun p hp => ?_
  have hcount := (h.saved "" p hp).1
  rw [api.characterCount_ascii "" (by simp)] at hcount
  cases hcount

/-- With nothing selected, the published texts stay while the controller is inactive. -/
theorem published_identity (hsaved : vm.SavedFromVin) (hselected : vm.storeSelectedVIN = none) :
    vm.published.identity = if vm.controllerActive then vm.controller.identity else vm.identity := by
  have hprofile : vm.refreshSavedVehicleProfiles.profile
      (vm.refreshSavedVehicleProfiles.selectedVehicleVIN.getD "") = none :=
    hsaved.selectedProfile_none hselected
  rw [published, publishIdentity_identity, hprofile]
  rfl

/-- A refresh that leaves the store without a selection found no VIN to record. -/
theorem refresh_unselected (h : vm.refresh.storeSelectedVIN = none) :
    vm.storeSelectedVIN = none ∧ vm.persisted = vm.published.persistReadyVIN ∧
      ∀ v, vm.liveVIN = some v → vm.lastPersistedLiveVIN = some v := by
  rw [refresh_storeSelectedVIN, persisted, persistReadyVIN_storeSelectedVIN] at h
  rcases persistLiveVIN_cases vm.published with ⟨hsame, hmarked⟩ | ⟨u, -, -, hrecord⟩
  · rw [hsame] at h
    exact ⟨h, by rw [persisted, hsame], hmarked⟩
  · have hselected : vm.published.persistLiveVIN.storeSelectedVIN = some u := by
      rw [hrecord]
      exact recordLive_storeSelectedVIN vm.published u
    rw [hselected] at h
    cases h

/-- A refresh that selects no vehicle publishes no vehicle's texts. -/
theorem refresh_untoldUnselected (hsaved : vm.SavedFromVin) (hheld : vm.controller.held.Consistent)
    (h : vm.UntoldUnselected) : vm.refresh.UntoldUnselected := by
  intro hnone
  obtain ⟨hselected, hpersisted, hmarked⟩ := refresh_unselected hnone
  obtain ⟨hunmarked, huntold⟩ := h hselected
  have hlive : vm.liveVIN = none := by
    refine Option.eq_none_iff_forall_ne_some.mpr fun v hv => ?_
    have hmarker := hmarked v hv
    rw [hunmarked] at hmarker
    cases hmarker
  have hpublishedLive : vm.published.liveVIN = none := hlive
  have hidle : vm.persisted = vm.published := by rw [hpersisted, persistReadyVIN_none hpublishedLive]
  have hidentity : vm.refresh.identity = vm.published.identity := by
    show vm.persisted.identity = _
    rw [hidle]
  refine ⟨?_, ?_⟩
  · rw [refresh_lastPersistedLiveVIN, hidle]
    exact hunmarked
  · rw [hidentity, published_identity hsaved hselected]
    by_cases hactive : vm.controllerActive = true
    · rw [if_pos hactive]
      exact untold_of_noLive hheld hactive hlive
    · rw [if_neg hactive]
      exact huntold

/-! ## One vehicle on screen -/

/-- The screen shows a VIN with the identity texts of that VIN, or it shows none and the identity
    texts are the ones of no decoded vehicle. -/
def ShowsOneVehicle (vm : ConnectionViewModel api) : Prop :=
  (∃ vin, vm.vehicleVINText = jagLinkStringFromCString (some vin) ∧ vm.identity = vinIdentity vin) ∨
    vm.vehicleVINText ∈ ["No vehicle loaded", "Not returned by SAE Mode 09"] ∧
      vm.identity ∈ textsWithoutVehicle

/-- A refresh publishes VIN and texts of one vehicle. -/
theorem refresh_showsOneVehicle (hsaved : vm.SavedFromVin) (hheld : vm.controller.held.Consistent)
    (hselected : vm.SelectedSaved) (huntold : vm.UntoldUnselected) : vm.refresh.ShowsOneVehicle := by
  cases hactive : vm.controllerActive with
  | true =>
    -- both are the controller's, which reads them off one VIN
    have hshown := persisted_showsController hactive
    rw [ShowsOneVehicle,
      show vm.refresh.vehicleVINText = vm.persisted.vehicleVINText from rfl,
      show vm.refresh.identity = vm.persisted.identity from rfl, hshown.vehicleVINText,
      hshown.identity, persisted_controller]
    cases hvin : vm.controller.vehicleVINText with
    | none =>
      rw [HeldVehicle.Consistent, show vm.controller.held.vin = none from hvin] at hheld
      exact Or.inr ⟨List.mem_cons_of_mem _ (List.mem_singleton_self _), hheld⟩
    | some v =>
      rw [HeldVehicle.Consistent, show vm.controller.held.vin = some v from hvin] at hheld
      obtain ⟨vin, rfl, hidentity⟩ := hheld
      exact Or.inl ⟨vin, rfl, hidentity⟩
  | false =>
    rw [ShowsOneVehicle, refresh_offline_vin hactive, refresh_offline_identity hactive]
    cases hstore : vm.storeSelectedVIN with
    | none =>
      -- the texts are left from before, when no vehicle was selected either
      rw [hsaved.selectedProfile_none hstore]
      exact Or.inr ⟨List.mem_cons_self, (huntold hstore).2⟩
    | some v =>
      -- both are of the selected profile, which was saved from one VIN
      obtain ⟨p, hp⟩ := Option.ne_none_iff_exists'.mp (hselected v hstore)
      obtain ⟨-, vin, rfl, hidentity⟩ := hsaved.saved v p hp
      have hprofile : vm.selectedProfile = some p := by
        rw [selectedProfile, hstore]
        exact hp
      rw [hprofile]
      exact Or.inl ⟨vin, rfl, restore_holdsIdentity hidentity⟩

/-- What is on screen changes by refreshing only. -/
theorem quiet_screen (vm : ConnectionViewModel api) (event : Event) :
    (vm.quiet event).vehicleVINText = vm.vehicleVINText ∧ (vm.quiet event).identity = vm.identity := by
  cases event with
  | beginConnection source =>
    show (vm.beginConnection source).vehicleVINText = _ ∧ (vm.beginConnection source).identity = _
    unfold beginConnection
    split <;> exact ⟨rfl, rfl⟩
  | selectSavedVehicle vin =>
    rw [quiet_selectSavedVehicle]
    split
    · exact ⟨rfl, rfl⟩
    · split <;> exact ⟨rfl, rfl⟩
  | flowEvent _ | sharedChanged _ | refresh | disconnect => exact ⟨rfl, rfl⟩

/-- Short of refreshing, an event publishes neither. -/
theorem quiet_showsOneVehicle {event : Event} (h : vm.ShowsOneVehicle) :
    (vm.quiet event).ShowsOneVehicle := by
  obtain ⟨hvin, hidentity⟩ := quiet_screen vm event
  rw [ShowsOneVehicle, hvin, hidentity]
  exact h

/-- Short of refreshing, no event takes a selection back. -/
theorem quiet_unselected {event : Event} (h : (vm.quiet event).storeSelectedVIN = none) :
    vm.storeSelectedVIN = none := by
  cases event with
  | selectSavedVehicle vin =>
    by_cases hrefreshes : vm.refreshes (.selectSavedVehicle vin) = true
    · rw [quiet_accepted hrefreshes] at h
      cases h
    · rwa [quiet_refused hrefreshes] at h
  | beginConnection source =>
    refine Eq.trans ?_ h
    show vm.storeSelectedVIN = (vm.beginConnection source).storeSelectedVIN
    unfold beginConnection
    split <;> rfl
  | flowEvent _ | sharedChanged _ | refresh | disconnect => exact h

/-- What an event does before it refreshes brings no vehicle on screen while none is selected. -/
theorem quiet_untoldUnselected {event : Event} (h : vm.UntoldUnselected) :
    (vm.quiet event).UntoldUnselected := by
  intro hnone
  obtain ⟨hunmarked, huntold⟩ := h (quiet_unselected hnone)
  rw [(quiet_screen vm event).2]
  refine ⟨?_, huntold⟩
  rcases quiet_lastPersistedLiveVIN vm event with hcleared | hsame
  · exact hcleared
  · exact hsame.trans hunmarked

/-- What an event does to the controller before a refresh keeps the texts with their VIN. -/
theorem quiet_savedFromVin {event : Event} (h : vm.SavedFromVin)
    (hrefreshes : vm.refreshes event = true) : (vm.quiet event).SavedFromVin := by
  refine ⟨?_, fun v p hp => h.saved v p ((quiet_profile vm event v).symm.trans hp)⟩
  rw [quiet_controller hrefreshes]
  exact h.controller

/-- Every event keeps the controller's texts with its VIN. -/
theorem step_held (event : Event) (h : vm.controller.held.Consistent) :
    (vm.step event).controller.held.Consistent := by
  refine (heldVehicle api).step_get_of_writes (P := HeldVehicle.Consistent) (fun held hwrites => ?_) h
  match event with
  | .beginConnection source =>
    simp only [heldVehicle] at hwrites
    split at hwrites
    · cases hwrites
    · obtain rfl := Option.some.inj hwrites
      exact HeldVehicle.pending_consistent
  | .flowEvent (some (.standardVin vinAvailable vin)) =>
    obtain rfl := Option.some.inj hwrites
    exact HeldVehicle.reported_consistent vinAvailable vin
  | .flowEvent (some (.liveSample _)) | .flowEvent (some .other) | .flowEvent none
  | .sharedChanged _ | .refresh | .disconnect | .selectSavedVehicle _ => cases hwrites

/-- What a run keeps.  `SavedFromVin` and the controller's part always hold; the others rest on the
    selections. -/
structure OneVehicle (vm : ConnectionViewModel api) : Prop where
  saved : vm.SavedFromVin
  held : vm.controller.held.Consistent
  selected : vm.SelectedSaved
  unselected : vm.UntoldUnselected
  shown : vm.ShowsOneVehicle

/-- A refresh keeps the whole invariant. -/
theorem refresh_oneVehicle (hsaved : vm.SavedFromVin) (hheld : vm.controller.held.Consistent)
    (hselected : vm.SelectedSaved) (huntold : vm.UntoldUnselected) : vm.refresh.OneVehicle where
  saved := refresh_savedFromVin hsaved
  held := (refresh_controller vm).symm ▸ hheld
  selected := refresh_selectedSaved hselected
  unselected := refresh_untoldUnselected hsaved hheld huntold
  shown := refresh_showsOneVehicle hsaved hheld hselected huntold

/-- Every event that selects saved vehicles only keeps the invariant. -/
theorem step_oneVehicle (vm : ConnectionViewModel api) (event : Event) (h : vm.OneVehicle)
    (hevent : SelectsSaved vm event) : (vm.step event).OneVehicle := by
  have hselected := quiet_selectedSaved h.selected hevent
  have huntold : (vm.quiet event).UntoldUnselected := quiet_untoldUnselected h.unselected
  have hsaved := step_savedFromVin h.saved event
  have hheld := step_held event h.held
  rw [step_eq] at hsaved hheld ⊢
  split
  · rename_i hrefreshes
    have hcontroller : (vm.quiet event).controller.held.Consistent :=
      (quiet_controller hrefreshes).symm ▸ h.held
    exact refresh_oneVehicle (quiet_savedFromVin h.saved hrefreshes) hcontroller hselected huntold
  · rename_i hquiet
    rw [if_neg hquiet] at hsaved hheld
    exact ⟨hsaved, hheld, hselected, huntold, quiet_showsOneVehicle h.shown⟩

/-- The invariant holds at the start. -/
theorem initial_oneVehicle (api : AppleApi) (shared : LinkDiagnosticsController) :
    (initial api shared).OneVehicle := by
  have hsettled : (initial api shared).refresh = initial api shared := refresh_refresh _
  have hsaved := initial_savedFromVin api shared
  have hheld : (initial api shared).controller.held.Consistent :=
    (initial_held api shared).symm ▸ HeldVehicle.pending_consistent
  have hselected : (initial api shared).SelectedSaved := by
    intro v hv
    rw [(shows_initial api shared).selected] at hv
    cases hv
  have huntold : (initial api shared).UntoldUnselected := by
    refine refresh_untoldUnselected ?_ HeldVehicle.pending_consistent fun _ => ⟨rfl, ?_⟩
    · exact ⟨JagLinkDiagnosticsController.identityOfVin_reset _, fun v p hp =>
        absurd (hp.symm.trans (api.store.empty_profile v)) (Option.some_ne_none p)⟩
    · show initialIdentity ∈ textsWithoutVehicle
      decide
  exact hsettled ▸ refresh_oneVehicle hsaved hheld hselected huntold

/-- **The VIN on screen and the texts on screen are of one vehicle**, and the selected vehicle is a
    saved one, in every state of every run on a fresh install in which the store accepts no
    selection of a vehicle it has not saved.  Where no VIN is on screen, no decoded vehicle is
    either. -/
theorem showsOneVehicle_run (api : AppleApi) (shared : LinkDiagnosticsController)
    (events : List Event) (h : Meets step SelectsSaved (initial api shared) events) :
    (run step (initial api shared) events).ShowsOneVehicle ∧
      (run step (initial api shared) events).SelectedSaved := by
  have hrun := run_invariant step step_oneVehicle (initial_oneVehicle api shared) h
  exact ⟨hrun.shown, hrun.selected⟩

/-- Two vehicles are read, the first is selected again. -/
theorem showsOneVehicle_twoVehicles :
    (run step (initial AppleApi.memory .idle)
        (twoVehiclesRun ++ [.selectSavedVehicle "SAJAA51K83YC00001"])).ShowsOneVehicle ∧
      (run step (initial AppleApi.memory .idle)
        (twoVehiclesRun ++ [.selectSavedVehicle "SAJAA51K83YC00001"])).SelectedSaved := by
  refine showsOneVehicle_run AppleApi.memory .idle _
    ((meets_append step).mpr ⟨?_, fun _ => ?_, trivial⟩)
  · exact ⟨trivial, trivial, trivial, trivial, trivial, trivial, trivial, trivial, trivial⟩
  · have hsaved : ((run step (initial AppleApi.memory .idle) twoVehiclesRun).profile
        "SAJAA51K83YC00001").isSome = true := by decide
    exact Option.isSome_iff_ne_none.mp hsaved

end ConnectionViewModel

end Jaglink
