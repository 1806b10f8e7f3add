/-
  Which vehicles are saved as Jaguars.

  1. **Program** — `saveVehicleProfile` assigns `manufacturer` the text "Jaguar" in every profile,
     whatever the VIN; the decoder's verdict reaches the identity texts only.

  2. **Specification (`OnEvidence`)** — a profile that says "Jaguar" is saved under a VIN the
     decoder accepts.

  3. **The crux (`refresh_namesJaguar`)** — after a refresh with a live VIN, that VIN's profile says
     "Jaguar", whether this refresh has saved it or an earlier one.  The invariant behind it is
     `MarkedJaguar`: the VIN persisted last has a profile that says so.

  4. **Result (`manufacturer_onEvidence_iff`)** — so the saved manufacturers rest on VIN evidence
     throughout a run in exactly those runs whose refreshes find no live VIN the decoder rejects
     (`ReadsJaguar`).  A foreign VIN of seventeen characters is enough to break it.
-/
import Jaglink.ViewModelRuns

namespace Jaglink

open CLib Runs

namespace ConnectionViewModel

variable {api : AppleApi} {vm : ConnectionViewModel api} {v w : String}

/-- `jaglink_jaguar_vin_decode` accepts the VIN. -/
def VinAccepted (v : String) : Prop :=
  (jaguarVinDecode (text v) (some JaguarVinDecode.zero)).1 = true

/-- The profile names Jaguar as the manufacturer. -/
def NamesJaguar (p : Profile) : Prop := p.string "manufacturer" = some "Jaguar"

/-- Every profile that names Jaguar is saved under a VIN the decoder accepts. -/
def OnEvidence (vm : ConnectionViewModel api) : Prop :=
  ∀ v p, vm.profile v = some p → NamesJaguar p → VinAccepted v

/-- A refreshing step finds no live VIN but one the decoder accepts. -/
def ReadsJaguar (vm : ConnectionViewModel api) (event : Event) : Prop :=
  vm.refreshes event = true → ∀ v, vm.liveVIN = some v → VinAccepted v

/-! ## Every saved profile names Jaguar -/

/-- Every save says Jaguar. -/
theorem profileToSave_namesJaguar {name : String} {snapshot : Bool} :
    NamesJaguar (vm.profileToSave v name snapshot) :=
  Profile.string_eq_some (profileToSave_identity (by simp [identityEntries]))

/-- The VIN persisted last has a profile, and it names Jaguar. -/
def MarkedJaguar (vm : ConnectionViewModel api) : Prop :=
  ∀ v, vm.lastPersistedLiveVIN = some v → ∃ p, vm.profile v = some p ∧ NamesJaguar p

/-- The profile of a recorded live VIN names Jaguar. -/
theorem recordLive_namesJaguar (vm : ConnectionViewModel api) (v : String) :
    ∃ p, (vm.recordLive v).profile v = some p ∧ NamesJaguar p :=
  ⟨_, api.store.save_self .., profileToSave_namesJaguar⟩

/-- The profile of a saved ready session says Jaguar. -/
theorem recordReady_namesJaguar (vm : ConnectionViewModel api) (v : String) :
    ∃ p, (vm.recordReady v).profile v = some p ∧ NamesJaguar p :=
  ⟨_, api.store.save_self .., profileToSave_namesJaguar⟩

/-- The first block marks the VIN it saves. -/
theorem persistLiveVIN_markedJaguar (h : vm.MarkedJaguar) : vm.persistLiveVIN.MarkedJaguar := by
  rcases persistLiveVIN_cases vm with ⟨hsame, -⟩ | ⟨u, -, -, hrecord⟩
  · rwa [hsame]
  · rw [hrecord]
    intro v hv
    obtain rfl : u = v := Option.some.inj hv
    exact recordLive_namesJaguar vm u

/-- The second block saves under the marker, and saves a Jaguar too. -/
theorem persistReadyVIN_markedJaguar (h : vm.MarkedJaguar) : vm.persistReadyVIN.MarkedJaguar := by
  rcases persistReadyVIN_cases vm with ⟨hsame, -⟩ | ⟨u, -, -, -, hrecord⟩
  · rwa [hsame]
  · rw [hrecord]
    intro v hv
    by_cases hvu : v = u
    · subst hvu
      exact recordReady_namesJaguar vm v
    · obtain ⟨p, hp, hjaguar⟩ := h v hv
      exact ⟨p, (recordReady_other vm hvu).trans hp, hjaguar⟩

/-- A refresh writes through the two blocks only. -/
theorem refresh_markedJaguar (h : vm.MarkedJaguar) : vm.refresh.MarkedJaguar := by
  have hpublished : vm.published.MarkedJaguar := h
  exact persistReadyVIN_markedJaguar (persistLiveVIN_markedJaguar hpublished)

/-- Short of refreshing, an event writes no profile and marks none. -/
theorem quiet_markedJaguar (event : Event) (h : vm.MarkedJaguar) : (vm.quiet event).MarkedJaguar := by
  intro v hv
  rw [quiet_profile]
  rcases quiet_lastPersistedLiveVIN vm event with hnone | hsame
  · rw [hnone] at hv
    cases hv
  · exact h v (hsame.symm.trans hv)

/-- Every event keeps the invariant. -/
theorem step_markedJaguar (event : Event) (h : vm.MarkedJaguar) : (vm.step event).MarkedJaguar := by
  have hquiet := quiet_markedJaguar event h
  rw [step_eq]
  split
  · exact refresh_markedJaguar hquiet
  · exact hquiet

/-- Nothing is marked in the empty store. -/
theorem initial_markedJaguar (api : AppleApi) (shared : LinkDiagnosticsController) :
    (initial api shared).MarkedJaguar := by
  refine refresh_markedJaguar fun v hv => ?_
  cases hv

/-- After every run the marked VIN's profile says Jaguar. -/
theorem run_markedJaguar (api : AppleApi) (shared : LinkDiagnosticsController)
    (events : List Event) : (run step (initial api shared) events).MarkedJaguar := by
  have hstep : ∀ (vm : ConnectionViewModel api) event, vm.MarkedJaguar →
      (vm.step event).MarkedJaguar :=
    fun _ event h => step_markedJaguar event h
  exact reachable_invariant step hstep (initial_markedJaguar api shared) ⟨events, rfl⟩

/-- **After a refresh with a live VIN, that VIN's profile names Jaguar.** -/
theorem refresh_namesJaguar (h : vm.MarkedJaguar) (hlive : vm.liveVIN = some v) :
    ∃ p, vm.refresh.profile v = some p ∧ NamesJaguar p := by
  have hpublished : vm.published.liveVIN = some v := hlive
  refine refresh_markedJaguar h v ?_
  rw [refresh_lastPersistedLiveVIN, persisted, persistReadyVIN_lastPersistedLiveVIN]
  exact persistLiveVIN_marks hpublished

/-! ## Runs on evidence -/

/-- A refresh with a decodable live VIN saves under a Jaguar's VIN. -/
theorem refresh_onEvidence (h : vm.OnEvidence) (hreads : ∀ v, vm.liveVIN = some v → VinAccepted v) :
    vm.refresh.OnEvidence := by
  intro v p hp hjaguar
  by_cases hlive : vm.liveVIN = some v
  · exact hreads v hlive
  · exact h v p ((refresh_other hlive).symm.trans hp) hjaguar

/-- Every step that reads Jaguars only keeps the profiles on evidence. -/
theorem step_onEvidence {event : Event} (h : vm.OnEvidence) (hreads : vm.ReadsJaguar event) :
    (vm.step event).OnEvidence := by
  have hquiet : (vm.quiet event).OnEvidence :=
    fun v p hp hjaguar => h v p ((quiet_profile vm event v).symm.trans hp) hjaguar
  rw [step_eq]
  split
  · rename_i hrefreshes
    refine refresh_onEvidence hquiet ?_
    rw [liveVIN_congr (quiet_controller hrefreshes)]
    exact hreads hrefreshes
  · exact hquiet

/-- A step that leaves the profiles on evidence has read no rejected VIN. -/
theorem readsJaguar_of_step {event : Event} (hmarked : vm.MarkedJaguar)
    (h : (vm.step event).OnEvidence) : vm.ReadsJaguar event := by
  intro hrefreshes v hlive
  have hquietlive : (vm.quiet event).liveVIN = some v :=
    (liveVIN_congr (quiet_controller hrefreshes)).trans hlive
  obtain ⟨p, hp, hjaguar⟩ := refresh_namesJaguar (quiet_markedJaguar event hmarked) hquietlive
  rw [step_eq, if_pos hrefreshes] at h
  exact h v p hp hjaguar

/-- In the empty store nothing is claimed. -/
theorem initial_onEvidence (api : AppleApi) (shared : LinkDiagnosticsController) :
    (initial api shared).OnEvidence := by
  refine refresh_onEvidence (fun v p hp => ?_) fun v hlive => ?_
  · have hnone := api.store.empty_profile v
    rw [show api.store.profile api.store.empty v = some p from hp] at hnone
    cases hnone
  · -- no VIN is read yet
    have hvin := (liveVIN_eq_some.mp hlive).2.1
    cases hvin

/-- **A vehicle is saved as a Jaguar on VIN evidence only, in exactly the runs whose refreshes find
    no live VIN that the decoder rejects.** -/
theorem manufacturer_onEvidence_iff (api : AppleApi) (shared : LinkDiagnosticsController)
    (events : List Event) :
    Always step (fun _ vm => vm.OnEvidence) (initial api shared) events ↔
      Meets step ReadsJaguar (initial api shared) events := by
  -- from the last event of the run
  induction events using List.reverseRecOn with
  | nil =>
    rw [always_nil]
    exact ⟨fun _ => trivial, fun _ => initial_onEvidence api shared⟩
  | append_singleton events event ih =>
    rw [always_snoc, meets_snoc, ih]
    refine and_congr_right fun hmeets => ?_
    have honEvidence : (run step (initial api shared) events).OnEvidence :=
      ih.mpr hmeets events List.prefix_rfl
    exact ⟨readsJaguar_of_step (run_markedJaguar api shared events), step_onEvidence honEvidence⟩

/-- A session that reads the VIN of another make. -/
def foreignRun : List Event :=
  [.beginConnection .automatic, .sharedChanged (.inSession false),
    .flowEvent (some (.standardVin true (text "WDD2073472F126610"))), .refresh]

/-- The decoder rejects it, the platform text says so, and the profile names Jaguar all the same. -/
theorem foreignRun_namesJaguar :
    (run step (initial AppleApi.memory .idle) foreignRun).liveVIN = some "WDD2073472F126610" ∧
    ¬VinAccepted "WDD2073472F126610" ∧
    (∃ p, (run step (initial AppleApi.memory .idle) foreignRun).profile "WDD2073472F126610" = some p ∧
      p.string "platform" = some "VIN received · not a decodable Jaguar X400 VIN" ∧
      NamesJaguar p) ∧
    ¬(run step (initial AppleApi.memory .idle) foreignRun).OnEvidence := by
  have hrejected : ¬VinAccepted "WDD2073472F126610" := by
    rw [VinAccepted]
    decide +kernel
  have hsaved : ((run step (initial AppleApi.memory .idle) foreignRun).profile
      "WDD2073472F126610").map (fun p => (p.string "platform", p.string "manufacturer")) =
      some (some "VIN received · not a decodable Jaguar X400 VIN", some "Jaguar") := by
    decide +kernel
  obtain ⟨p, hp, htexts⟩ := Option.map_eq_some_iff.mp hsaved
  rw [Prod.mk.injEq] at htexts
  exact ⟨by decide +kernel, hrejected, ⟨p, hp, htexts⟩,
    fun honEvidence => hrejected (honEvidence _ p hp htexts.2)⟩

end ConnectionViewModel

end Jaglink
