/-
  The live parameters of the Apple face (`loadDiagnosticParameters` and `toggleFavourite` of
  `ConnectionViewModel.swift`, `displayed` and `graphed` of `ContentView.swift`).

  1. **Program** — every screen shows the published list.  A tap on a tile looks the parameter up by
     the tile's stable key, flips LINK's favourite flag of its PID and publishes the list anew; LINK
     publishes anew whenever its values change.

  2. **Parameters** — `ParameterApi` is LINK's catalogue and LINK's controller, which JAGLINK only
     calls: favourites are read and set by PID.  What is relied on is named: setting a favourite is
     read back (`set_self`), leaves the others alone (`set_other`), and a listed parameter is found
     under its own stable key (`finds_own`).  What LINK formats (`%.*f` of a double) and how many
     samples it keeps are its own affair.

  3. **Result (`tiles_of_taps`)** — in every run the list is the one of the controller's state and
     its tiles are those of the catalogue from the first moment on.  In every run in which LINK
     changes no favourite of its own (`KeepsFavourites`) a tile is starred exactly if it was at the
     start or was hit an odd number of times, but not both.

  4. **The crux (`step_favourite`)** — an event flips a favourite exactly if it hits the tile; the
     count over a run is an induction from the last event.
-/
import Jaglink.NetworkList
import Jaglink.Lib.Runs

namespace Jaglink

open CLib Runs

/-! ## LINK's catalogue and its controller -/

/-- `UInt8(exactly:)`. -/
def exactlyUInt8 (identifier : UInt32) : Option UInt8 :=
  if identifier.toNat < 256 then some (UInt8.ofNat identifier.toNat) else none

/-- LINK's catalogue and its shared controller, to which JAGLINK's controller forwards.  The laws
    are what a tap relies on: a definition is found under its own stable key, and a favourite flag
    reads back as it was set, one flag a PID. -/
structure ParameterApi where
  Value : Type
  /-- `String(cString:)` of bytes that are not UTF-8 -/
  repaired : List UInt8 → String
  /-- `String(format: "%.*f", decimalPlaces, value)` -/
  fixed : Nat → Value → String
  protocolName : CEnum → Option CString
  /-- `jaglink_parameter_obd2_definition_at(0 ..< count)` -/
  definitions : List (Option LinkParameterDefinition)
  definitionForStableKey : String → Option LinkParameterDefinition
  /-- the state of the shared controller -/
  Controller : Type
  displayRecentValues : Controller → UInt8 → Nat → List Value
  displayUnit : Controller → UInt8 → String
  favourite : Controller → UInt8 → Bool
  setFavourite : Controller → Bool → UInt8 → Controller
  finds_own : ∀ metadata, some metadata ∈ definitions →
    ¬(stringFrom repaired metadata.stableKey).isEmpty →
    definitionForStableKey (stringFrom repaired metadata.stableKey) = some metadata
  set_self : ∀ controller flag pid, favourite (setFavourite controller flag pid) pid = flag
  set_other : ∀ controller flag pid other, other ≠ pid →
    favourite (setFavourite controller flag pid) other = favourite controller other

variable {api : ParameterApi}

/-- A catalogue with the engine speed only, and a controller that keeps one list of samples and the
    flags, for runs on concrete inputs. -/
def ParameterApi.engineSpeedOnly : ParameterApi where
  Value := Nat
  repaired := fun _ => "\uFFFD"
  fixed := fun _ value => toString value
  protocolName := fun _ => text "OBD-II"
  definitions := [some .engineSpeed]
  definitionForStableKey := fun key => if key = "obd2.engine.rpm" then some .engineSpeed else none
  Controller := List Nat × (UInt8 → Bool)
  displayRecentValues := fun controller _ limit => controller.1.take limit
  displayUnit := fun _ _ => "rpm"
  favourite := fun controller pid => controller.2 pid
  setFavourite := fun controller flag pid =>
    (controller.1, fun other => if other = pid then flag else controller.2 other)
  finds_own := by
    intro metadata hlisted _
    obtain rfl := Option.some.inj (List.mem_singleton.mp hlisted)
    exact if_pos (stringFrom_text (by decide))
  set_self := fun _ _ _ => if_pos rfl
  set_other := fun _ _ _ _ hother => if_neg hother

/-! ## The list -/

/-- A tile. -/
structure DiagnosticParameter (api : ParameterApi) where
  id : String
  protocolName : String
  moduleIdentifier : UInt32
  parameterIdentifier : UInt32
  shortName : String
  title : String
  suffix : String
  formattedValue : String
  value : Option api.Value
  favourite : Bool
  history : List api.Value

/-- `formattedDisplayValue`. -/
def formattedDisplayValue (metadata : LinkParameterDefinition) (value : Option api.Value)
    (displayUnit : String) : String :=
  match value with
  | none => "N/A"
  | some value =>
    let suffix := if displayUnit.isEmpty then "" else " " ++ displayUnit
    api.fixed metadata.decimalPlaces value ++ suffix

/-- One round of the loop; the three guards skip it. -/
def diagnosticParameter (controller : api.Controller)
    (definition : Option LinkParameterDefinition) : Option (DiagnosticParameter api) := do
  let metadata ← definition
  let pid ← exactlyUInt8 metadata.identifier
  let history := api.displayRecentValues controller pid 60
  let value := history.getLast?
  let displayUnit := api.displayUnit controller pid
  let stableKey := stringFrom api.repaired metadata.stableKey
  if stableKey.isEmpty then none
  else some {
    id := stableKey
    protocolName := stringFrom api.repaired (api.protocolName metadata.protocol)
    moduleIdentifier := metadata.module
    parameterIdentifier := metadata.identifier
    shortName := stringFrom api.repaired metadata.shortName
    title := stringFrom api.repaired metadata.name
    suffix := displayUnit
    formattedValue := formattedDisplayValue metadata value displayUnit
    value := value
    favourite := api.favourite controller pid
    history := history }

/-- `loadDiagnosticParameters`. -/
def loadDiagnosticParameters (controller : api.Controller) : List (DiagnosticParameter api) :=
  api.definitions.filterMap (diagnosticParameter controller)

/-- The favourites, or everything if there are none. -/
def favouritesOr (values : List (DiagnosticParameter api)) : List (DiagnosticParameter api) :=
  let favourites := values.filter (·.favourite)
  if favourites.isEmpty then values else favourites

/-- `displayed` of the dashboard. -/
def displayed (parameters : List (DiagnosticParameter api)) : List (DiagnosticParameter api) :=
  (favouritesOr parameters).take 6

/-- `graphed` of the graph screen. -/
def graphed (parameters : List (DiagnosticParameter api)) : List (DiagnosticParameter api) :=
  (favouritesOr (parameters.filter fun parameter => !parameter.history.isEmpty)).take 4

/-! ## Taps -/

/-- The published list, and the controller behind it. -/
structure ParameterTiles (api : ParameterApi) where
  controller : api.Controller
  diagnosticParameters : List (DiagnosticParameter api)

namespace ParameterTiles

/-- What `refresh` does to the list. -/
def refresh (s : ParameterTiles api) : ParameterTiles api :=
  { s with diagnosticParameters := loadDiagnosticParameters s.controller }

/-- The PID a stable key stands for. -/
def pidOfKey (api : ParameterApi) (stableKey : String) : Option UInt8 :=
  (api.definitionForStableKey stableKey).bind fun definition => exactlyUInt8 definition.identifier

/-- `toggleFavourite(stableKey:)`. -/
def toggleFavourite (stableKey : String) (s : ParameterTiles api) : ParameterTiles api :=
  match pidOfKey api stableKey with
  | none => s
  | some pid =>
    let favourite := api.favourite s.controller pid
    refresh { s with controller := api.setFavourite s.controller (!favourite) pid }

/-- A tap on a tile, or LINK's controller changes. -/
inductive Event (api : ParameterApi)
  | tap (stableKey : String)
  | update (controller : api.Controller)

/-- One event. -/
def step (s : ParameterTiles api) : Event api → ParameterTiles api
  | .tap stableKey => s.toggleFavourite stableKey
  | .update controller => refresh { s with controller := controller }

/-- LINK changes no favourite of its own accord. -/
def KeepsFavourites (s : ParameterTiles api) : Event api → Prop
  | .tap _ => True
  | .update controller => ∀ pid, api.favourite controller pid = api.favourite s.controller pid

/-- After `init`. -/
def initial (controller : api.Controller) : ParameterTiles api :=
  refresh ⟨controller, []⟩

/-- The tap flips this PID. -/
def Event.hits (pid : UInt8) : Event api → Bool
  | .tap stableKey => pidOfKey api stableKey == some pid
  | .update .. => false

/-! ## One event -/

variable {s : ParameterTiles api}

/-- A tap flips the flag of the PID it hits; nothing else touches a flag. -/
theorem step_favourite {event : Event api} (h : KeepsFavourites s event) (pid : UInt8) :
    api.favourite (step s event).controller pid =
      (api.favourite s.controller pid ^^ event.hits pid) := by
  cases event with
  | update controller => exact (h pid).trans (Bool.xor_false _).symm
  | tap stableKey =>
    rw [step, toggleFavourite, Event.hits]
    cases pidOfKey api stableKey with
    | none => exact (Bool.xor_false _).symm
    | some hit =>
      by_cases hpid : pid = hit
      · subst hpid
        simp [refresh, api.set_self]
      · simp [refresh, api.set_other _ _ _ _ hpid, beq_false_of_ne (Ne.symm hpid)]

/-- The published list is the one of the controller's state. -/
def Published (s : ParameterTiles api) : Prop :=
  s.diagnosticParameters = loadDiagnosticParameters s.controller

/-- Every event publishes the tiles it leaves. -/
theorem step_published (event : Event api) (h : s.Published) : (step s event).Published := by
  cases event with
  | update controller => rfl
  | tap stableKey =>
    rw [step, toggleFavourite]
    cases pidOfKey api stableKey with
    | none => exact h
    | some pid => rfl

/-! ## Runs -/

/-- An odd number of events hit the PID. -/
def oddly (pid : UInt8) (events : List (Event api)) : Bool := events.countP (Event.hits pid) % 2 == 1

/-- A hit adds to the parity. -/
theorem oddly_snoc (pid : UInt8) (events : List (Event api)) (event : Event api) :
    oddly pid (events ++ [event]) = (oddly pid events ^^ event.hits pid) := by
  rw [oddly, oddly, List.countP_append, List.countP_singleton]
  cases event.hits pid with
  | false => simp
  | true =>
    rcases Nat.mod_two_eq_zero_or_one (events.countP (Event.hits pid)) with heven | hodd
    · simp [Nat.add_mod, heven]
    · simp [Nat.add_mod, hodd]

/-- A favourite is what it was before, flipped by an odd number of taps. -/
theorem run_favourite {events : List (Event api)} (h : Meets step KeepsFavourites s events)
    (pid : UInt8) : api.favourite (run step s events).controller pid =
      (api.favourite s.controller pid ^^ oddly pid events) := by
  induction events using List.reverseRecOn with
  | nil => exact (Bool.xor_false _).symm
  | append_singleton events event ih =>
    obtain ⟨hbefore, hlast⟩ := (meets_snoc step).mp h
    rw [run_snoc, step_favourite hlast, ih hbefore, oddly_snoc, Bool.xor_assoc]

/-- After every run the tiles on screen are those of the controller. -/
theorem run_published (controller : api.Controller) (events : List (Event api)) :
    (run step (initial controller) events).Published := by
  induction events using List.reverseRecOn with
  | nil => rfl
  | append_singleton events event ih =>
    rw [run_snoc]
    exact step_published event ih

end ParameterTiles

/-! ## The tiles -/

/-- Where a tile comes from. -/
structure TileOf (controller : api.Controller) (tile : DiagnosticParameter api)
    (metadata : LinkParameterDefinition) (pid : UInt8) : Prop where
  listed : some metadata ∈ api.definitions
  exactly : exactlyUInt8 metadata.identifier = some pid
  key : tile.id = stringFrom api.repaired metadata.stableKey
  keyed : ¬tile.id.isEmpty
  identifier : tile.parameterIdentifier = metadata.identifier
  favourite : tile.favourite = api.favourite controller pid

/-- Every tile is that of a definition LINK lists, under its PID. -/
theorem exists_tileOf {controller : api.Controller} {tile : DiagnosticParameter api}
    (h : tile ∈ loadDiagnosticParameters controller) :
    ∃ metadata pid, TileOf controller tile metadata pid := by
  obtain ⟨definition, hlisted, htile⟩ := List.mem_filterMap.mp h
  cases definition with
  | none => cases htile
  | some metadata =>
    cases hpid : exactlyUInt8 metadata.identifier with
    | none => simp [diagnosticParameter, hpid] at htile
    | some pid =>
      simp only [diagnosticParameter, hpid, Option.bind_eq_bind, Option.bind_some] at htile
      split at htile
      · cases htile
      · rename_i hkeyed
        obtain rfl := Option.some.inj htile
        exact ⟨metadata, pid, hlisted, hpid, rfl, hkeyed, rfl, rfl⟩

/-- A tap on a tile hits the PID of its parameter. -/
theorem TileOf.pidOfKey {controller : api.Controller} {tile : DiagnosticParameter api}
    {metadata : LinkParameterDefinition} {pid : UInt8} (h : TileOf controller tile metadata pid) :
    ParameterTiles.pidOfKey api tile.id = some pid := by
  have hkeyed := h.keyed
  rw [h.key] at hkeyed
  rw [ParameterTiles.pidOfKey, h.key, api.finds_own metadata h.listed hkeyed, Option.bind_some,
    h.exactly]

/-- Which tiles there are does not depend on the controller. -/
theorem loadDiagnosticParameters_ids (controller controller' : api.Controller) :
    (loadDiagnosticParameters controller).map (·.id) =
      (loadDiagnosticParameters controller').map (·.id) := by
  have hround : ∀ definition, (diagnosticParameter controller definition).map (·.id) =
      (diagnosticParameter controller' definition).map (·.id) := by
    intro definition
    cases definition with
    | none => rfl
    | some metadata =>
      cases hpid : exactlyUInt8 metadata.identifier with
      | none => simp [diagnosticParameter, hpid]
      | some pid =>
        simp only [diagnosticParameter, hpid, Option.bind_eq_bind, Option.bind_some]
        split
        · rfl
        · rfl
  rw [loadDiagnosticParameters, loadDiagnosticParameters, List.map_filterMap, List.map_filterMap,
    funext hround]

/-- A screen with a tile that has no star has no stars to choose from. -/
theorem unstarred_of_favouritesOr {values : List (DiagnosticParameter api)}
    {tile : DiagnosticParameter api} (h : tile ∈ favouritesOr values)
    (hunstarred : tile.favourite = false) : ∀ other ∈ values, other.favourite = false := by
  rw [favouritesOr] at h
  by_cases hnone : values.filter (·.favourite) = []
  · intro other hother
    simpa using List.filter_eq_nil_iff.mp hnone other hother
  · rw [if_neg (by simpa using hnone)] at h
    have hstarred := (List.mem_filter.mp h).2
    rw [hunstarred] at hstarred
    cases hstarred

/-- An unstarred tile is displayed only if nothing is starred. -/
theorem displayed_unstarred {parameters : List (DiagnosticParameter api)}
    {tile : DiagnosticParameter api} (h : tile ∈ displayed parameters)
    (hunstarred : tile.favourite = false) : ∀ other ∈ parameters, other.favourite = false :=
  unstarred_of_favouritesOr (List.mem_of_mem_take h) hunstarred

/-- Where an unstarred tile is on the graph, no tile with a history is starred. -/
theorem graphed_unstarred {parameters : List (DiagnosticParameter api)}
    {tile : DiagnosticParameter api} (h : tile ∈ graphed parameters)
    (hunstarred : tile.favourite = false) :
    ∀ other ∈ parameters, other.history ≠ [] → other.favourite = false := by
  intro other hother hhistory
  refine unstarred_of_favouritesOr (List.mem_of_mem_take h) hunstarred other ?_
  exact List.mem_filter.mpr ⟨hother, by simpa using hhistory⟩

/-- **Taps and tiles.**  After any taps and any changes of LINK's controller, in any order, the
    tiles are those of the start, and a tap on a tile hits the PID of the tile.  As long as LINK
    changes no favourite of its own accord, a tile is starred if its PID was a favourite at the
    start or has been hit an odd number of times, but not both.  The dashboard shows a tile without
    a star only if no tile has one, and the graph screen draws one without a star only if no tile
    that has samples has one. -/
theorem tiles_of_taps (controller : api.Controller) (events : List (ParameterTiles.Event api)) :
    (run ParameterTiles.step (.initial controller) events).diagnosticParameters.map (·.id) =
        (ParameterTiles.initial controller).diagnosticParameters.map (·.id) ∧
    (∀ tile ∈ (run ParameterTiles.step (.initial controller) events).diagnosticParameters,
      ∃ pid, exactlyUInt8 tile.parameterIdentifier = some pid ∧
        ParameterTiles.pidOfKey api tile.id = some pid ∧
        (Meets ParameterTiles.step ParameterTiles.KeepsFavourites (.initial controller) events →
          tile.favourite = (api.favourite controller pid ^^ ParameterTiles.oddly pid events))) ∧
    (∀ tile ∈ displayed (run ParameterTiles.step (.initial controller) events).diagnosticParameters,
      tile.favourite = false →
        ∀ other ∈ (run ParameterTiles.step (.initial controller) events).diagnosticParameters,
          other.favourite = false) ∧
    ∀ tile ∈ graphed (run ParameterTiles.step (.initial controller) events).diagnosticParameters,
      tile.favourite = false →
        ∀ other ∈ (run ParameterTiles.step (.initial controller) events).diagnosticParameters,
          other.history ≠ [] → other.favourite = false := by
  have hpublished := ParameterTiles.run_published controller events
  refine ⟨?_, fun tile htile => ?_, fun tile htile => displayed_unstarred htile,
    fun tile htile => graphed_unstarred htile⟩
  · rw [hpublished]
    exact loadDiagnosticParameters_ids _ _
  · rw [hpublished] at htile
    obtain ⟨metadata, pid, htileOf⟩ := exists_tileOf htile
    refine ⟨pid, ?_, htileOf.pidOfKey, fun hkeeps => ?_⟩
    · rw [htileOf.identifier, htileOf.exactly]
    · rw [htileOf.favourite, ParameterTiles.run_favourite hkeeps]
      rfl

/-- A star is set, taken away and set again, while samples come in. -/
def starredAgain : List (ParameterTiles.Event .engineSpeedOnly) :=
  [.tap "obd2.engine.rpm", .update ([(850 : Nat)], fun pid => pid == 0x0c), .tap "obd2.engine.rpm",
    .tap "obd2.engine.rpm"]

/-- The controller at the start: no samples and no favourites. -/
def unstarred : ParameterApi.engineSpeedOnly.Controller := (([] : List Nat), fun _ => false)

/-- In the run `starredAgain` nothing but taps moves a favourite. -/
theorem starredAgain_keepsFavourites :
    Meets ParameterTiles.step ParameterTiles.KeepsFavourites (.initial unstarred) starredAgain := by
  refine ⟨trivial, fun pid => ?_, trivial, trivial, trivial⟩
  show (pid == 0x0c) = if pid = 0x0c then true else false
  by_cases hpid : pid = 0x0c <;> simp [hpid]

/-- The tile tapped in the run `starredAgain` is starred at the end. -/
theorem tiles_of_taps_starredAgain :
    (run ParameterTiles.step (.initial unstarred) starredAgain).diagnosticParameters.map (·.id) =
        ["obd2.engine.rpm"] ∧
    ∀ tile ∈ (run ParameterTiles.step (.initial unstarred) starredAgain).diagnosticParameters,
      tile.favourite = true := by
  obtain ⟨hids, htiles, -⟩ := tiles_of_taps unstarred starredAgain
  have honly : (run ParameterTiles.step (.initial unstarred) starredAgain).diagnosticParameters.map
      (·.id) = ["obd2.engine.rpm"] := hids.trans (by decide)
  refine ⟨honly, fun tile htile => ?_⟩
  obtain ⟨pid, -, hkey, hstar⟩ := htiles tile htile
  have hid : tile.id = "obd2.engine.rpm" := by
    have hmem : tile.id ∈ ["obd2.engine.rpm"] := honly ▸ List.mem_map_of_mem htile
    exact List.mem_singleton.mp hmem
  have hpid : some 0x0c = some pid :=
    Eq.trans (by decide) ((congrArg (ParameterTiles.pidOfKey .engineSpeedOnly) hid).symm.trans hkey)
  obtain rfl := Option.some.inj hpid
  rw [hstar starredAgain_keepsFavourites]
  decide

end Jaglink
