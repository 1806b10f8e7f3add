/-
  The fuel card of the Linux shell (`append_fuel_economy` of `main.c`).

  1. **Programs** — the arithmetic is LINK's; `FuelApi` is the part of LINK that turns a model into
     numbers and a number into digits.  The shell decides what its model hears: both callbacks feed
     it and both can throw it away.

  2. **Specification (`fuelFromHistory`)** — a model is made of records: the trip resets and the
     samples since the link or the flow was last lost, in order (`fuelRecords`).

  3. **The crux (`run_fuelEconomy`)** — that is the model the shell has after any run, by an
     induction that takes the last callback off: a loss drops the records, any other callback adds
     the one it makes, if it makes one.

  4. **Result (`fuelCard_of_history`)** — so every row of the card comes from these records, from
     whether the link was last reported up and from the factory signal (`fuelCard`).  The one thing
     the card claims, that it has measured data, is never about a link or a flow that was reported
     lost.
-/
import Jaglink.FuelSignals
import Jaglink.LinuxHistory

namespace Jaglink

open CLib Runs

variable {link : LinkApi}

/-! ## LINK's numbers -/

/-- `LinkFuelEconomySource`, by the labels of the switch. -/
inductive LinkFuelEconomySource
  | factoryDirect | factoryCounters | factoryRate | saeObd2 | estimated | mixed | none | other
  deriving DecidableEq

/-- `LinkFuelEconomySnapshot`: three quantities, each with its availability and source, and the
    trip. -/
structure LinkFuelEconomySnapshot (Number : Type) where
  instantaneousAvailable : Bool
  instantaneousLPer100km : Number
  instantaneousSource : LinkFuelEconomySource
  averageAvailable : Bool
  averageLPer100km : Number
  averageSource : LinkFuelEconomySource
  fuelRateAvailable : Bool
  fuelRateLPerHour : Number
  fuelRateSource : LinkFuelEconomySource
  tripFuelLitres : Number
  tripDistanceKm : Number
  moving : Bool

/-- The part of LINK that turns a model into numbers, and a number into digits. -/
structure FuelApi (link : LinkApi) where
  Number : Type
  /-- `%.*f` -/
  fixed : Nat → Number → Text
  fuelEconomySnapshot : link.FuelEconomy → UInt64 → LinkFuelEconomySnapshot Number

/-! ## The card -/

/-- `fuel_source_text`. -/
def fuelSourceText : LinkFuelEconomySource → String
  | .factoryDirect => "Jaguar factory direct"
  | .factoryCounters => "Jaguar factory counters"
  | .factoryRate => "Jaguar factory fuel rate"
  | .saeObd2 => "SAE OBD-II PID 0x5E + 0x0D"
  | .estimated => "Estimated"
  | .mixed => "Mixed measured sources"
  | .none | .other => "Unavailable"

namespace LinkFuelEconomySnapshot

variable {Number : Type} (snapshot : LinkFuelEconomySnapshot Number)

/-- `display_source`: the source of the first quantity there is, in this order. -/
def displaySource : LinkFuelEconomySource :=
  if snapshot.instantaneousAvailable then snapshot.instantaneousSource
  else if snapshot.fuelRateAvailable then snapshot.fuelRateSource
  else snapshot.averageSource

/-- What the chip claims. -/
def measured : Bool := snapshot.instantaneousAvailable || snapshot.fuelRateAvailable

end LinkFuelEconomySnapshot

variable (fuel : FuelApi link)

/-- The rows above the factory signal. -/
def fuelRows (snapshot : LinkFuelEconomySnapshot fuel.Number) (connected : Bool) :
    List (CardRow link.Reading) :=
  [.status (utf8 (if snapshot.measured then "MEASURED FUEL DATA ACTIVE" else "WAITING FOR FUEL DATA"))
      (stateClass snapshot.measured),
    textDetail "Instantaneous" <|
      if snapshot.instantaneousAvailable then
        formatted 64 (fuel.fixed 1 snapshot.instantaneousLPer100km ++ utf8 " L/100 km")
      else if connected && !snapshot.moving then
        formatted 64 (utf8 "— · stationary / awaiting speed")
      else formatted 64 (utf8 "Waiting for measured fuel data"),
    textDetail "Trip average" <|
      if snapshot.averageAvailable then
        formatted 64 (fuel.fixed 1 snapshot.averageLPer100km ++ utf8 " L/100 km")
      else formatted 64 (utf8 "Waiting for trip distance"),
    textDetail "Fuel rate" <|
      if snapshot.fuelRateAvailable then
        formatted 64 (fuel.fixed 2 snapshot.fuelRateLPerHour ++ utf8 " L/h")
      else formatted 64 (utf8 "Not available"),
    textDetail "Trip" <|
      formatted 96 (fuel.fixed 2 snapshot.tripFuelLitres ++ utf8 " L over " ++
        fuel.fixed 1 snapshot.tripDistanceKm ++ utf8 " km"),
    textDetail "Current source" (utf8 (fuelSourceText snapshot.displaySource))]

/-- The rows of the factory signal, if there is one. -/
def factoryFuelRows {Reading : Type} : C (List (CardRow Reading)) := do
  match ← jaguarX400FindFuelSignal (text "x400-can-fuel-used") with
  | none => return []
  | some index => factorySignalRows (← x400FuelSignals.get index)

/-- The card of a snapshot, around the rows of the factory signal. -/
def fuelCard (factory : List (CardRow link.Reading)) (snapshot : LinkFuelEconomySnapshot fuel.Number)
    (connected : Bool) : Card link.Reading where
  kicker := utf8 "FUEL ECONOMY"
  title := utf8 "Fuel use and trip consumption"
  rows := fuelRows fuel snapshot connected ++ factory ++
    [.note (utf8 ("LINK prefers a verified Jaguar factory value when available, otherwise uses " ++
      "measured SAE PID 0x5E fuel rate with PID 0x0D vehicle speed. Estimates are never presented " ++
      "as measured data."))]

/-- `now` is the reading of `monotonic_ms()` while the section is drawn. -/
def appendFuelEconomy (now : UInt64) (context : JaglinkLinuxContext link) : C (Card link.Reading) := do
  return fuelCard fuel (← factoryFuelRows) (fuel.fuelEconomySnapshot context.fuelEconomy now)
    context.connected

/-- A status chip that claims success. -/
def Card.Claims {Reading : Type} (card : Card Reading) : Prop :=
  ∃ text, .status text "state-success" ∈ card.rows

/-- The two classes differ. -/
theorem success_eq_stateClass {good : Bool} : "state-success" = stateClass good ↔ good = true := by
  cases good <;> decide

variable {fuel}

/-- The built-in signals are accepted ones, so their rows are printed; none is a chip. -/
theorem factoryFuelRows_ok {Reading : Type} : ∃ rows : List (CardRow Reading),
    factoryFuelRows = .ok rows ∧ ∀ text cssClass, .status text cssClass ∉ rows := by
  have hkeys : ∀ d ∈ x400FuelSignals.entries, NonEmptyText d.key := fun d hd =>
    (fuelSignalDefinitionIsValid_iff.mp (x400FuelSignals_valid d hd)).key
  obtain ⟨found, hfound, -, hentry⟩ :=
    findFuelSignal_finds x400FuelSignals_readable hkeys (text "x400-can-fuel-used")
  rw [factoryFuelRows, jaguarX400FindFuelSignal, hfound]
  cases found with
  | none => exact ⟨[], rfl, by simp⟩
  | some index =>
    obtain ⟨signal, hsignal, -⟩ := hentry index rfl
    have hvalid := x400FuelSignals_valid signal (List.mem_of_getElem? hsignal)
    obtain ⟨provenance, -, hprinted⟩ := @JaguarFuelSignalDefinition.WellFormed.rows Reading _
      (fuelSignalDefinitionIsValid_iff.mp hvalid)
    rw [ok_bind]
    dsimp only
    rw [CArray.get_eq_ok_iff.mpr hsignal, ok_bind, hprinted]
    exact ⟨_, rfl, by simp [textDetail]⟩

/-- Around rows that hold no chip, the card's own chip claims that there is a consumption or a
    rate. -/
theorem fuelCard_claims {factory : List (CardRow link.Reading)}
    (hchipless : ∀ text cssClass, .status text cssClass ∉ factory)
    {snapshot : LinkFuelEconomySnapshot fuel.Number} {connected : Bool} :
    (fuelCard fuel factory snapshot connected).Claims ↔ snapshot.measured = true := by
  rw [Card.Claims]
  simp [fuelCard, fuelRows, textDetail, hchipless, success_eq_stateClass]

/-- The card is drawn without a fault, and claims what its snapshot has. -/
theorem appendFuelEconomy_ok (now : UInt64) (context : JaglinkLinuxContext link) :
    ∃ card, appendFuelEconomy fuel now context = .ok card ∧ card.kicker = utf8 "FUEL ECONOMY" ∧
      (card.Claims ↔ (fuel.fuelEconomySnapshot context.fuelEconomy now).measured = true) := by
  obtain ⟨rows, hrows, hchipless⟩ := @factoryFuelRows_ok link.Reading
  rw [appendFuelEconomy, hrows]
  exact ⟨_, rfl, rfl, fuelCard_claims hchipless⟩

/-! ## The records of the model -/

/-- A trip reset or a sample, with the clock reading. -/
inductive FuelRecord (link : LinkApi)
  | tripReset (now : UInt64)
  | heard (sample : LinkObd2Sample link.Reading) (now : UInt64)

/-- What LINK makes of a record. -/
def FuelRecord.apply (fuelEconomy : link.FuelEconomy) : FuelRecord link → link.FuelEconomy
  | .tripReset now => link.fuelEconomyResetTrip fuelEconomy now
  | .heard sample now => link.fuelEconomyTick (link.fuelEconomyObserveObd2 fuelEconomy sample now) now

namespace ShellCallback

/-- The link is lost, or there is no flow any more. -/
def isLoss : ShellCallback link → Bool
  | .connectionChanged _ connected _ _ => !connected
  | .diagnosticChanged flow _ _ _ _ => flow.isNone

/-- The record a callback makes, if it makes one. -/
def fuelRecord : ShellCallback link → Option (FuelRecord link)
  | .connectionChanged _ true _ now => some (.tripReset now)
  | .diagnosticChanged (some _) (some (.liveSample sample)) _ _ now => some (.heard sample now)
  | _ => none

end ShellCallback

/-- What the model has been told since the link or the flow was last lost. -/
def fuelRecords (callbacks : List (ShellCallback link)) : List (FuelRecord link) :=
  (since ShellCallback.isLoss callbacks).filterMap ShellCallback.fuelRecord

/-- The model of these records. -/
def fuelFromHistory (callbacks : List (ShellCallback link)) : link.FuelEconomy :=
  run FuelRecord.apply link.fuelEconomyInit (fuelRecords callbacks)

/-- **The model is made of the records since the last loss**, in any interleaving of the
    callbacks. -/
theorem run_fuelEconomy (callbacks : List (ShellCallback link)) :
    (run ShellCallback.step (JaglinkLinuxContext.initial link) callbacks).fuelEconomy =
      fuelFromHistory callbacks := by
  induction callbacks using List.reverseRecOn with
  | nil => rfl
  | append_singleton callbacks callback ih =>
    rw [run_snoc, fuelFromHistory, fuelRecords]
    cases hloss : callback.isLoss with
    | true =>
      -- a loss drops the records, and the model is a fresh one
      rw [since_snoc_reset hloss]
      match callback, hloss with
      | .connectionChanged _ false _ _, _ => rfl
      | .diagnosticChanged none _ _ _ _, _ => rfl
    | false =>
      -- any other callback adds its record at the end, if it has one
      rw [since_snoc hloss, List.filterMap_append, run_append, ← fuelRecords, ← fuelFromHistory, ← ih]
      match callback, hloss with
      | .connectionChanged _ true _ _, _ => rfl
      | .diagnosticChanged (some _) (some (.liveSample _)) _ _ _, _ => rfl
      | .diagnosticChanged (some _) (some (.standardVin _ _)) _ _ _, _ => rfl
      | .diagnosticChanged (some _) (some .other) _ _ _, _ => rfl
      | .diagnosticChanged (some _) none _ _ _, _ => rfl

/-- Records without a sample are trip resets. -/
theorem tripResets_of_unheard {callbacks : List (ShellCallback link)}
    (h : ∀ sample, ¬Delivered sample callbacks) :
    ∃ resets : List UInt64, callbacks.filterMap ShellCallback.fuelRecord =
      resets.map FuelRecord.tripReset := by
  induction callbacks with
  | nil => exact ⟨[], rfl⟩
  | cons callback callbacks ih =>
    have hrest : ∀ sample, ¬Delivered sample callbacks := by
      rintro sample ⟨flow, active, ready, now, hmem⟩
      exact h sample ⟨flow, active, ready, now, List.mem_cons_of_mem _ hmem⟩
    obtain ⟨resets, hresets⟩ := ih hrest
    rw [List.filterMap_cons, hresets]
    match callback with
    | .connectionChanged _ true _ now => exact ⟨now :: resets, rfl⟩
    | .connectionChanged _ false _ _ => exact ⟨resets, rfl⟩
    | .diagnosticChanged none _ _ _ _ => exact ⟨resets, rfl⟩
    | .diagnosticChanged (some flow) (some (.liveSample sample)) active ready now =>
      exact absurd ⟨some flow, active, ready, now, List.mem_cons_self⟩ (h sample)
    | .diagnosticChanged (some _) (some (.standardVin _ _)) _ _ _ => exact ⟨resets, rfl⟩
    | .diagnosticChanged (some _) (some .other) _ _ _ => exact ⟨resets, rfl⟩
    | .diagnosticChanged (some _) none _ _ _ => exact ⟨resets, rfl⟩

/-- Whether the link was last reported up. -/
def connectedFromHistory (callbacks : List (ShellCallback link)) : Bool :=
  ((lastLinkReport callbacks).map (·.connected)).getD false

/-- The shell takes the link for what it was last reported to be. -/
theorem run_connected (callbacks : List (ShellCallback link)) :
    (run ShellCallback.step (JaglinkLinuxContext.initial link) callbacks).connected =
      connectedFromHistory callbacks := by
  refine (congrArg (·.2.1) (run_linkState link callbacks)).trans ?_
  rw [connectedFromHistory]
  cases lastLinkReport callbacks <;> rfl

/-- **The fuel card forgets what was lost.**  After any run the model is made of the records since
    the link or the flow was last lost, and the card is drawn without a fault, every row of it from
    these records and from whether the link was last reported up; it claims measured data exactly if
    LINK has some from these records.  If LINK has none before it has heard a sample, then the card
    claims it only if a sample has been heard since that loss. -/
theorem fuelCard_of_history
    (hsilent : ∀ (resets : List UInt64) now, (fuel.fuelEconomySnapshot
      (resets.foldl link.fuelEconomyResetTrip link.fuelEconomyInit) now).measured = false)
    (callbacks : List (ShellCallback link)) (now : UInt64) :
    (run ShellCallback.step (JaglinkLinuxContext.initial link) callbacks).fuelEconomy =
      fuelFromHistory callbacks ∧
    ∃ factory card, factoryFuelRows = .ok factory ∧
      card = fuelCard fuel factory (fuel.fuelEconomySnapshot (fuelFromHistory callbacks) now)
        (connectedFromHistory callbacks) ∧
      appendFuelEconomy fuel now
        (run ShellCallback.step (JaglinkLinuxContext.initial link) callbacks) = .ok card ∧
      (card.Claims ↔
        (fuel.fuelEconomySnapshot (fuelFromHistory callbacks) now).measured = true) ∧
      (card.Claims → ∃ sample, Delivered sample (since ShellCallback.isLoss callbacks)) := by
  have hrun := run_fuelEconomy callbacks
  have hconnected := run_connected callbacks
  obtain ⟨factory, hfactory, hchipless⟩ := @factoryFuelRows_ok link.Reading
  refine ⟨hrun, factory, _, hfactory, rfl, ?_, fuelCard_claims hchipless, fun hclaim => ?_⟩
  · rw [appendFuelEconomy, hfactory, hrun, hconnected]
    rfl
  -- with no sample heard the model is made of trip resets, and LINK has nothing to claim
  by_contra hnone
  obtain ⟨resets, hresets⟩ := tripResets_of_unheard (not_exists.mp hnone)
  have hmodel : fuelFromHistory callbacks =
      resets.foldl link.fuelEconomyResetTrip link.fuelEconomyInit := by
    rw [fuelFromHistory, fuelRecords, hresets, run, List.foldl_map]
    rfl
  have hmeasured := (fuelCard_claims hchipless).mp hclaim
  rw [hmodel, hsilent] at hmeasured
  cases hmeasured

/-- A LINK whose model only counts what it hears. -/
def LinkApi.countsSamples : LinkApi := { LinkApi.engineSpeedOnly with
  FuelEconomy := Nat
  fuelEconomyInit := 0
  fuelEconomyResetTrip := fun heard _ => heard
  fuelEconomyObserveObd2 := fun heard _ _ => heard + 1
  fuelEconomyTick := fun heard _ => heard }

/-- Its snapshot has a rate as soon as there is a sample. -/
def FuelApi.rateOnly : FuelApi LinkApi.countsSamples where
  Number := Nat
  fixed := fun _ number => decimal number
  fuelEconomySnapshot := fun (heard : Nat) _ =>
    { instantaneousAvailable := false
      instantaneousLPer100km := 0
      instantaneousSource := .none
      averageAvailable := false
      averageLPer100km := 0
      averageSource := .none
      fuelRateAvailable := decide (0 < heard)
      fuelRateLPerHour := 2
      fuelRateSource := .saeObd2
      tripFuelLitres := 0
      tripDistanceKm := 0
      moving := false }

/-- A rate is heard, and the link is lost and found again. -/
def refoundRun : List (ShellCallback LinkApi.countsSamples) :=
  [.connectionChanged () true none 0,
    .diagnosticChanged (some LinkDiagnosticFlow.zero) (some (.liveSample ⟨0x5e, (2 : Nat)⟩)) true true 1,
    .connectionChanged () false none 2,
    .connectionChanged () true none 3]

/-- The model of that run is of one trip reset, and the card, under a link that is up, waits for
    data. -/
theorem fuelCard_of_history_refound :
    (run ShellCallback.step (JaglinkLinuxContext.initial _) refoundRun).fuelEconomy = (0 : Nat) ∧
    ∃ factory card, factoryFuelRows = .ok factory ∧
      card = fuelCard FuelApi.rateOnly factory
        (FuelApi.rateOnly.fuelEconomySnapshot (fuelFromHistory refoundRun) 4) true ∧
      appendFuelEconomy FuelApi.rateOnly 4
        (run ShellCallback.step (JaglinkLinuxContext.initial _) refoundRun) = .ok card ∧
      ¬card.Claims := by
  have hsilent : ∀ (resets : List UInt64) now, (FuelApi.rateOnly.fuelEconomySnapshot
      (resets.foldl LinkApi.countsSamples.fuelEconomyResetTrip LinkApi.countsSamples.fuelEconomyInit)
      now).measured = false := by
    intro resets now
    have hkeeps : resets.foldl LinkApi.countsSamples.fuelEconomyResetTrip
        LinkApi.countsSamples.fuelEconomyInit = (0 : Nat) := by
      induction resets with
      | nil => rfl
      | cons reset resets ih => exact ih
    rw [hkeeps]
    rfl
  obtain ⟨hmodel, factory, card, hfactory, hcard, hdrawn, -, hclaims⟩ :=
    fuelCard_of_history hsilent refoundRun 4
  refine ⟨hmodel, factory, card, hfactory, hcard, hdrawn, fun hclaim => ?_⟩
  -- nothing has been delivered since the loss
  obtain ⟨sample, flow, active, ready, reading, hmem⟩ := hclaims hclaim
  have hsince : since ShellCallback.isLoss refoundRun = [.connectionChanged () true none 3] := rfl
  rw [hsince] at hmem
  cases List.mem_singleton.mp hmem

end Jaglink
