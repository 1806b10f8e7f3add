/-
  The garage: what the saved profiles are for.

  1. **An abstract model** — of each vehicle the app has met it keeps a name, the four identity
     texts, the diagnostics of its last ready session and the responders of the last session that
     had any; one vehicle is selected.  Three things happen to it: a vehicle is met, a ready session
     reports on a vehicle, the user selects one.  There are no dictionaries here, no keys, casts or
     markers.

  2. **What a garage holds** is described by registers: the diagnostics of a vehicle are those of
     the last report on it, whatever else happened in between.

  3. **Connection** — `GarageRefinement` says that the view model carries the garage out, so what is
     proved of it here is true of the store.
-/
import Jaglink.OfflineView
import Jaglink.Lib.Registers

namespace Jaglink

open Runs

/-- What is kept of a vehicle. -/
structure KeptVehicle where
  displayName : String
  identity : VehicleIdentity
  diagnostics : Option DiagnosticSnapshot
  responders : Option (List ResponderProfile)

/-- Vehicles by VIN. -/
structure Garage where
  vehicles : String → Option KeptVehicle
  selected : Option String

/-- What can happen to a garage: a vehicle is met, reports its diagnostics, or is selected. -/
inductive GarageCommand
  | meet (vin newName : String) (identity : VehicleIdentity)
  | report (vin name : String) (identity : VehicleIdentity) (diagnostics : DiagnosticSnapshot)
      (responders : List ResponderProfile)
  | select (vin : String)

namespace Garage

/-- A garage without vehicles. -/
def empty : Garage where
  vehicles := fun _ => none
  selected := none

/-- A vehicle takes the place under its VIN. -/
def keep (garage : Garage) (vin : String) (vehicle : KeptVehicle) : Garage :=
  { garage with vehicles := fun v => if v = vin then some vehicle else garage.vehicles v }

/-- A vehicle that is met keeps its name and its diagnostics; a new one has no diagnostics yet. -/
def met (garage : Garage) (vin newName : String) (identity : VehicleIdentity) : KeptVehicle :=
  match garage.vehicles vin with
  | some kept => { kept with identity := identity }
  | none =>
    { displayName := newName
      identity := identity
      diagnostics := none
      responders := none }

/-- A report replaces everything but the responders, and these if it has any. -/
def reported (garage : Garage) (vin name : String) (identity : VehicleIdentity)
    (diagnostics : DiagnosticSnapshot) (responders : List ResponderProfile) : KeptVehicle where
  displayName := name
  identity := identity
  diagnostics := some diagnostics
  responders :=
    if responders = [] then (garage.vehicles vin).bind (·.responders) else some responders

/-- What a command does. -/
def execute (garage : Garage) : GarageCommand → Garage
  | .meet vin newName identity =>
    { garage.keep vin (garage.met vin newName identity) with selected := some vin }
  | .report vin name identity diagnostics responders =>
    garage.keep vin (garage.reported vin name identity diagnostics responders)
  | .select vin => { garage with selected := some vin }

variable {v vin : String}

/-- The kept vehicle is the one under its VIN. -/
@[simp] theorem keep_self (garage : Garage) (vin : String) (vehicle : KeptVehicle) :
    (garage.keep vin vehicle).vehicles vin = some vehicle := if_pos rfl

/-- Keeping a vehicle leaves all others as they are. -/
theorem keep_other (garage : Garage) (vehicle : KeptVehicle) (h : v ≠ vin) :
    (garage.keep vin vehicle).vehicles v = garage.vehicles v := if_neg h

/-! ## Registers -/

/-- Does the command report on this vehicle? -/
def reportOn (v : String) : GarageCommand → Option DiagnosticSnapshot
  | .report vin _ _ diagnostics _ => if vin = v then some diagnostics else none
  | _ => none

/-- The diagnostics kept of a vehicle. -/
def diagnosticsOf (v : String) : Register execute (Option DiagnosticSnapshot) where
  get garage := (garage.vehicles v).bind (·.diagnostics)
  writes _ command := (reportOn v command).map some
  step_get := by
    intro garage command
    cases command with
    | meet vin newName identity =>
      show ((garage.keep vin (garage.met vin newName identity)).vehicles v).bind _ = _
      by_cases hv : v = vin
      · subst hv
        rw [keep_self, met]
        cases garage.vehicles v <;> rfl
      · rw [keep_other _ _ hv]
        rfl
    | report vin name identity diagnostics responders =>
      show ((garage.keep vin _).vehicles v).bind _ = _
      by_cases hv : v = vin
      · subst hv
        simp [reportOn, reported]
      · rw [keep_other _ _ hv]
        simp [reportOn, Ne.symm hv]
    | select vin => rfl

/-! ## What is shown of a vehicle -/

/-- Diagnostics shown of a vehicle of which none are kept. -/
def noDiagnostics : DiagnosticSnapshot := restoreSavedDiagnosticSnapshot Profile.empty

end Garage

/-- The offline view of a kept vehicle. -/
def KeptVehicle.view (vin : String) (kept : KeptVehicle) : OfflineView where
  vehicleVINText := vin
  identity := kept.identity
  profileDisplayName := kept.displayName
  snapshot := kept.diagnostics.getD Garage.noDiagnostics

end Jaglink
