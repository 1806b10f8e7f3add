/-
  Both faces on one diagnostic session.

  1. **Programs** — LINK's flow reports to either face: to the Linux shell with the flow as it is,
     through `diagnostic_changed`, to the Apple controller with the event alone.

  2. **Specification** — what Linux shows is read from the last flow, what Apple shows was written
     at the last VIN event; so the two can stay together as long as the flow tells what its events
     have said (`FlowReport.Tells`).  `FacesShow` is what staying together means: both are waiting,
     or both show the outcome of the same read (Linux folds one outcome into another), and the card
     of a VIN that decodes tells Apple's texts.

  3. **Result (`faces_in_session`)** — at every moment of a session at which the flow tells that,
     the faces show the last read, whatever either face showed before the session.

  4. **The crux (`run_appleIdentity`)** — Apple's identity is a register that VIN reads write and
     nothing else does in a session, so it is that of the last read; `run_flow` is the same of the
     shell's flow, which every report writes.
-/
import Jaglink.FaceTexts
import Jaglink.LinuxHistory

namespace Jaglink

open CLib Runs

variable {link : LinkApi} {Reading : Type}

/-! ## A session -/

/-- One report of LINK's flow. -/
structure FlowReport (Reading : Type) where
  flow : LinkDiagnosticFlow
  event : Option (LinkDiagnosticFlowEvent Reading)
  active : Bool
  ready : Bool
  now : UInt64

/-- What an event says about the VIN read: nothing, or its outcome. -/
def LinkDiagnosticFlowEvent.vinRead : LinkDiagnosticFlowEvent Reading → Option (Option CString)
  | .standardVin vinAvailable vin => some (if vinAvailable then vin else none)
  | _ => none

/-- The outcome of the last VIN read, if there was one. -/
def vinRead (reports : List (FlowReport Reading)) : Option (Option CString) :=
  (reports.filterMap fun report => report.event.bind (·.vinRead)).getLast?

/-- The flow has the outcome of the last read. -/
structure FlowReport.Tells (report : FlowReport Reading) (read : Option (Option CString)) : Prop where
  attempted : report.flow.standardVinAttempted = read.isSome
  vin : report.flow.standardVin = read.join

/-- The Linux shell gets the flow and the event. -/
def FlowReport.toLinux (context : JaglinkLinuxContext link) (report : FlowReport link.Reading) :
    JaglinkLinuxContext link :=
  diagnosticChanged (some report.flow) report.event report.active report.ready report.now context

/-- The Apple controller gets the event alone. -/
def FlowReport.toApple (controller : JagLinkDiagnosticsController) (report : FlowReport Reading) :
    JagLinkDiagnosticsController :=
  controller.didReceiveFlowEvent report.event

/-! ## The Apple face -/

/-- VIN and texts after a read. -/
def appleTexts : Option CString → Option String × VehicleIdentity
  | some vin => (some (jagLinkStringFromCString (some vin)), vinIdentity vin)
  | none => (none, noVinIdentity)

/-- VIN and texts are written by the reads, and by nothing else in a session. -/
def appleIdentity (Reading : Type) :
    Register (@FlowReport.toApple Reading) (Option String × VehicleIdentity) where
  get controller := (controller.vehicleVINText, controller.identity)
  writes _ report := (report.event.bind (·.vinRead)).map appleTexts
  step_get := by
    intro controller report
    rw [FlowReport.toApple]
    match report.event with
    | some (.standardVin true (some vin)) | some (.standardVin true none)
    | some (.standardVin false _) | some (.liveSample _) | some .other | none => rfl

/-- From the start of a session Apple shows the last read. -/
theorem run_appleIdentity (controller : JagLinkDiagnosticsController)
    (reports : List (FlowReport Reading)) :
    (appleIdentity Reading).get
        (run FlowReport.toApple controller.resetVehicleIdentity reports) =
      ((vinRead reports).map appleTexts).getD (none, pendingIdentity) := by
  rw [(appleIdentity Reading).run_get, (appleIdentity Reading).lastWrite_of_events (fun _ _ => rfl),
    vinRead, ← List.getLast?_map, List.map_filterMap]
  rfl

/-! ## The Linux face -/

/-- The Linux shell shows the last flow. -/
theorem run_flow (context : JaglinkLinuxContext link) (reports : List (FlowReport link.Reading))
    (last : FlowReport link.Reading) :
    (run FlowReport.toLinux context (reports ++ [last])).diagnosticValid = true ∧
      (run FlowReport.toLinux context (reports ++ [last])).diagnostic = last.flow := by
  rw [run_snoc, FlowReport.toLinux]
  cases last.event with
  | none => exact ⟨rfl, rfl⟩
  | some event =>
    cases event with
    | liveSample sample => exact ⟨rfl, rfl⟩
    | standardVin vinAvailable vin => exact ⟨rfl, rfl⟩
    | other => exact ⟨rfl, rfl⟩

/-- A card whose read was not attempted waits for it. -/
theorem appendVehicleIdentity_waits {stack : JaguarVinDecode} {context : JaglinkLinuxContext link}
    (hvin : vehicleVin context = none) (hattempted : context.diagnostic.standardVinAttempted = false) :
    (appendVehicleIdentity stack context).hasStatus "WAITING FOR SAE MODE 09 VIN" = true := by
  have hd : decodedVin stack none = none := rfl
  simp only [Card.hasStatus, appendVehicleIdentity, hvin, hd, hattempted, Bool.and_false,
    Bool.false_eq_true, if_false, List.cons_append, List.any_cons, CardRow.isStatus,
    beq_self_eq_true, Bool.true_or]

/-! ## The session -/

/-- What card and controller show of a read. -/
def FacesShow (card : Card link.Reading) (controller : JagLinkDiagnosticsController) :
    Option (Option CString) → Prop
  | none => card.hasStatus "WAITING FOR SAE MODE 09 VIN" = true ∧
      controller.vehicleVINText = none ∧ controller.identity = pendingIdentity
  | some vin => linuxVinClass card = some (linuxOutcome (vinOutcome vin)) ∧
      appleVinClass controller.identity = some (vinOutcome vin) ∧
      ∀ stack d, decodedVin stack vin = some d → card.Tells controller.identity

/-- **The two faces stay together.**  At every moment of a session in which LINK's flow has the
    outcome of its last VIN read, both faces show that read, or wait for it: Apple its outcome,
    Linux the same with an undecodable VIN folded into a missing one, and the card of a VIN that
    decodes tells all four Apple texts.  What either face showed before does not matter. -/
theorem faces_in_session (stack : JaguarVinDecode) (context : JaglinkLinuxContext link)
    (controller : JagLinkDiagnosticsController) {reports : List (FlowReport link.Reading)}
    {last : FlowReport link.Reading} (htold : last.Tells (vinRead (reports ++ [last]))) :
    FacesShow
      (appendVehicleIdentity stack (run FlowReport.toLinux context (reports ++ [last])))
      (run FlowReport.toApple controller.resetVehicleIdentity (reports ++ [last]))
      (vinRead (reports ++ [last])) := by
  have happle := run_appleIdentity controller (reports ++ [last])
  obtain ⟨hvalid, hflow⟩ := run_flow context reports last
  generalize run FlowReport.toLinux context (reports ++ [last]) = context' at *
  generalize run FlowReport.toApple controller.resetVehicleIdentity (reports ++ [last]) = controller'
    at *
  have hattempted : context'.diagnostic.standardVinAttempted =
      (vinRead (reports ++ [last])).isSome := by
    rw [hflow, htold.attempted]
  have hvin : vehicleVin context' = (vinRead (reports ++ [last])).join := by
    rw [vehicleVin, if_pos hvalid, hflow, htold.vin]
  cases hread : vinRead (reports ++ [last]) with
  | none =>
    rw [hread] at happle hvin hattempted
    obtain ⟨htext, hidentity⟩ := Prod.ext_iff.mp happle
    exact ⟨appendVehicleIdentity_waits hvin hattempted, htext, hidentity⟩
  | some vin =>
    rw [hread] at happle hvin hattempted
    have hidentity : controller'.identity = (appleTexts vin).2 := (Prod.ext_iff.mp happle).2
    have hreceived : (controller'.didReceiveFlowEvent
        (some (.standardVin true vin : LinkDiagnosticFlowEvent link.Reading))).identity =
        (appleTexts vin).2 := by
      cases vin <;> rfl
    refine ⟨?_, ?_, fun stack' d hd => ?_⟩
    · rw [linuxVinClass_appendVehicleIdentity stack hvalid hattempted, hvin]
      rfl
    · rw [hidentity, ← hreceived, appleVinClass_didReceiveFlowEvent]
      rfl
    · cases vin with
      | none => cases hd
      | some v =>
        -- what a record held before its decode does not show on either face
        have hcard : decodedVin stack (vehicleVin context') = some d := by
          rw [hvin, ← hd]
          exact decodedVin_stack ..
        have htexts : (appleTexts (some v)).2 = decodedIdentity d := by
          show vinIdentity v = _
          rw [vinIdentity, decodedVin_stack _ stack', hd]
        rw [hidentity, htexts]
        exact tells_decodedIdentity hcard

/-- A report of a flow that has read this VIN. -/
def reportOf (vin : Option CString) (event : Option (LinkDiagnosticFlowEvent Nat)) (now : UInt64) :
    FlowReport Nat where
  flow := { LinkDiagnosticFlow.zero with
    standardVinAttempted := true
    standardVin := vin }
  event := event
  active := true
  ready := false
  now := now

/-- No VIN is returned at first, then a saloon's, then an estate's, and a sample is heard. -/
def estateReports : List (FlowReport Nat) :=
  [reportOf none (some (.standardVin false none)) 10,
    reportOf (text "SAJAA51K83YC00001") (some (.standardVin true (text "SAJAA51K83YC00001"))) 11,
    reportOf (text "sajac54k76xe00001") (some (.standardVin true (text "sajac54k76xe00001"))) 12]

/-- In a session of faces that have shown another vehicle, both show the estate. -/
theorem faces_in_session_estate :
    FacesShow
      (appendVehicleIdentity JaguarVinDecode.zero
        (run (@FlowReport.toLinux LinkApi.engineSpeedOnly)
          (FlowReport.toLinux (JaglinkLinuxContext.initial LinkApi.engineSpeedOnly)
            (reportOf (text "SAJEB51A77WF00002") (some (.liveSample ⟨0x0c, (850 : Nat)⟩)) 1))
          (estateReports ++ [reportOf (text "sajac54k76xe00001") (some (.liveSample ⟨0x0c, 900⟩)) 13])))
      (run FlowReport.toApple
        (FlowReport.toApple (JagLinkDiagnosticsController.initial LinkDiagnosticsController.idle)
          (reportOf (text "SAJEB51A77WF00002")
            (some (.standardVin true (text "SAJEB51A77WF00002"))) 1)).resetVehicleIdentity
        (estateReports ++ [reportOf (text "sajac54k76xe00001") (some (.liveSample ⟨0x0c, 900⟩)) 13]))
      (some (text "sajac54k76xe00001")) :=
  faces_in_session _ _ _ ⟨rfl, rfl⟩

end Jaglink
