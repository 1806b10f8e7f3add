/-
  What the two faces say about the standard VIN read.

  1. **Programs** — the Apple handler of the standard-VIN event, and `append_vehicle` of the Linux
     shell.  Both show one of four outcomes: no VIN, a VIN that does not decode, an X400, a Jaguar
     that is not confirmed to be one.

  2. **Specification** — `appleVinClass` and `linuxVinClass` read the outcome off what is on screen:
     the former by the platform text, the latter by a status or by the Platform row of the identity
     card.  `vinOutcome` is the outcome of the read itself.

  3. **Result (`faces_agree_iff`)** — the Apple face always shows the outcome.  The two agree
     exactly when there is no VIN or the VIN decodes: for a VIN that was received but does not
     decode, `append_vehicle` falls through to the branch of a VIN that never came (`linuxOutcome`).

  4. **The crux** is that nothing else on the card can pass for an outcome: the rows of a decoded
     VIN are values under labels of their own (`decodedCodeRows_titled`), so neither a status nor
     the Platform row is among them.
-/
import Jaglink.LinuxShell
import Jaglink.AppleController

namespace Jaglink

open CLib

variable {link : LinkApi}

/-- Outcome of the standard VIN read. -/
inductive VinClass
  | notReturned
  | notDecodable
  | jaguar
  | x400
  deriving DecidableEq, Repr

/-- The outcome a Linux identity card shows. -/
def linuxVinClass (identity : Card link.Reading) : Option VinClass :=
  if identity.hasStatus "STANDARD VIN NOT RETURNED · DIAGNOSTICS CONTINUE" then some .notReturned
  else if identity.hasDetail "Platform" "X400 · X-TYPE" then some .x400
  else if identity.hasDetail "Platform" "Jaguar VIN · X400 not confirmed" then some .jaguar
  else none

/-- The outcome an Apple platform text shows. -/
def appleVinClass (identity : VehicleIdentity) : Option VinClass :=
  if "Jaguar X-TYPE · X400 · ".toList <+: identity.platform.toList then some .x400
  else if identity.platform = "Jaguar VIN decoded · X400 profile not confirmed" then some .jaguar
  else if identity.platform = "VIN received · not a decodable Jaguar X400 VIN" then
    some .notDecodable
  else if identity.platform = "Jaguar identity · standard VIN unavailable" then some .notReturned
  else none

/-- The outcome of a decoded VIN. -/
def decodedClass (decoded : JaguarVinDecode) : VinClass := if decoded.x400 then .x400 else .jaguar

/-- The outcome itself. -/
def vinOutcome (vin : Option CString) : VinClass :=
  match vin with
  | none => .notReturned
  | some vin => ((decodedVin JaguarVinDecode.zero (some vin)).map decodedClass).getD .notDecodable

/-! ## The Apple face -/

/-- A decoded VIN is shown as what it is: an X400, or a Jaguar that may not be one. -/
theorem appleVinClass_decoded (decoded : JaguarVinDecode) :
    appleVinClass (decodedIdentity decoded) = some (decodedClass decoded) := by
  unfold appleVinClass decodedIdentity decodedClass
  cases decoded.x400 with
  | true =>
    rw [if_pos]
    · rfl
    · show _ <+: ("Jaguar X-TYPE · X400 · " ++ toString decoded.modelYear.toNat).toList
      rw [String.toList_append]
      exact List.prefix_append _ _
  | false =>
    have hprefix : ¬ "Jaguar X-TYPE · X400 · ".toList <+:
        "Jaguar VIN decoded · X400 profile not confirmed".toList := by decide +kernel
    simp only [Bool.false_eq_true, if_false, if_true, hprefix]

/-- **The Apple face shows every outcome as it is.** -/
theorem appleVinClass_didReceiveFlowEvent {Reading : Type} (vinAvailable : Bool)
    (vin : Option CString) (controller : JagLinkDiagnosticsController) :
    appleVinClass (controller.didReceiveFlowEvent
        (some (.standardVin vinAvailable vin : LinkDiagnosticFlowEvent Reading))).identity =
      some (vinOutcome (if vinAvailable then vin else none)) := by
  have hnone : appleVinClass noVinIdentity = some .notReturned := by decide +kernel
  match vinAvailable, vin with
  | false, _ | true, none => exact hnone
  | true, some vin =>
    show appleVinClass (vinIdentity vin) = some (vinOutcome (some vin))
    rw [vinIdentity, vinOutcome]
    cases decodedVin JaguarVinDecode.zero (some vin) with
    | none =>
      show appleVinClass _ = some .notDecodable
      decide +kernel
    | some decoded => exact appleVinClass_decoded decoded

/-! ## The Linux face -/

/-- Rows that are details under one of these labels. -/
def Titled {Reading : Type} (labels : List String) (rows : List (CardRow Reading)) : Prop :=
  ∀ row ∈ rows, ∃ label ∈ labels, ∃ value, row = textDetail label value

section Titled

variable {Reading : Type} {labels : List String} {rows rows' : List (CardRow Reading)}

/-- No rows have no other labels. -/
theorem Titled.nil : Titled labels ([] : List (CardRow Reading)) := by
  intro row hrow
  cases hrow

/-- A value under one of the labels may be added. -/
theorem Titled.cons {label : String} {value : Text} (hlabel : label ∈ labels)
    (h : Titled labels rows) : Titled labels (textDetail label value :: rows) := by
  intro row hrow
  rcases List.mem_cons.mp hrow with rfl | hrow
  · exact ⟨label, hlabel, value, rfl⟩
  · exact h row hrow

/-- Rows can be put together. -/
theorem Titled.append (h : Titled labels rows) (h' : Titled labels rows') :
    Titled labels (rows ++ rows') := by
  intro row hrow
  rcases List.mem_append.mp hrow with hrow | hrow
  · exact h row hrow
  · exact h' row hrow

/-- Titled rows hold no chip. -/
theorem Titled.isStatus (h : Titled labels rows) (t : Text) :
    rows.any (CardRow.isStatus t) = false := by
  rw [List.any_eq_false]
  intro row hrow
  obtain ⟨label, -, value, rfl⟩ := h row hrow
  simp [textDetail, CardRow.isStatus]

/-- Titled rows hold no value under another label. -/
theorem Titled.isDetail (h : Titled labels rows) {label : String} (hlabel : label ∉ labels)
    (value : Text) : rows.any (CardRow.isDetail (utf8 label) value) = false := by
  rw [List.any_eq_false]
  intro row hrow
  obtain ⟨l, hl, v, rfl⟩ := h row hrow
  have hne : utf8 l ≠ utf8 label := fun he => hlabel (utf8_inj he ▸ hl)
  simp [textDetail, CardRow.isDetail, hne]

end Titled

/-- The labels behind the Platform row. -/
def codeLabels : List String :=
  ["Market / restraint", "Body", "Body code", "Model year", "Drivetrain", "Transmission", "Steering",
    "Engine", "Engine family", "Fuel", "Displacement", "Catalogue power", "Assembly",
    "Plant / engine-line code", "Emissions", "Emissions code", "Production serial", "X400 knowledge"]

/-- The rows of the codes are values under the labels of the codes. -/
theorem decodedCodeRows_titled {Reading : Type} (decoded : JaguarVinDecode) :
    Titled codeLabels (decodedCodeRows decoded : List (CardRow Reading)) := by
  have one : ∀ {label : String} {value : Text}, label ∈ codeLabels →
      Titled codeLabels ([textDetail label value] : List (CardRow Reading)) :=
    fun h => Titled.cons h Titled.nil
  unfold decodedCodeRows
  refine .append (.append (.append (.append (.append (.append ?_ ?_) ?_) ?_) ?_) ?_) ?_
  · split
    · exact one (by decide)
    · exact .nil
  · split
    · exact one (by decide)
    · exact one (by decide)
  · split
    · exact one (by decide)
    · exact .nil
  · split
    · exact .cons (by decide) (.cons (by decide) (one (by decide)))
    · exact .nil
  · split
    · refine .append (.append ?_ ?_) (one (by decide))
      · exact .cons (by decide) (.cons (by decide) (.cons (by decide) (one (by decide))))
      · split
        · exact one (by decide)
        · exact .nil
    · exact one (by decide)
  · split
    · exact one (by decide)
    · exact one (by decide)
  · exact one (by decide)

/-- What `append_vehicle` makes of an outcome. -/
def linuxOutcome : VinClass → VinClass
  | .notDecodable => .notReturned
  | outcome => outcome

/-- A VIN that decodes is reported as what it decodes to. -/
theorem vinOutcome_of_decodedVin {stack decoded : JaguarVinDecode} {vin : Option CString}
    (h : decodedVin stack vin = some decoded) : vinOutcome vin = decodedClass decoded := by
  cases vin with
  | none => cases h
  | some vin =>
    rw [vinOutcome, decodedVin_stack _ stack, h]
    rfl

/-- On Linux a VIN that does not decode is like none. -/
theorem vinOutcome_of_none {stack : JaguarVinDecode} {vin : Option CString}
    (h : decodedVin stack vin = none) : linuxOutcome (vinOutcome vin) = .notReturned := by
  cases vin with
  | none => rfl
  | some vin =>
    rw [vinOutcome, decodedVin_stack _ stack, h]
    rfl

/-- The rows of a decoded VIN show its class. -/
theorem decodedVinRows_platform {Reading : Type} (decoded : JaguarVinDecode) (value : Text) :
    (decodedVinRows decoded : List (CardRow Reading)).any (CardRow.isDetail (utf8 "Platform") value) =
      ((if decoded.x400 then utf8 "X400 · X-TYPE" else utf8 "Jaguar VIN · X400 not confirmed") ==
        value) := by
  have htitled : Titled codeLabels (decodedCodeRows decoded : List (CardRow Reading)) :=
    decodedCodeRows_titled decoded
  have hrest := htitled.isDetail (show "Platform" ∉ codeLabels by decide) value
  have hvin : (utf8 "VIN" == utf8 "Platform") = false := by decide
  have hmaker : (utf8 "Manufacturer" == utf8 "Platform") = false := by decide
  rw [decodedVinRows, List.any_append, hrest]
  simp only [List.any_cons, List.any_nil, textDetail, CardRow.isDetail, hvin, hmaker, beq_self_eq_true,
    Bool.false_and, Bool.true_and, Bool.false_or, Bool.or_false]

/-- The rows of a decoded VIN hold no chip. -/
theorem decodedVinRows_isStatus {Reading : Type} (decoded : JaguarVinDecode) (t : Text) :
    (decodedVinRows decoded : List (CardRow Reading)).any (CardRow.isStatus t) = false := by
  rw [decodedVinRows, List.any_append, (decodedCodeRows_titled decoded).isStatus]
  rfl

/-- **The Linux face folds one outcome into another.** -/
theorem linuxVinClass_appendVehicleIdentity (stack : JaguarVinDecode)
    {context : JaglinkLinuxContext link} (hvalid : context.diagnosticValid = true)
    (hattempted : context.diagnostic.standardVinAttempted = true) :
    linuxVinClass (appendVehicleIdentity stack context) =
      some (linuxOutcome (vinOutcome (vehicleVin context))) := by
  cases hd : decodedVin stack (vehicleVin context) with
  | none =>
    have hstatus : (appendVehicleIdentity stack context).hasStatus
        "STANDARD VIN NOT RETURNED · DIAGNOSTICS CONTINUE" = true := by
      simp only [Card.hasStatus, appendVehicleIdentity, hd, hvalid, hattempted, Bool.and_self, if_true,
        List.cons_append, List.any_cons, CardRow.isStatus, beq_self_eq_true, Bool.true_or]
    rw [linuxVinClass, if_pos hstatus, vinOutcome_of_none hd]
  | some decoded =>
    have hrows : (appendVehicleIdentity stack context).rows = decodedVinRows decoded ++
        [textDetail "X400 knowledge" (utf8 "2001–2009 · 4 networks · 5 factory routes")] := by
      simp only [appendVehicleIdentity, hd, jaguarX400Profile]
      congr 2
    have hlast : Titled codeLabels ([textDetail "X400 knowledge"
        (utf8 "2001–2009 · 4 networks · 5 factory routes")] : List (CardRow link.Reading)) :=
      .cons (by decide) .nil
    have hstatus : (appendVehicleIdentity stack context).hasStatus
        "STANDARD VIN NOT RETURNED · DIAGNOSTICS CONTINUE" = false := by
      rw [Card.hasStatus, hrows, List.any_append, hlast.isStatus, decodedVinRows_isStatus]
      rfl
    have hdetail : ∀ value, (appendVehicleIdentity stack context).hasDetail "Platform" value =
        ((if decoded.x400 then utf8 "X400 · X-TYPE" else utf8 "Jaguar VIN · X400 not confirmed") ==
          utf8 value) := by
      intro value
      rw [Card.hasDetail, hrows, List.any_append, decodedVinRows_platform,
        hlast.isDetail (by decide), Bool.or_false]
    rw [linuxVinClass, hstatus, hdetail, hdetail, vinOutcome_of_decodedVin hd, decodedClass]
    cases decoded.x400 <;> decide

/-- **When the faces agree.**  With the read attempted, both faces show the same outcome and Linux
    does not deny a received VIN, exactly if every received VIN decodes. -/
theorem faces_agree_iff {Reading : Type} (stack : JaguarVinDecode) {context : JaglinkLinuxContext link}
    (controller : JagLinkDiagnosticsController) {vinAvailable : Bool} {vin : Option CString}
    (hvalid : context.diagnosticValid = true)
    (hattempted : context.diagnostic.standardVinAttempted = true)
    (hvin : context.diagnostic.standardVin = if vinAvailable then vin else none) :
    (linuxVinClass (appendVehicleIdentity stack context) =
        appleVinClass (controller.didReceiveFlowEvent
          (some (.standardVin vinAvailable vin : LinkDiagnosticFlowEvent Reading))).identity ∧
      (context.diagnostic.standardVin ≠ none →
        linuxVinClass (appendVehicleIdentity stack context) ≠ some .notReturned)) ↔
    ∀ v, context.diagnostic.standardVin = some v →
      (jaguarVinDecode (some v) (some stack)).1 = true := by
  have hv : vehicleVin context = context.diagnostic.standardVin := by rw [vehicleVin, if_pos hvalid]
  rw [linuxVinClass_appendVehicleIdentity stack hvalid hattempted, appleVinClass_didReceiveFlowEvent,
    ← hvin, hv]
  cases context.diagnostic.standardVin with
  | none => simp [vinOutcome, linuxOutcome]
  | some v =>
    simp only [← decodedVin_isSome]
    cases hd : decodedVin stack (some v) with
    | none =>
      have hclass : vinOutcome (some v) = .notDecodable := by
        rw [vinOutcome, decodedVin_stack _ stack, hd]
        rfl
      simp [hclass, linuxOutcome, hd]
    | some decoded =>
      have hclass := vinOutcome_of_decodedVin hd
      rw [hclass, decodedClass]
      cases decoded.x400 <;> simp [linuxOutcome, hd]

/-- A context whose diagnostics have attempted the standard VIN read, with this outcome. -/
def attemptedContext (vin : Option CString) : JaglinkLinuxContext LinkApi.engineSpeedOnly :=
  { JaglinkLinuxContext.initial LinkApi.engineSpeedOnly with
    connected := true
    diagnosticValid := true
    diagnostic := { LinkDiagnosticFlow.zero with
      standardVinAttempted := true
      standardVin := vin } }

/-- The identity a fresh Apple controller shows once this outcome is received. -/
def receivedIdentity (vin : Option CString) : VehicleIdentity :=
  ((JagLinkDiagnosticsController.initial LinkDiagnosticsController.idle).didReceiveFlowEvent
    (some (.standardVin true vin : LinkDiagnosticFlowEvent Nat))).identity

/-- On an X400 VIN the faces agree. -/
theorem faces_agree_x400 :
    linuxVinClass (appendVehicleIdentity JaguarVinDecode.zero
        (attemptedContext (text "SAJAA51N76XE00001"))) =
      appleVinClass (receivedIdentity (text "SAJAA51N76XE00001")) := by
  refine ((faces_agree_iff JaguarVinDecode.zero _ rfl rfl rfl).mpr ?_).1
  intro v hv
  obtain rfl := Option.some.inj hv
  decide +kernel

/-- On the VIN of another make they do not: Linux denies the VIN, Apple calls it not decodable. -/
theorem faces_disagree_foreign :
    linuxVinClass (appendVehicleIdentity JaguarVinDecode.zero
        (attemptedContext (text "WDD2073472F126610"))) = some .notReturned ∧
      appleVinClass (receivedIdentity (text "WDD2073472F126610")) = some .notDecodable := by
  decide +kernel

end Jaglink
