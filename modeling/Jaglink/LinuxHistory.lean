/-
  The Linux shell's context as a function of the callbacks it has received.

  1. **Program** — `connection_changed` and `diagnostic_changed` write the context field by field
     and entry by entry.

  2. **Specification** — what the shell was last told of the link and of the session is the last
     callback of its kind (`lastLinkReport`, `lastSessionReport`), and under each PID there is the
     last sample heard since the last callback without a flow (`lastSample`).

  3. **Result (`context_of_callbacks`)** — the context holds exactly that, an adapter identity cut
     to the 159 bytes that fit; so every value the parameter table shows can be told from the
     callbacks (`valueFromHistory`).

  4. **The crux** — link, session and each entry of the sample table are registers of the callbacks
     (`linkState`, `sessionState`, `sampleState`), and what they write depends on the callback
     alone; the rest is the register rule.
-/
import Jaglink.LinuxSession
import Jaglink.Lib.Registers

namespace Jaglink

open CLib Runs

variable {link : LinkApi}

/-! ## What a callback says -/

/-- What `connection_changed` is told. -/
structure LinkReport (link : LinkApi) where
  transport : link.Transport
  connected : Bool
  adapterIdentity : Option CString

/-- What `diagnostic_changed` is told of the session. -/
structure SessionReport where
  flow : Option LinkDiagnosticFlow
  active : Bool
  ready : Bool

namespace ShellCallback

/-- What the callback says of the link. -/
def linkReport : ShellCallback link → Option (LinkReport link)
  | .connectionChanged transport connected adapterIdentity _ =>
    some ⟨transport, connected, adapterIdentity⟩
  | .diagnosticChanged .. => none

/-- What it says of the session. -/
def sessionReport : ShellCallback link → Option SessionReport
  | .connectionChanged .. => none
  | .diagnosticChanged flow _ active ready _ => some ⟨flow, active, ready⟩

/-- What it says about one PID: nothing, that there is no sample any more, or a sample. -/
def hears (pid : UInt8) : ShellCallback link → Option (Option (LinkObd2Sample link.Reading))
  | .diagnosticChanged none _ _ _ _ => some none
  | .diagnosticChanged (some _) (some (.liveSample sample)) _ _ _ =>
    if pid = sample.pid then some (some sample) else none
  | _ => none

end ShellCallback

/-! ## What the history says -/

variable (callbacks : List (ShellCallback link))

/-- The last the shell was told of the link. -/
def lastLinkReport : Option (LinkReport link) := (callbacks.filterMap ShellCallback.linkReport).getLast?

/-- The last it was told of the session. -/
def lastSessionReport : Option SessionReport :=
  (callbacks.filterMap ShellCallback.sessionReport).getLast?

/-- The last sample heard under this PID since the last callback without a flow. -/
def lastSample (pid : UInt8) : Option (LinkObd2Sample link.Reading) :=
  ((callbacks.filterMap (ShellCallback.hears pid)).getLast?).join

variable {callbacks}

/-! ## The context -/

/-- The entry of the sample table, if it is valid. -/
def JaglinkLinuxContext.sample (context : JaglinkLinuxContext link) (pid : UInt8) :
    Option (LinkObd2Sample link.Reading) :=
  if context.sampleValid pid then some (context.samples pid) else none

/-- The text kept of an adapter's identity: while there is a connection, what fits the array. -/
def LinkReport.identityText (report : LinkReport link) : Text :=
  match report.connected, report.adapterIdentity with
  | true, some identity => identity.bytes.take 159
  | _, _ => []

/-- The link as the context has it. -/
def linkState (link : LinkApi) : Register (@ShellCallback.step link)
    (link.Transport × Bool × Text) where
  get context := (context.transport, context.connected, context.adapterIdentity)
  writes _ callback := callback.linkReport.map fun report =>
    (report.transport, report.connected, report.identityText)
  step_get := by
    intro context callback
    cases callback with
    | connectionChanged transport connected adapterIdentity now =>
      have hidentity : (connectionChanged transport connected adapterIdentity now
          context).adapterIdentity = LinkReport.identityText ⟨transport, connected, adapterIdentity⟩ := by
        match connected, adapterIdentity with
        | true, some identity => exact formatted_eq_take (by decide) identity.nul_free
        | true, none | false, _ => rfl
      exact congrArg (fun text => (transport, connected, text)) hidentity
    | diagnosticChanged flow event active ready now =>
      cases flow with
      | none => rfl
      | some flow =>
        match event with
        | some (.liveSample _) | some (.standardVin _ _) | some .other | none => rfl

/-- The session as the context has it. -/
def sessionState (link : LinkApi) : Register (@ShellCallback.step link)
    (Bool × LinkDiagnosticFlow × Bool × Bool) where
  get context := (context.diagnosticValid, context.diagnostic, context.diagnosticActive,
    context.diagnosticReady)
  writes _ callback := callback.sessionReport.map fun report =>
    (report.flow.isSome, report.flow.getD LinkDiagnosticFlow.zero, report.active, report.ready)
  step_get := by
    intro context callback
    cases callback with
    | connectionChanged transport connected adapterIdentity now => rfl
    | diagnosticChanged flow event active ready now =>
      cases flow with
      | none => rfl
      | some flow =>
        match event with
        | some (.liveSample _) | some (.standardVin _ _) | some .other | none => rfl

/-- One entry of the sample table. -/
def sampleState (link : LinkApi) (pid : UInt8) : Register (@ShellCallback.step link)
    (Option (LinkObd2Sample link.Reading)) where
  get context := context.sample pid
  writes _ callback := callback.hears pid
  step_get := by
    intro context callback
    cases callback with
    | connectionChanged transport connected adapterIdentity now => rfl
    | diagnosticChanged flow event active ready now =>
      cases flow with
      | none => rfl
      | some flow =>
        match event with
        | some (.liveSample sample) =>
          by_cases hpid : pid = sample.pid
          · simp [JaglinkLinuxContext.sample, ShellCallback.step, diagnosticChanged,
              ShellCallback.hears, hpid]
          · simp [JaglinkLinuxContext.sample, ShellCallback.step, diagnosticChanged,
              ShellCallback.hears, hpid]
        | some (.standardVin _ _) | some .other | none => rfl

/-! ## Reading the history -/

/-- The context's link is the last one reported. -/
theorem run_linkState (link : LinkApi) (callbacks : List (ShellCallback link)) :
    (linkState link).get (run ShellCallback.step (JaglinkLinuxContext.initial link) callbacks) =
      ((lastLinkReport callbacks).map fun report =>
        (report.transport, report.connected, report.identityText)).getD
          (link.noTransport, false, []) := by
  rw [(linkState link).run_get, (linkState link).lastWrite_of_events (fun _ _ => rfl), lastLinkReport,
    ← List.getLast?_map, List.map_filterMap]
  rfl

/-- The context's session is the last one reported. -/
theorem run_sessionState (link : LinkApi) (callbacks : List (ShellCallback link)) :
    (sessionState link).get (run ShellCallback.step (JaglinkLinuxContext.initial link) callbacks) =
      ((lastSessionReport callbacks).map fun report =>
        (report.flow.isSome, report.flow.getD LinkDiagnosticFlow.zero, report.active,
          report.ready)).getD (false, LinkDiagnosticFlow.zero, false, false) := by
  rw [(sessionState link).run_get, (sessionState link).lastWrite_of_events (fun _ _ => rfl),
    lastSessionReport, ← List.getLast?_map, List.map_filterMap]
  rfl

/-- The context's sample table holds the last samples heard. -/
theorem run_sample (link : LinkApi) (callbacks : List (ShellCallback link)) (pid : UInt8) :
    (run ShellCallback.step (JaglinkLinuxContext.initial link) callbacks).sample pid =
      lastSample callbacks pid := by
  refine ((sampleState link pid).run_get _ _).trans ?_
  rw [(sampleState link pid).lastWrite_of_events (fun _ _ => rfl), lastSample]
  cases (callbacks.filterMap (ShellCallback.hears pid)).getLast? <;> rfl

/-- The value the parameter table shows under a PID, from the history. -/
def valueFromHistory (callbacks : List (ShellCallback link)) (pid : UInt8) :
    DetailValue link.Reading :=
  match lastSample callbacks pid, lastSessionReport callbacks with
  | some sample, _ => .sample sample
  | none, none => .text (utf8 "No live session")
  | none, some report =>
    if report.flow.any fun flow => !flow.supportedPids pid then
      .text (utf8 "Not supported by vehicle")
    else if report.active || report.ready then .text (utf8 "Waiting for sample")
    else .text (utf8 "No live session")

/-- **The context is determined by the callbacks.**  After any run the link and the session are the
    last ones reported (an adapter identity cut to the 159 bytes that fit); the sample table has
    under every PID the last sample heard since the last callback without a flow, and the parameter
    table shows it, or else what the last session report says about the PID. -/
theorem context_of_callbacks (link : LinkApi) (callbacks : List (ShellCallback link)) :
    (linkState link).get (run ShellCallback.step (JaglinkLinuxContext.initial link) callbacks) =
      ((lastLinkReport callbacks).map fun report =>
        (report.transport, report.connected, report.identityText)).getD
          (link.noTransport, false, []) ∧
    (sessionState link).get (run ShellCallback.step (JaglinkLinuxContext.initial link) callbacks) =
      ((lastSessionReport callbacks).map fun report =>
        (report.flow.isSome, report.flow.getD LinkDiagnosticFlow.zero, report.active,
          report.ready)).getD (false, LinkDiagnosticFlow.zero, false, false) ∧
    ∀ pid,
      (run ShellCallback.step (JaglinkLinuxContext.initial link) callbacks).sample pid =
        lastSample callbacks pid ∧
      parameterValue (run ShellCallback.step (JaglinkLinuxContext.initial link) callbacks) pid =
        valueFromHistory callbacks pid := by
  have hsession := run_sessionState link callbacks
  refine ⟨run_linkState link callbacks, hsession, fun pid => ⟨run_sample link callbacks pid, ?_⟩⟩
  have hsample := run_sample link callbacks pid
  generalize run ShellCallback.step (JaglinkLinuxContext.initial link) callbacks = context
    at hsession hsample
  rw [valueFromHistory, ← hsample, parameterValue, JaglinkLinuxContext.sample]
  by_cases hvalid : context.sampleValid pid = true
  · simp only [if_pos hvalid]
  · -- without a sample the table says what the last session report says of the PID
    rw [if_neg hvalid, if_neg hvalid]
    cases hlast : lastSessionReport callbacks with
    | none =>
      rw [hlast] at hsession
      obtain ⟨hdiagnosticValid, -, hactive, hready⟩ : context.diagnosticValid = false ∧ _ ∧
          context.diagnosticActive = false ∧ context.diagnosticReady = false := by
        simpa [sessionState] using hsession
      simp [hdiagnosticValid, hactive, hready]
    | some report =>
      rw [hlast] at hsession
      obtain ⟨hdiagnosticValid, hdiagnostic, hactive, hready⟩ :
          context.diagnosticValid = report.flow.isSome ∧
          context.diagnostic = report.flow.getD LinkDiagnosticFlow.zero ∧
          context.diagnosticActive = report.active ∧ context.diagnosticReady = report.ready := by
        simpa [sessionState] using hsession
      rw [hdiagnosticValid, hdiagnostic, hactive, hready]
      cases hflow : report.flow <;> simp [hflow]

end Jaglink
