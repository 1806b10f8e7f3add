/-
  Runs of the Linux shell: any sequence of `connection_changed` and `diagnostic_changed`.

  1. **Program** — `ShellCallback.step`, one callback on the context.

  2. **Specification (`PresentsCurrentLink`)** — the context is meant to present the current link
     only: a sample on screen was delivered since the last `connection_changed`, and while there is
     no connection no sample is on screen and the dashboard does not claim live ones.

  3. **It fails in general**: `connection_changed` does not clear the sample table, and two
     renderers do not look at `connected`.

  4. **Result (`presentsCurrentLink_iff`)** — the exact condition, callback by callback
     (`KeepsToLink`): a connection change must find nothing on screen, and without a connection no
     live sample may arrive and no flow may be ready.

  5. **The crux (`presentsCurrentLink_step`)** — from a state that presents the current link, one
     callback leads to such a state exactly if it meets the condition, so the condition is read off
     the step and not guessed; the run theorem is an induction from the last callback.
-/
import Jaglink.LinuxShell
import Jaglink.Lib.Runs

namespace Jaglink

open CLib Runs

variable {link : LinkApi}

/-! ## Callbacks and what is on screen -/

/-- One invocation of a shell callback, with the clock reading it takes. -/
inductive ShellCallback (link : LinkApi)
  | connectionChanged (transport : link.Transport) (connected : Bool)
      (adapterIdentity : Option CString) (now : UInt64)
  | diagnosticChanged (flow : Option LinkDiagnosticFlow)
      (event : Option (LinkDiagnosticFlowEvent link.Reading)) (active ready : Bool) (now : UInt64)

namespace ShellCallback

/-- One callback. -/
def step (context : JaglinkLinuxContext link) : ShellCallback link → JaglinkLinuxContext link
  | .connectionChanged transport connected adapterIdentity now =>
    Jaglink.connectionChanged transport connected adapterIdentity now context
  | .diagnosticChanged flow event active ready now =>
    Jaglink.diagnosticChanged flow event active ready now context

/-- The callback that reports on the link. -/
def isConnection : ShellCallback link → Bool
  | .connectionChanged .. => true
  | .diagnosticChanged .. => false

end ShellCallback

/-- A sample one of the two renderers shows, in either layout of the table. -/
def Rendered (context : JaglinkLinuxContext link) (s : LinkObd2Sample link.Reading) : Prop :=
  (∃ compact card, appendParameters compact context = .ok card ∧ s ∈ card.samples) ∨
    ∃ card, appendDashboard context = .ok card ∧ s ∈ card.samples

/-- A `LIVE_SAMPLE` event among these callbacks delivered the sample. -/
def Delivered (s : LinkObd2Sample link.Reading) (callbacks : List (ShellCallback link)) : Prop :=
  ∃ flow active ready now,
    ShellCallback.diagnosticChanged flow (some (.liveSample s)) active ready now ∈ callbacks

/-- Only data of the current link is presented. -/
def PresentsCurrentLink (history : List (ShellCallback link)) (context : JaglinkLinuxContext link) :
    Prop :=
  (∀ s, Rendered context s → Delivered s (since ShellCallback.isConnection history)) ∧
  (context.connected = false → (∀ s, ¬Rendered context s) ∧
    ∃ card, appendDashboard context = .ok card ∧ card.hasStatus "LIVE SAMPLES" = false)

/-- The PIDs the two renderers have a row for. -/
def renderedPids (link : LinkApi) : List UInt8 :=
  (link.parameterObd2Definitions.filterMap id).map (·.pid) ++
    (dashboardKeys.filterMap link.parameterObd2DefinitionForStableKey).map (·.pid)

/-- The condition on one callback, in the state before it. -/
def KeepsToLink (context : JaglinkLinuxContext link) : ShellCallback link → Prop
  | .connectionChanged _ connected _ _ =>
    (∀ pid ∈ renderedPids link, context.sampleValid pid = false) ∧
      (connected = false → context.diagnosticReady = false)
  | .diagnosticChanged flow event _ ready _ =>
    context.connected = false → ready = false ∧
      ∀ s, flow ≠ none → event = some (.liveSample s) → s.pid ∉ renderedPids link

/-! ## Reading the cards back -/

/-- Without a valid sample the table shows a text. -/
theorem parameterValue_text {context : JaglinkLinuxContext link} {pid : UInt8}
    (h : ¬context.sampleValid pid = true) : ∃ value, parameterValue context pid = .text value := by
  rw [parameterValue, if_neg h]
  split
  · exact ⟨_, rfl⟩
  · split
    · exact ⟨_, rfl⟩
    · exact ⟨_, rfl⟩

/-- The parameter card shows the valid samples of LINK's parameters. -/
theorem mem_parameters_samples {compact : Bool} {context : JaglinkLinuxContext link}
    {s : LinkObd2Sample link.Reading} : s ∈ (parametersCard compact context).samples ↔
      ∃ d ∈ link.parameterObd2Definitions.filterMap id,
        context.sampleValid d.pid = true ∧ context.samples d.pid = s := by
  rw [Card.samples, List.mem_filterMap]
  constructor
  · rintro ⟨row, hrow, hs⟩
    obtain ⟨d, hd, rfl⟩ := List.mem_map.mp hrow
    refine ⟨d, hd, ?_⟩
    by_cases hvalid : context.sampleValid d.pid = true
    · simp only [shownParameter, parameterValue, hvalid, if_true, Option.some.injEq] at hs
      exact ⟨hvalid, hs⟩
    · obtain ⟨value, htext⟩ := parameterValue_text hvalid
      rw [shownParameter, htext] at hs
      cases hs
  · rintro ⟨d, hd, hvalid, hs⟩
    refine ⟨_, List.mem_map_of_mem hd, ?_⟩
    simp only [shownParameter, parameterValue, hvalid, if_true, hs]

/-- The dashboard shows those of its own parameters. -/
theorem mem_dashboard_samples {context : JaglinkLinuxContext link} {s : LinkObd2Sample link.Reading} :
    s ∈ (dashboardCard context).samples ↔
      ∃ d ∈ dashboardKeys.filterMap link.parameterObd2DefinitionForStableKey,
        context.sampleValid d.pid = true ∧ context.samples d.pid = s := by
  rw [Card.samples, List.mem_filterMap]
  constructor
  · rintro ⟨row, hrow, hs⟩
    rcases List.mem_cons.mp hrow with rfl | hrow
    · cases hs
    obtain ⟨d, hd, rfl⟩ := List.mem_map.mp hrow
    refine ⟨d, hd, ?_⟩
    rw [shownOnDashboard] at hs
    by_cases hvalid : context.sampleValid d.pid = true
    · simp only [hvalid, if_true, Option.some.injEq] at hs
      exact ⟨hvalid, hs⟩
    · simp [hvalid] at hs
  · rintro ⟨d, hd, hvalid, hs⟩
    refine ⟨_, List.mem_cons_of_mem _ (List.mem_map_of_mem hd), ?_⟩
    simp only [shownOnDashboard, hvalid, if_true, hs]

/-- **What is on screen**: the valid entries of the sample table under a rendered PID. -/
theorem rendered_iff {context : JaglinkLinuxContext link} {s : LinkObd2Sample link.Reading} :
    Rendered context s ↔
      ∃ pid ∈ renderedPids link, context.sampleValid pid = true ∧ context.samples pid = s := by
  simp only [Rendered, appendParameters_eq, appendDashboard_eq, Except.ok.injEq, exists_eq_left',
    mem_parameters_samples, mem_dashboard_samples, renderedPids, List.mem_append]
  constructor
  · rintro (⟨-, d, hd, hvalid, hs⟩ | ⟨d, hd, hvalid, hs⟩)
    · exact ⟨d.pid, Or.inl (List.mem_map_of_mem hd), hvalid, hs⟩
    · exact ⟨d.pid, Or.inr (List.mem_map_of_mem hd), hvalid, hs⟩
  · rintro ⟨pid, hpid | hpid, hvalid, hs⟩
    · obtain ⟨d, hd, rfl⟩ := List.mem_map.mp hpid
      exact Or.inl ⟨true, d, hd, hvalid, hs⟩
    · obtain ⟨d, hd, rfl⟩ := List.mem_map.mp hpid
      exact Or.inr ⟨d, hd, hvalid, hs⟩

/-- Nothing is rendered exactly if no sample under a rendered PID is valid. -/
theorem not_rendered_iff {context : JaglinkLinuxContext link} :
    (∀ s, ¬Rendered context s) ↔ ∀ pid ∈ renderedPids link, context.sampleValid pid = false := by
  constructor
  · intro h pid hpid
    by_contra hvalid
    exact h _ (rendered_iff.mpr ⟨pid, hpid, by simpa using hvalid, rfl⟩)
  · intro h s hs
    obtain ⟨pid, hpid, hvalid, -⟩ := rendered_iff.mp hs
    rw [h pid hpid] at hvalid
    cases hvalid

/-- Without a connection the dashboard's status is decided by `diagnostic_ready` alone. -/
theorem dashboard_offline {context : JaglinkLinuxContext link} (h : context.connected = false) :
    (dashboardCard context).hasStatus "LIVE SAMPLES" = context.diagnosticReady := by
  have hrows : ∀ (l : List LinkParameterDefinition),
      (l.map (shownOnDashboard context)).any (CardRow.isStatus (utf8 "LIVE SAMPLES")) = false := by
    intro l
    rw [List.any_eq_false]
    intro row hrow
    obtain ⟨d, -, rfl⟩ := List.mem_map.mp hrow
    simp [shownOnDashboard, CardRow.isStatus]
  rw [Card.hasStatus, dashboardCard, List.any_cons, hrows, Bool.or_false, CardRow.isStatus,
    diagnosticText]
  cases context.diagnosticReady with
  | true => exact beq_self_eq_true _
  | false =>
    simp only [h, Bool.not_false, if_true, Bool.false_eq_true, if_false]
    decide

/-- Without a connection the dashboard claims no live samples exactly if `diagnostic_ready` is
    down. -/
theorem dashboard_offline_iff {context : JaglinkLinuxContext link} (h : context.connected = false) :
    (∃ card, appendDashboard context = .ok card ∧ card.hasStatus "LIVE SAMPLES" = false) ↔
      context.diagnosticReady = false := by
  rw [appendDashboard_eq, ← dashboard_offline h]
  simp only [Except.ok.injEq, exists_eq_left']

/-- The fault card, by contrast, shows nothing of a session once the connection is gone. -/
theorem appendFaults_offline {context context' : JaglinkLinuxContext link}
    (h : context.connected = false) (h' : context'.connected = false) :
    appendFaults context = appendFaults context' := by
  simp only [appendFaults, h, h', Bool.not_false, if_true]

/-! ## One callback -/

/-- A callback about the link renders nothing new and drops nothing. -/
theorem connectionChanged_rendered {transport : link.Transport} {connected : Bool}
    {adapterIdentity : Option CString} {now : UInt64} {context : JaglinkLinuxContext link}
    {s : LinkObd2Sample link.Reading} :
    Rendered (connectionChanged transport connected adapterIdentity now context) s ↔
      Rendered context s := by
  rw [rendered_iff, rendered_iff]
  rfl

section DiagnosticChanged

variable {flow : Option LinkDiagnosticFlow} {event : Option (LinkDiagnosticFlowEvent link.Reading)}
variable {active ready : Bool} {now : UInt64} {context : JaglinkLinuxContext link}
variable {s : LinkObd2Sample link.Reading}

/-- A callback about the session leaves the link as it is. -/
@[simp] theorem diagnosticChanged_connected :
    (diagnosticChanged flow event active ready now context).connected = context.connected := by
  unfold diagnosticChanged
  cases flow with
  | none => rfl
  | some flow =>
    match event with
    | some (.liveSample _) | some (.standardVin _ _) | some .other | none => rfl

/-- A callback about the session says whether it is ready. -/
@[simp] theorem diagnosticChanged_ready :
    (diagnosticChanged flow event active ready now context).diagnosticReady = ready := by
  unfold diagnosticChanged
  cases flow with
  | none => rfl
  | some flow =>
    match event with
    | some (.liveSample _) | some (.standardVin _ _) | some .other | none => rfl

/-- A live sample is stored under its PID. -/
theorem diagnosticChanged_delivers (hflow : flow ≠ none) (hevent : event = some (.liveSample s)) :
    (diagnosticChanged flow event active ready now context).sampleValid s.pid = true ∧
      (diagnosticChanged flow event active ready now context).samples s.pid = s := by
  obtain ⟨flow, rfl⟩ := Option.ne_none_iff_exists'.mp hflow
  subst hevent
  simp [diagnosticChanged]

/-- Whatever the table shows afterwards was just delivered or was there before. -/
theorem diagnosticChanged_valid {pid : UInt8}
    (h : (diagnosticChanged flow event active ready now context).sampleValid pid = true) :
    (∃ s, flow ≠ none ∧ event = some (.liveSample s) ∧ pid = s.pid ∧
      (diagnosticChanged flow event active ready now context).samples pid = s) ∨
    (context.sampleValid pid = true ∧
      (diagnosticChanged flow event active ready now context).samples pid = context.samples pid) := by
  cases flow with
  | none => cases h
  | some flow =>
    match event with
    | some (.liveSample s) =>
      by_cases hpid : pid = s.pid
      · subst hpid
        exact Or.inl ⟨s, by simp, rfl, rfl, (diagnosticChanged_delivers (by simp) rfl).2⟩
      · simp only [diagnosticChanged, hpid, if_false] at h ⊢
        exact Or.inr ⟨h, trivial⟩
    | some (.standardVin _ _) | some .other | none => exact Or.inr ⟨h, rfl⟩

end DiagnosticChanged

/-- A connection callback starts over: nothing has been delivered on the new link yet. -/
theorem presentsCurrentLink_connectionChanged (history : List (ShellCallback link))
    (context : JaglinkLinuxContext link) (transport : link.Transport) (connected : Bool)
    (adapterIdentity : Option CString) (now : UInt64) :
    PresentsCurrentLink (history ++ [.connectionChanged transport connected adapterIdentity now])
        (ShellCallback.step context
          (.connectionChanged transport connected adapterIdentity now)) ↔
      KeepsToLink context (.connectionChanged transport connected adapterIdentity now) := by
  have hsince : since ShellCallback.isConnection
      (history ++ [.connectionChanged transport connected adapterIdentity now]) = [] :=
    since_snoc_reset rfl
  have hnone : ∀ s : LinkObd2Sample link.Reading, ¬Delivered s [] := by
    rintro s ⟨_, _, _, _, hmem⟩
    cases hmem
  rw [PresentsCurrentLink, hsince, KeepsToLink, ← not_rendered_iff]
  simp only [ShellCallback.step, connectionChanged_rendered, hnone, imp_false]
  constructor
  · rintro ⟨hclear, hready⟩
    refine ⟨hclear, fun hconnected => ?_⟩
    have hoffline : (connectionChanged transport connected adapterIdentity now
        context).connected = false := hconnected
    exact (dashboard_offline_iff hoffline).mp (hready hconnected).2
  · rintro ⟨hclear, hready⟩
    refine ⟨hclear, fun hconnected => ⟨hclear, ?_⟩⟩
    exact (dashboard_offline_iff hconnected).mpr (hready hconnected)

/-- After a diagnostic callback a rendered sample was just delivered, or was rendered before. -/
theorem diagnosticChanged_rendered {flow : Option LinkDiagnosticFlow}
    {event : Option (LinkDiagnosticFlowEvent link.Reading)} {active ready : Bool} {now : UInt64}
    {context : JaglinkLinuxContext link} {s : LinkObd2Sample link.Reading}
    (h : Rendered (diagnosticChanged flow event active ready now context) s) :
    (flow ≠ none ∧ event = some (.liveSample s) ∧ s.pid ∈ renderedPids link) ∨
      Rendered context s := by
  obtain ⟨pid, hpid, hvalid, hs⟩ := rendered_iff.mp h
  rcases diagnosticChanged_valid hvalid with ⟨s', hflow, hevent, rfl, hs'⟩ | ⟨hbefore, hsame⟩
  · obtain rfl : s' = s := hs'.symm.trans hs
    exact Or.inl ⟨hflow, hevent, hpid⟩
  · exact Or.inr (rendered_iff.mpr ⟨pid, hpid, hbefore, hsame.symm.trans hs⟩)

/-- A diagnostic callback adds to what the current link has delivered. -/
theorem presentsCurrentLink_diagnosticChanged {history : List (ShellCallback link)}
    {context : JaglinkLinuxContext link} (h : PresentsCurrentLink history context)
    (flow : Option LinkDiagnosticFlow) (event : Option (LinkDiagnosticFlowEvent link.Reading))
    (active ready : Bool) (now : UInt64) :
    PresentsCurrentLink (history ++ [.diagnosticChanged flow event active ready now])
        (ShellCallback.step context (.diagnosticChanged flow event active ready now)) ↔
      KeepsToLink context (.diagnosticChanged flow event active ready now) := by
  obtain ⟨hfresh, hoffline⟩ := h
  have hsince : since ShellCallback.isConnection
      (history ++ [.diagnosticChanged flow event active ready now]) =
      since ShellCallback.isConnection history ++
        [.diagnosticChanged flow event active ready now] := since_snoc rfl
  rw [PresentsCurrentLink, hsince, KeepsToLink]
  simp only [ShellCallback.step, diagnosticChanged_connected]
  constructor
  · rintro ⟨-, hpresent⟩ hconnected
    obtain ⟨hclear, hstatus⟩ := hpresent hconnected
    rw [dashboard_offline_iff (by simpa using hconnected), diagnosticChanged_ready] at hstatus
    refine ⟨hstatus, fun s hflow hevent hpid => ?_⟩
    obtain ⟨hvalid, hs⟩ :
        (diagnosticChanged flow event active ready now context).sampleValid s.pid = true ∧ _ :=
      diagnosticChanged_delivers hflow hevent
    exact hclear s (rendered_iff.mpr ⟨s.pid, hpid, hvalid, hs⟩)
  · intro hkeeps
    refine ⟨fun s hs => ?_, fun hconnected => ⟨?_, ?_⟩⟩
    · rcases diagnosticChanged_rendered hs with ⟨-, rfl, -⟩ | hold
      · exact ⟨flow, active, ready, now, by simp⟩
      · obtain ⟨f, a, r, n, hmem⟩ := hfresh s hold
        exact ⟨f, a, r, n, List.mem_append_left _ hmem⟩
    · intro s hs
      rcases diagnosticChanged_rendered hs with ⟨hflow, hevent, hpid⟩ | hold
      · exact (hkeeps hconnected).2 s hflow hevent hpid
      · exact (hoffline hconnected).1 s hold
    · rw [dashboard_offline_iff (by simpa using hconnected), diagnosticChanged_ready]
      exact (hkeeps hconnected).1

/-- **One callback.**  From a state that presents the current link, a callback leads to such a state
    exactly if it keeps to the link. -/
theorem presentsCurrentLink_step {history : List (ShellCallback link)}
    {context : JaglinkLinuxContext link} (h : PresentsCurrentLink history context)
    (callback : ShellCallback link) :
    PresentsCurrentLink (history ++ [callback]) (ShellCallback.step context callback) ↔
      KeepsToLink context callback := by
  cases callback with
  | connectionChanged transport connected adapterIdentity now =>
    exact presentsCurrentLink_connectionChanged ..
  | diagnosticChanged flow event active ready now =>
    exact presentsCurrentLink_diagnosticChanged h ..

/-! ## Runs -/

/-- At the start there is no link and nothing is rendered. -/
theorem presentsCurrentLink_initial (link : LinkApi) :
    PresentsCurrentLink [] (JaglinkLinuxContext.initial link) := by
  have hclear : ∀ s, ¬Rendered (JaglinkLinuxContext.initial link) s :=
    not_rendered_iff.mpr fun _ _ => rfl
  exact ⟨fun s hs => absurd hs (hclear s), fun _ => ⟨hclear, (dashboard_offline_iff rfl).mpr rfl⟩⟩

/-- **Exactly when the shell presents the current link only**: throughout a run, if and only if
    every callback of the run keeps to the link in the state it meets. -/
theorem presentsCurrentLink_iff (link : LinkApi) (callbacks : List (ShellCallback link)) :
    Always ShellCallback.step PresentsCurrentLink (JaglinkLinuxContext.initial link) callbacks ↔
      Meets ShellCallback.step KeepsToLink (JaglinkLinuxContext.initial link) callbacks := by
  induction callbacks using List.reverseRecOn with
  | nil => exact ⟨fun _ => trivial, fun _ => (always_nil _).mpr (presentsCurrentLink_initial link)⟩
  | append_singleton callbacks callback ih =>
    rw [always_snoc, meets_snoc, ih]
    refine and_congr_right fun hmeets => ?_
    exact presentsCurrentLink_step (ih.mpr hmeets callbacks List.prefix_rfl) callback

/-- The link comes up, a live sample arrives, the link goes down. -/
def linkLostRun : List (ShellCallback LinkApi.engineSpeedOnly) :=
  [.connectionChanged () true (text "ELM327") 1000,
    .diagnosticChanged (some LinkDiagnosticFlow.zero) (some (.liveSample ⟨0x0c, (850 : Nat)⟩)) true true
      1100,
    .connectionChanged () false none 1200]

/-- Afterwards the old sample and the claim of live samples are still on the dashboard. -/
theorem linkLostRun_presents_old_link :
    ¬Always ShellCallback.step PresentsCurrentLink
      (JaglinkLinuxContext.initial LinkApi.engineSpeedOnly) linkLostRun := by
  intro h
  obtain ⟨-, hoffline⟩ := h linkLostRun List.prefix_rfl
  -- the flag that decides the dashboard's status is still up
  have hready := (dashboard_offline_iff rfl).mp (hoffline rfl).2
  cases hready

end Jaglink
