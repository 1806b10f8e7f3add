/-
  The CSV export of the iOS view model (`prepareCSVExport`, `clearPreparedExport`, `connect`).

  1. **Program** — the recorder bytes are copied while the view model has the main actor; a detached
     task writes them to a file of the temporary directory, and the main actor publishes or removes
     that file when it resumes.  Between the three anything else can run, so they are three events
     here: the call, the end of the write, and the completion.  File names come from `UUID()` and
     the outcome of a write from the file system; both are inputs.

  2. **What a step can do** — `stepsTo` lists it once, with the bytes it copies.

  3. **One write at a time (`OneWrite`)** — the guard on `isPreparingCSV` lets one write in,
     whatever the order of the events: there is one pending write exactly while the flag is up.

  4. **Every file is accounted for (`Evidence`)** — with names that do not repeat, each file is the
     published one or that of the pending write, and what is published is a file with the bytes
     copied for it (`csvExport_accounted`).

  5. **What `connect` does not do** is to keep a write that is already under way from being
     published; `connect_invalidates_iff` says in which runs that matters.  The crux there is that a
     completion which publishes a stale export can be told from the history alone
     (`NoStaleCompletion`), because only one write can be pending.
-/
import Jaglink.Lib.Runs

namespace Jaglink

open Runs

/-! ## State and events -/

/-- What has become of a write. -/
inductive WriteState
  | writing
  | succeeded
  | failed
  deriving DecidableEq

/-- A write that the main actor has not completed yet. -/
structure CsvWrite (Url Data : Type) where
  url : Url
  data : Data
  state : WriteState
  deriving DecidableEq

/-- The part of the view model that prepares exports, and the evidence files it has written. -/
structure CsvExport (Url Data : Type) where
  csvExportURL : Option Url
  isPreparingCSV : Bool
  writes : List (CsvWrite Url Data)
  temporaryDirectory : Url → Option Data

/-- How a write ends.  A failed one may leave something behind under its name. -/
inductive WriteOutcome (Data : Type)
  | written
  | failed (left : Option Data)

/-- What can happen to the exports, in any order the scheduler likes. -/
inductive CsvEvent (Url Data : Type)
  /-- with the recorder bytes, if there are any, and the name the export gets -/
  | prepareCSVExport (csvDataSnapshot : Option Data) (url : Url)
  | connect
  | writeEnded (index : Nat) (outcome : WriteOutcome Data)
  | completed (index : Nat)

namespace CsvExport

variable {Url Data : Type} [DecidableEq Url]

/-- Nothing exported, nothing pending, an empty directory. -/
def initial : CsvExport Url Data where
  csvExportURL := none
  isPreparingCSV := false
  writes := []
  temporaryDirectory := fun _ => none

/-- The content of the file `url` is now `content`. -/
def setFile (s : CsvExport Url Data) (url : Url) (content : Option Data) : CsvExport Url Data :=
  { s with temporaryDirectory := fun u => if u = url then content else s.temporaryDirectory u }

/-- `FileManager.default.removeItem(at:)`. -/
def removeItem (s : CsvExport Url Data) (url : Url) : CsvExport Url Data := s.setFile url none

/-- `clearPreparedExport`: the published file is removed, and nothing is published. -/
def clearPreparedExport (s : CsvExport Url Data) : CsvExport Url Data :=
  let s := match s.csvExportURL with
    | some url => s.removeItem url
    | none => s
  { s with csvExportURL := none }

@[simp] theorem clearPreparedExport_csvExportURL (s : CsvExport Url Data) :
    s.clearPreparedExport.csvExportURL = none := rfl

/-- Clearing leaves the flag alone. -/
@[simp] theorem clearPreparedExport_isPreparingCSV (s : CsvExport Url Data) :
    s.clearPreparedExport.isPreparingCSV = s.isPreparingCSV := by
  unfold clearPreparedExport
  cases s.csvExportURL <;> rfl

/-- Clearing leaves a pending write alone. -/
@[simp] theorem clearPreparedExport_writes (s : CsvExport Url Data) :
    s.clearPreparedExport.writes = s.writes := by
  unfold clearPreparedExport
  cases s.csvExportURL <;> rfl

/-- The file of the published export is gone, the others are as they were. -/
theorem clearPreparedExport_temporaryDirectory (s : CsvExport Url Data) (url : Url) :
    s.clearPreparedExport.temporaryDirectory url =
      if s.csvExportURL = some url then none else s.temporaryDirectory url := by
  unfold clearPreparedExport
  cases s.csvExportURL with
  | none => rfl
  | some old =>
    by_cases h : url = old
    · simp [removeItem, setFile, h]
    · simp [removeItem, setFile, h, Ne.symm h]

/-- `prepareCSVExport`, up to the start of its task. -/
def prepareCSVExport (csvDataSnapshot : Option Data) (url : Url) (s : CsvExport Url Data) :
    CsvExport Url Data :=
  if s.isPreparingCSV then s
  else
    match csvDataSnapshot with
    | none => s.clearPreparedExport
    | some data =>
      { s with
        isPreparingCSV := true
        writes := s.writes ++ [{ url := url, data := data, state := .writing }] }

/-- `connect` clears the export first; nothing else it does concerns exports. -/
def connect (s : CsvExport Url Data) : CsvExport Url Data := s.clearPreparedExport

/-- The detached task ends. -/
def writeEnded (index : Nat) (outcome : WriteOutcome Data) (s : CsvExport Url Data) :
    CsvExport Url Data :=
  match s.writes[index]? with
  | some { url := url, data := data, state := .writing } =>
    match outcome with
    | .written =>
      { s.setFile url (some data) with
        writes := s.writes.set index { url := url, data := data, state := .succeeded } }
    | .failed left =>
      { s.setFile url left with
        writes := s.writes.set index { url := url, data := data, state := .failed } }
  | _ => s

/-- The main actor resumes after the write: the export replaces an earlier one, or its file is
    removed. -/
def completed (index : Nat) (s : CsvExport Url Data) : CsvExport Url Data :=
  match s.writes[index]? with
  | some { url := url, state := .succeeded, .. } =>
    { s.clearPreparedExport with
      csvExportURL := some url
      isPreparingCSV := false
      writes := s.writes.eraseIdx index }
  | some { url := url, state := .failed, .. } =>
    { s.removeItem url with
      isPreparingCSV := false
      writes := s.writes.eraseIdx index }
  | _ => s

/-- One event. -/
def step (s : CsvExport Url Data) : CsvEvent Url Data → CsvExport Url Data
  | .prepareCSVExport csvDataSnapshot url => s.prepareCSVExport csvDataSnapshot url
  | .connect => s.connect
  | .writeEnded index outcome => s.writeEnded index outcome
  | .completed index => s.completed index

/-! ## What a step can do -/

/-- The bytes a step copies, with the name they get: a call that is not turned away copies them. -/
def copyOf : CsvExport Url Data × CsvEvent Url Data → Option (Url × Data)
  | (s, .prepareCSVExport (some data) url) => if s.isPreparingCSV then none else some (url, data)
  | _ => none

/-- What a step can do, with the bytes it copies. -/
inductive StepsTo (s : CsvExport Url Data) : Option (Url × Data) → CsvExport Url Data → Prop
  | same : StepsTo s none s
  | clears : StepsTo s none s.clearPreparedExport
  | accepts (url : Url) (data : Data) (hidle : s.isPreparingCSV = false) :
    StepsTo s (some (url, data))
      { s with
        isPreparingCSV := true
        writes := s.writes ++ [{ url := url, data := data, state := .writing }] }
  | succeeds (index : Nat) (url : Url) (data : Data)
    (hwrite : s.writes[index]? = some { url := url, data := data, state := .writing }) :
    StepsTo s none
      { s.setFile url (some data) with
        writes := s.writes.set index { url := url, data := data, state := .succeeded } }
  | fails (index : Nat) (url : Url) (data : Data) (left : Option Data)
    (hwrite : s.writes[index]? = some { url := url, data := data, state := .writing }) :
    StepsTo s none
      { s.setFile url left with
        writes := s.writes.set index { url := url, data := data, state := .failed } }
  | publishes (index : Nat) (url : Url) (data : Data)
    (hwrite : s.writes[index]? = some { url := url, data := data, state := .succeeded }) :
    StepsTo s none
      { s.clearPreparedExport with
        csvExportURL := some url
        isPreparingCSV := false
        writes := s.writes.eraseIdx index }
  | drops (index : Nat) (url : Url) (data : Data)
    (hwrite : s.writes[index]? = some { url := url, data := data, state := .failed }) :
    StepsTo s none
      { s.removeItem url with
        isPreparingCSV := false
        writes := s.writes.eraseIdx index }

/-- A call is turned away, has nothing to copy, or is accepted. -/
theorem prepareCSVExport_stepsTo (s : CsvExport Url Data) (csvDataSnapshot : Option Data) (url : Url) :
    StepsTo s (copyOf (s, .prepareCSVExport csvDataSnapshot url))
      (s.prepareCSVExport csvDataSnapshot url) := by
  cases hbusy : s.isPreparingCSV with
  | true =>
    have hsame : s.prepareCSVExport csvDataSnapshot url = s := if_pos hbusy
    have hnone : copyOf (s, .prepareCSVExport csvDataSnapshot url) = none := by
      cases csvDataSnapshot with
      | none => rfl
      | some data => exact if_pos hbusy
    rw [hsame, hnone]
    exact .same
  | false =>
    have hidle : ¬s.isPreparingCSV = true := by simp [hbusy]
    cases csvDataSnapshot with
    | none =>
      have hclears : s.prepareCSVExport none url = s.clearPreparedExport := if_neg hidle
      rw [hclears]
      exact .clears
    | some data =>
      have hcopies : copyOf (s, .prepareCSVExport (some data) url) = some (url, data) :=
        if_neg hidle
      have haccepts : s.prepareCSVExport (some data) url = { s with
          isPreparingCSV := true
          writes := s.writes ++ [{ url := url, data := data, state := .writing }] } :=
        if_neg hidle
      rw [hcopies, haccepts]
      exact .accepts url data hbusy

/-- Every step is one of those listed in `StepsTo`; every invariant below starts from here. -/
theorem stepsTo (s : CsvExport Url Data) (event : CsvEvent Url Data) :
    StepsTo s (copyOf (s, event)) (s.step event) := by
  cases event with
  | prepareCSVExport csvDataSnapshot url => exact s.prepareCSVExport_stepsTo csvDataSnapshot url
  | connect => exact .clears
  | writeEnded index outcome =>
    show StepsTo s none (s.writeEnded index outcome)
    unfold writeEnded
    split
    · rename_i url data hwrite
      cases outcome with
      | written => exact .succeeds index url data hwrite
      | failed left => exact .fails index url data left hwrite
    · exact .same
  | completed index =>
    show StepsTo s none (s.completed index)
    unfold completed
    split
    · rename_i url data hwrite
      exact .publishes index url data hwrite
    · rename_i url data hwrite
      exact .drops index url data hwrite
    · exact .same

/-! ## One write at a time -/

/-- A write is pending exactly while the flag is up, and there is one. -/
def OneWrite (s : CsvExport Url Data) : Prop := s.writes.length = s.isPreparingCSV.toNat

omit [DecidableEq Url] in
/-- A pending write is the only one. -/
theorem OneWrite.eq_singleton {s : CsvExport Url Data} (h : s.OneWrite) {index : Nat}
    {write : CsvWrite Url Data} (hwrite : s.writes[index]? = some write) :
    s.writes = [write] ∧ index = 0 := by
  have hle : s.writes.length ≤ 1 := by
    rw [h]
    exact Bool.toNat_le _
  obtain ⟨hlt, hget⟩ := List.getElem?_eq_some_iff.mp hwrite
  have hzero : index = 0 := by omega
  subst hzero
  refine ⟨?_, rfl⟩
  obtain ⟨only, hone⟩ := List.length_eq_one_iff.mp (show s.writes.length = 1 by omega)
  simp only [hone, List.getElem_cons_zero] at hget
  rw [hone, hget]

omit [DecidableEq Url] in
/-- Completing the pending write leaves none. -/
theorem OneWrite.eraseIdx_eq_nil {s : CsvExport Url Data} (h : s.OneWrite) {index : Nat}
    {write : CsvWrite Url Data} (hwrite : s.writes[index]? = some write) :
    s.writes.eraseIdx index = [] := by
  obtain ⟨hwrites, rfl⟩ := h.eq_singleton hwrite
  rw [hwrites]
  rfl

/-- No step makes a second write pending. -/
theorem stepsTo_oneWrite {s s' : CsvExport Url Data} {copy : Option (Url × Data)}
    (h : StepsTo s copy s') (hone : s.OneWrite) : s'.OneWrite := by
  cases h with
  | same => exact hone
  | clears =>
    rw [OneWrite, clearPreparedExport_writes, clearPreparedExport_isPreparingCSV]
    exact hone
  | accepts url data hidle =>
    have hempty : s.writes.length = 0 := by
      rw [OneWrite, hidle] at hone
      exact hone
    rw [OneWrite, List.length_append, hempty]
    rfl
  | succeeds index url data hwrite | fails index url data left hwrite =>
    rw [OneWrite, List.length_set]
    exact hone
  | publishes index url data hwrite | drops index url data hwrite =>
    rw [OneWrite, hone.eraseIdx_eq_nil hwrite]
    rfl

/-- At most one write is pending after every run, and the flag says whether one is. -/
theorem run_oneWrite {s : CsvExport Url Data} (hone : s.OneWrite)
    (events : List (CsvEvent Url Data)) : (run step s events).OneWrite := by
  have hstep : ∀ (s : CsvExport Url Data) event, s.OneWrite → (s.step event).OneWrite :=
    fun s event h => stepsTo_oneWrite (stepsTo s event) h
  exact reachable_invariant step hstep hone ⟨events, rfl⟩

/-! ## Every file is accounted for -/

/-- The exports copied in a run, in order. -/
def copied (s : CsvExport Url Data) (events : List (CsvEvent Url Data)) : List (Url × Data) :=
  (steps step s events).filterMap copyOf

/-- The last event copies the last bytes, if any. -/
theorem copied_snoc (s : CsvExport Url Data) (events : List (CsvEvent Url Data))
    (event : CsvEvent Url Data) : copied s (events ++ [event]) =
      copied s events ++ (copyOf (run step s events, event)).toList := by
  rw [copied, steps_snoc, List.filterMap_append]
  cases h : copyOf (run step s events, event) <;> simp [h, copied]

/-- Every file is the published one or that of the pending write; the published one is complete. -/
structure Evidence (copies : List (Url × Data)) (s : CsvExport Url Data) : Prop where
  one : s.OneWrite
  published : ∀ url, s.csvExportURL = some url →
    ∃ data, (url, data) ∈ copies ∧ s.temporaryDirectory url = some data
  pending : ∀ write ∈ s.writes, (write.url, write.data) ∈ copies ∧
    s.csvExportURL ≠ some write.url ∧
    (write.state = .succeeded → s.temporaryDirectory write.url = some write.data)
  accounted : ∀ url, s.temporaryDirectory url ≠ none →
    s.csvExportURL = some url ∨ ∃ write ∈ s.writes, write.url = url

/-- The written file has the new content. -/
theorem setFile_self (s : CsvExport Url Data) (url : Url) (content : Option Data) :
    (s.setFile url content).temporaryDirectory url = content := if_pos rfl

/-- A write leaves the other files alone. -/
theorem setFile_other (s : CsvExport Url Data) {url u : Url} (content : Option Data) (h : u ≠ url) :
    (s.setFile url content).temporaryDirectory u = s.temporaryDirectory u := if_neg h

section Steps

variable {s : CsvExport Url Data} {copies : List (Url × Data)} {index : Nat} {url : Url} {data : Data}

/-- Clearing drops the published file from the account and from the directory. -/
theorem Evidence.clears (h : Evidence copies s) : Evidence copies s.clearPreparedExport where
  one := stepsTo_oneWrite .clears h.one
  published := by
    intro url hurl
    cases hurl
  pending := by
    intro write hwrite
    rw [clearPreparedExport_writes] at hwrite
    obtain ⟨hcopied, hother, hcomplete⟩ := h.pending write hwrite
    refine ⟨hcopied, by simp, fun hstate => ?_⟩
    rw [clearPreparedExport_temporaryDirectory, if_neg hother]
    exact hcomplete hstate
  accounted := by
    intro url hfile
    rw [clearPreparedExport_temporaryDirectory] at hfile
    rw [clearPreparedExport_writes]
    split at hfile
    · exact absurd rfl hfile
    · rename_i hother
      exact Or.inr ((h.accounted url hfile).resolve_left hother)

/-- A name not used before is not the published one, so the new write is pending beside it. -/
theorem Evidence.accepts (h : Evidence copies s) (hidle : s.isPreparingCSV = false)
    (hfresh : url ∉ copies.map Prod.fst) : Evidence (copies ++ [(url, data)]) { s with
      isPreparingCSV := true
      writes := s.writes ++ [{ url := url, data := data, state := .writing }] } where
  one := stepsTo_oneWrite (.accepts url data hidle) h.one
  published := by
    intro u hu
    obtain ⟨d, hcopied, hfile⟩ := h.published u hu
    exact ⟨d, List.mem_append_left _ hcopied, hfile⟩
  pending := by
    intro write hwrite
    rcases List.mem_append.mp hwrite with hold | hnew
    · obtain ⟨hcopied, hother, hcomplete⟩ := h.pending write hold
      exact ⟨List.mem_append_left _ hcopied, hother, hcomplete⟩
    · rw [List.mem_singleton] at hnew
      subst hnew
      refine ⟨List.mem_append_right _ (List.mem_singleton_self _), fun hpublished => ?_,
        fun hstate => nomatch hstate⟩
      obtain ⟨d, hcopied, -⟩ := h.published url hpublished
      exact hfresh (List.mem_map_of_mem hcopied)
  accounted := by
    intro u hfile
    rcases h.accounted u hfile with hpublished | ⟨write, hwrite, hurl⟩
    · exact Or.inl hpublished
    · exact Or.inr ⟨write, List.mem_append_left _ hwrite, hurl⟩

/-- The end of a write touches no file but its own. -/
theorem Evidence.ends (h : Evidence copies s) {content : Option Data} {state : WriteState}
    (hwrite : s.writes[index]? = some { url := url, data := data, state := .writing })
    (hcontent : state = .succeeded → content = some data) : Evidence copies
      { s.setFile url content with
        writes := s.writes.set index { url := url, data := data, state := state } } := by
  obtain ⟨hwrites, rfl⟩ := h.one.eq_singleton hwrite
  obtain ⟨hcopied, hother, -⟩ := h.pending _ (List.mem_of_getElem? hwrite)
  have hset : s.writes.set 0 { url := url, data := data, state := state } =
      [{ url := url, data := data, state := state }] := by
    rw [hwrites]
    rfl
  have hone : s.isPreparingCSV.toNat = 1 := by
    rw [← h.one, hwrites]
    rfl
  rw [hset]
  constructor
  case one => exact hone.symm
  case published =>
    intro u hu
    obtain ⟨d, hd, hfile⟩ := h.published u hu
    have hne : u ≠ url := fun hsame => hother (hsame ▸ hu)
    exact ⟨d, hd, (setFile_other s content hne).trans hfile⟩
  case pending =>
    intro write hmem
    rw [List.mem_singleton] at hmem
    subst hmem
    exact ⟨hcopied, hother, fun hstate => (setFile_self s url content).trans (hcontent hstate)⟩
  case accounted =>
    intro u hfile
    by_cases hu : u = url
    · exact Or.inr ⟨_, List.mem_singleton_self _, hu.symm⟩
    · have hold : s.temporaryDirectory u ≠ none :=
        fun hnone => hfile ((setFile_other s content hu).trans hnone)
      rcases h.accounted u hold with hpublished | ⟨write, hmem, hurl⟩
      · exact Or.inl hpublished
      · rw [hwrites, List.mem_singleton] at hmem
        exact absurd (hurl.symm.trans (congrArg CsvWrite.url hmem)) hu

/-- A pending write that is published replaces the earlier export, whose file is removed. -/
theorem Evidence.publishes (h : Evidence copies s)
    (hwrite : s.writes[index]? = some { url := url, data := data, state := .succeeded }) :
    Evidence copies { s.clearPreparedExport with
      csvExportURL := some url
      isPreparingCSV := false
      writes := s.writes.eraseIdx index } := by
  obtain ⟨hwrites, -⟩ := h.one.eq_singleton hwrite
  obtain ⟨hcopied, hother, hcomplete⟩ := h.pending _ (List.mem_of_getElem? hwrite)
  rw [h.one.eraseIdx_eq_nil hwrite]
  constructor
  case one => rfl
  case published =>
    intro u hu
    obtain rfl : url = u := Option.some.inj hu
    refine ⟨data, hcopied, ?_⟩
    show s.clearPreparedExport.temporaryDirectory url = some data
    rw [clearPreparedExport_temporaryDirectory, if_neg hother]
    exact hcomplete rfl
  case pending =>
    intro write hmem
    cases hmem
  case accounted =>
    intro u hfile
    have hold := h.clears.accounted u hfile
    rw [clearPreparedExport_writes, hwrites] at hold
    rcases hold with hpublished | ⟨write, hmem, hurl⟩
    · cases hpublished
    · rw [List.mem_singleton.mp hmem] at hurl
      exact Or.inl (congrArg some hurl)

/-- A pending write that failed leaves no file behind. -/
theorem Evidence.drops (h : Evidence copies s)
    (hwrite : s.writes[index]? = some { url := url, data := data, state := .failed }) :
    Evidence copies { s.removeItem url with
      isPreparingCSV := false
      writes := s.writes.eraseIdx index } := by
  obtain ⟨hwrites, -⟩ := h.one.eq_singleton hwrite
  obtain ⟨-, hother, -⟩ := h.pending _ (List.mem_of_getElem? hwrite)
  rw [h.one.eraseIdx_eq_nil hwrite]
  constructor
  case one => rfl
  case published =>
    intro u hu
    obtain ⟨d, hd, hcontent⟩ := h.published u hu
    have hne : u ≠ url := fun hsame => hother (hsame ▸ hu)
    exact ⟨d, hd, (setFile_other s none hne).trans hcontent⟩
  case pending =>
    intro write hmem
    cases hmem
  case accounted =>
    intro u hfile
    have hne : u ≠ url := by
      rintro rfl
      exact hfile (setFile_self s u none)
    have hold : s.temporaryDirectory u ≠ none :=
      fun hnone => hfile ((setFile_other s none hne).trans hnone)
    rcases h.accounted u hold with hpublished | ⟨write, hmem, hurl⟩
    · exact Or.inl hpublished
    · rw [hwrites, List.mem_singleton] at hmem
      exact absurd (hurl.symm.trans (congrArg CsvWrite.url hmem)) hne

/-- **Every step keeps account of the files**, as long as it uses no name again. -/
theorem Evidence.step (h : Evidence copies s) {copy : Option (Url × Data)} {s' : CsvExport Url Data}
    (hstep : StepsTo s copy s') (hfresh : ∀ c, copy = some c → c.1 ∉ copies.map Prod.fst) :
    Evidence (copies ++ copy.toList) s' := by
  cases hstep with
  | accepts url data hidle => exact h.accepts hidle (hfresh _ rfl)
  | same =>
    rw [Option.toList_none, List.append_nil]
    exact h
  | clears =>
    rw [Option.toList_none, List.append_nil]
    exact h.clears
  | succeeds index url data hwrite =>
    rw [Option.toList_none, List.append_nil]
    exact h.ends hwrite fun _ => rfl
  | fails index url data left hwrite =>
    rw [Option.toList_none, List.append_nil]
    exact h.ends hwrite fun hstate => nomatch hstate
  | publishes index url data hwrite =>
    rw [Option.toList_none, List.append_nil]
    exact h.publishes hwrite
  | drops index url data hwrite =>
    rw [Option.toList_none, List.append_nil]
    exact h.drops hwrite

end Steps

omit [DecidableEq Url] in
/-- At the start no write is pending, and the flag says so. -/
theorem initial_oneWrite : (initial : CsvExport Url Data).OneWrite := rfl

/-- Every file is accounted for in every run whose names do not repeat. -/
theorem run_evidence (events : List (CsvEvent Url Data))
    (h : ((copied initial events).map Prod.fst).Nodup) :
    Evidence (copied initial events) (run step initial events) := by
  -- from the last event of the run
  induction events using List.reverseRecOn with
  | nil =>
    exact ⟨initial_oneWrite, nofun,
      fun _ hwrite => absurd hwrite List.not_mem_nil, fun _ hfile => absurd rfl hfile⟩
  | append_singleton events event ih =>
    rw [copied_snoc, List.map_append, List.nodup_append] at h
    rw [copied_snoc, run_snoc]
    refine (ih h.1).step (stepsTo _ event) fun c hc hmem => ?_
    exact h.2.2 c.1 hmem c.1 (by simp [hc]) rfl

/-- **Exports, under every order of the calls, the ends of writes and their completions.**  With
    names that do not repeat: at most one write is pending; every evidence file is the published one
    or that of the pending write; the published URL names a file that holds all the bytes copied for
    it; and completing a failed write leaves the published URL as it was. -/
theorem csvExport_accounted (events : List (CsvEvent Url Data))
    (h : ((copied initial events).map Prod.fst).Nodup) :
    (run step initial events).writes.length ≤ 1 ∧
    (∀ url, (run step initial events).temporaryDirectory url ≠ none →
      (run step initial events).csvExportURL = some url ∨
      ∃ write ∈ (run step initial events).writes, write.url = url) ∧
    (∀ url, (run step initial events).csvExportURL = some url → ∃ data,
      (url, data) ∈ copied initial events ∧
      (run step initial events).temporaryDirectory url = some data) ∧
    ∀ index write, (run step initial events).writes[index]? = some write → write.state = .failed →
      ((run step initial events).step (.completed index)).csvExportURL =
        (run step initial events).csvExportURL := by
  have hevidence := run_evidence events h
  refine ⟨?_, hevidence.accounted, hevidence.published, ?_⟩
  · rw [hevidence.one]
    exact Bool.toNat_le _
  · rintro index ⟨url, data, state⟩ hwrite hfailed
    obtain rfl : state = .failed := hfailed
    show (CsvExport.completed index _).csvExportURL = _
    rw [CsvExport.completed, hwrite]
    rfl

/-- One export is published, the next write is pending and has failed. -/
def failingRun : List (CsvEvent Nat String) :=
  [.prepareCSVExport (some "first") 1, .writeEnded 0 .written, .completed 0,
    .prepareCSVExport (some "second") 2, .writeEnded 0 (.failed (some "sec"))]

/-- The first export stays published when the second is given up. -/
theorem csvExport_accounted_failing :
    (run step initial failingRun).csvExportURL = some 1 ∧
    (∃ data, (1, data) ∈ copied initial failingRun ∧
      (run step initial failingRun).temporaryDirectory 1 = some data) ∧
    ((run step initial failingRun).step (.completed 0)).csvExportURL = some 1 := by
  obtain ⟨-, -, hpublished, hfailed⟩ := csvExport_accounted failingRun (by decide)
  exact ⟨rfl, hpublished 1 rfl, hfailed 0 ⟨2, "second", .failed⟩ rfl rfl⟩

/-! ## What `connect` invalidates -/

/-- A step publishes nothing new, unless it completes a write that succeeded. -/
theorem step_csvExportURL (s : CsvExport Url Data) (event : CsvEvent Url Data) :
    (s.step event).csvExportURL = s.csvExportURL ∨ (s.step event).csvExportURL = none ∨
    ∃ index url data, event = .completed index ∧
      s.writes[index]? = some { url := url, data := data, state := .succeeded } ∧
      (s.step event).csvExportURL = some url := by
  cases event with
  | prepareCSVExport csvDataSnapshot url =>
    show (s.prepareCSVExport csvDataSnapshot url).csvExportURL = _ ∨
      (s.prepareCSVExport csvDataSnapshot url).csvExportURL = none ∨ _
    unfold prepareCSVExport
    split
    · exact Or.inl rfl
    · split
      · exact Or.inr (Or.inl rfl)
      · exact Or.inl rfl
  | connect => exact Or.inr (Or.inl rfl)
  | writeEnded index outcome =>
    refine Or.inl ?_
    show (s.writeEnded index outcome).csvExportURL = _
    unfold writeEnded
    split
    · cases outcome <;> rfl
    · rfl
  | completed index =>
    show (s.completed index).csvExportURL = _ ∨ (s.completed index).csvExportURL = none ∨
      ∃ i url data, _ ∧ _ ∧ (s.completed index).csvExportURL = some url
    unfold completed
    split
    · rename_i url data hwrite
      exact Or.inr (Or.inr ⟨index, url, data, rfl, hwrite, rfl⟩)
    · exact Or.inl rfl
    · exact Or.inl rfl

/-- Completing a write that succeeded publishes it. -/
theorem step_completed {s : CsvExport Url Data} {index : Nat} {url : Url} {data : Data}
    (hwrite : s.writes[index]? = some { url := url, data := data, state := .succeeded }) :
    (s.step (.completed index)).csvExportURL = some url := by
  show (s.completed index).csvExportURL = some url
  rw [completed, hwrite]

/-- What `connect` is meant to achieve: at every moment after a call, the published URL is that of
    an export copied after the call, or there is none. -/
def ConnectInvalidates (s : CsvExport Url Data) (events : List (CsvEvent Url Data)) : Prop :=
  ∀ before after, before ++ .connect :: after <+: events → ∀ url,
    (run step s (before ++ .connect :: after)).csvExportURL = some url →
    ∃ data, (url, data) ∈ copied (run step s (before ++ [.connect])) after

/-- No write that is pending when `connect` is called is completed successfully: whenever a write
    is, after a call of `connect`, some export has been copied since that call. -/
def NoStaleCompletion (s : CsvExport Url Data) (events : List (CsvEvent Url Data)) : Prop :=
  ∀ before after index, before ++ .connect :: (after ++ [.completed index]) <+: events →
    (∃ write, (run step s (before ++ .connect :: after)).writes[index]? = some write ∧
      write.state = .succeeded) →
    copied (run step s (before ++ [.connect])) after ≠ []

/-- Since some moment nothing was copied, or the pending write's bytes were. -/
def PendingCopied (copies : List (Url × Data)) (s : CsvExport Url Data) : Prop :=
  copies = [] ∨ ∀ write ∈ s.writes, (write.url, write.data) ∈ copies

/-- Every step keeps that account of the pending write. -/
theorem PendingCopied.step {s s' : CsvExport Url Data} {copies : List (Url × Data)}
    {copy : Option (Url × Data)} (h : PendingCopied copies s) (hone : s.OneWrite)
    (hstep : StepsTo s copy s') : PendingCopied (copies ++ copy.toList) s' := by
  cases hstep with
  | accepts url data hidle =>
    -- nothing was pending, so the new write is the only one
    have hempty : s.writes = [] := by
      rw [OneWrite, hidle] at hone
      exact List.length_eq_zero_iff.mp hone
    refine Or.inr fun write hmem => ?_
    rw [hempty, List.nil_append, List.mem_singleton] at hmem
    subst hmem
    exact List.mem_append_right _ (List.mem_singleton_self _)
  | same =>
    rw [Option.toList_none, List.append_nil]
    exact h
  | clears =>
    rw [Option.toList_none, List.append_nil]
    refine h.imp_right fun hcopied write hmem => ?_
    rw [clearPreparedExport_writes] at hmem
    exact hcopied write hmem
  | succeeds index url data hwrite | fails index url data left hwrite =>
    rw [Option.toList_none, List.append_nil]
    obtain ⟨hwrites, rfl⟩ := hone.eq_singleton hwrite
    refine h.imp_right fun hcopied write hmem => ?_
    have hthis := hcopied _ (List.mem_of_getElem? hwrite)
    simp only [hwrites, List.set_cons_zero, List.mem_singleton] at hmem
    subst hmem
    exact hthis
  | publishes index url data hwrite | drops index url data hwrite =>
    refine Or.inr fun write hmem => ?_
    simp [hone.eraseIdx_eq_nil hwrite] at hmem

/-- Every run that starts with one write at most keeps account of what is copied. -/
theorem run_pendingCopied {s : CsvExport Url Data} (hone : s.OneWrite)
    (events : List (CsvEvent Url Data)) :
    PendingCopied (copied s events) (run step s events) := by
  induction events using List.reverseRecOn with
  | nil => exact Or.inl rfl
  | append_singleton events event ih =>
    rw [copied_snoc, run_snoc]
    exact ih.step (run_oneWrite hone events) (stepsTo _ event)

section Invalidates

variable {events before after : List (CsvEvent Url Data)}

omit [DecidableEq Url] in
/-- The events since a call, and the next one. -/
theorem connect_snoc (before after : List (CsvEvent Url Data)) (event : CsvEvent Url Data) :
    before ++ .connect :: (after ++ [event]) = (before ++ .connect :: after) ++ [event] := by
  rw [List.append_assoc]
  rfl

/-- A completion copies nothing. -/
theorem copied_completed (s : CsvExport Url Data) (events : List (CsvEvent Url Data)) (index : Nat) :
    copied s (events ++ [.completed index]) = copied s events := by
  rw [copied_snoc]
  exact List.append_nil _

/-- A write completed successfully is published, so it was copied since the call. -/
theorem noStaleCompletion_of_invalidates (h : ConnectInvalidates initial events) :
    NoStaleCompletion initial events := by
  rintro before after index hpre ⟨⟨url, data, state⟩, hwrite, hsucceeded⟩ hnone
  obtain rfl : state = .succeeded := hsucceeded
  have hpublished : (run step initial
      (before ++ .connect :: (after ++ [.completed index]))).csvExportURL = some url := by
    rw [connect_snoc, run_snoc]
    exact step_completed hwrite
  obtain ⟨d, hcopied⟩ := h before _ hpre url hpublished
  rw [copied_completed, hnone] at hcopied
  cases hcopied

/-- A write completed successfully after a call of `connect` was copied after the call. -/
theorem copied_of_completion (h : NoStaleCompletion initial events) {index : Nat} {url : Url}
    {data : Data} (hpre : before ++ .connect :: (after ++ [.completed index]) <+: events)
    (hwrite : (run step initial (before ++ .connect :: after)).writes[index]? =
      some { url := url, data := data, state := .succeeded }) :
    (url, data) ∈ copied (run step initial (before ++ [.connect])) after := by
  have hsome := h before after index hpre ⟨_, hwrite, rfl⟩
  have hone : (run step initial (before ++ [.connect])).OneWrite := run_oneWrite initial_oneWrite _
  have hpending := (run_pendingCopied hone after).resolve_left hsome
  rw [run_append_cons] at hwrite
  exact hpending _ (List.mem_of_getElem? hwrite)

/-- Without a stale completion, what is published was copied since the last `connect`. -/
theorem invalidates_of_noStaleCompletion (h : NoStaleCompletion initial events) :
    ConnectInvalidates initial events := by
  intro before after
  -- from the last event since the call
  induction after using List.reverseRecOn with
  | nil =>
    intro _ url hurl
    rw [run_snoc] at hurl
    cases hurl
  | append_singleton after event ih =>
    intro hpre url hurl
    have hbefore : before ++ .connect :: after <+: events := by
      rw [connect_snoc] at hpre
      exact (List.prefix_append _ _).trans hpre
    rw [connect_snoc, run_snoc] at hurl
    rw [copied_snoc]
    rcases step_csvExportURL (run step initial (before ++ .connect :: after)) event with
      hsame | hnone | ⟨index, u, data, rfl, hwrite, hpublished⟩
    · obtain ⟨d, hcopied⟩ := ih hbefore url (hsame.symm.trans hurl)
      exact ⟨d, List.mem_append_left _ hcopied⟩
    · rw [hnone] at hurl
      cases hurl
    · obtain rfl : u = url := Option.some.inj (hpublished.symm.trans hurl)
      exact ⟨data, List.mem_append_left _ (copied_of_completion h hpre hwrite)⟩

end Invalidates

/-- **`connect` invalidates earlier exports in exactly the runs in which no write that is pending at
    a call of it is completed successfully.** -/
theorem connect_invalidates_iff (events : List (CsvEvent Url Data)) :
    ConnectInvalidates initial events ↔ NoStaleCompletion initial events := by
  constructor
  · exact noStaleCompletion_of_invalidates
  · exact invalidates_of_noStaleCompletion

/-- A call of `connect` while a write is under way. -/
def overtakenRun : List (CsvEvent Nat String) :=
  [.prepareCSVExport (some "before the call") 1, .connect, .writeEnded 0 .written, .completed 0]

/-- The bytes copied before the call are published after it. -/
theorem overtakenRun_publishes :
    (run step initial overtakenRun).csvExportURL = some 1 ∧
    (run step initial overtakenRun).temporaryDirectory 1 = some "before the call" ∧
    ¬ConnectInvalidates initial overtakenRun := by
  refine ⟨rfl, rfl, fun hinvalidates => ?_⟩
  obtain ⟨d, hcopied⟩ := hinvalidates [.prepareCSVExport (some "before the call") 1]
    [.writeEnded 0 .written, .completed 0] List.prefix_rfl 1 rfl
  cases hcopied

end CsvExport

end Jaglink
