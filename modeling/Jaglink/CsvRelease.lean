/-
  The CSV export of a view model that can go away.

  1. **Program** — `prepareCSVExport` of `ConnectionViewModel.swift`, whose task holds the view
     model weakly.  When the task resumes after its write and finds the view model released it
     removes the file it has written instead of publishing it, and there is nobody left to call
     `prepareCSVExport` or `connect`.  The source has no `deinit`, so a file that was published
     before stays where it is.

  2. **Specification (`evidence_released`)** — in whatever order writes end, tasks resume and the
     view model goes away, of all evidence files only the published one outlives the pending writes:
     once no write is pending, the files are the one the view model had published and no other, and
     a pending write is always two events away from that.

  3. **The crux** is the invariant.  `Evidence` speaks of the flag `isPreparingCSV`, which a
     released view model no longer has; it survives the release if the flag is read off the pending
     writes instead (`flagged`).  `Kept` is that invariant, with the flag's own account as long as
     there is one; each event keeps it (`Kept.step`), and so does every run (`run_kept`).
-/
import Jaglink.CsvExport

namespace Jaglink

open Runs

namespace CsvExport

variable {Url Data : Type} [DecidableEq Url]

/-- The main actor resumes after the write and finds the view model released. -/
def completedReleased (index : Nat) (s : CsvExport Url Data) : CsvExport Url Data :=
  match s.writes[index]? with
  | some { url := url, state := .succeeded, .. } =>
    { s.removeItem url with writes := s.writes.eraseIdx index }
  | some { url := url, state := .failed, .. } =>
    { s.removeItem url with writes := s.writes.eraseIdx index }
  | _ => s

/-- What still happens after the view model is released. -/
def stepReleased (s : CsvExport Url Data) : CsvEvent Url Data → CsvExport Url Data
  | .writeEnded index outcome => s.writeEnded index outcome
  | .completed index => s.completedReleased index
  | _ => s

/-- The flag, read off the pending writes. -/
def flagged (s : CsvExport Url Data) : CsvExport Url Data :=
  { s with isPreparingCSV := !s.writes.isEmpty }

end CsvExport

/-- The exports of a view model, and whether it still exists. -/
structure CsvOwner (Url Data : Type) where
  exports : CsvExport Url Data
  released : Bool

/-- An event of the exports, or the release of the view model. -/
inductive CsvOwnerEvent (Url Data : Type)
  | csv (event : CsvEvent Url Data)
  | released

namespace CsvOwner

open CsvExport

variable {Url Data : Type} [DecidableEq Url]

/-- A view model that has exported nothing. -/
def initial : CsvOwner Url Data where
  exports := .initial
  released := false

/-- One event; a released view model is no longer asked. -/
def step (s : CsvOwner Url Data) : CsvOwnerEvent Url Data → CsvOwner Url Data
  | .csv event =>
    { s with exports := if s.released then s.exports.stepReleased event else s.exports.step event }
  | .released => { s with released := true }

/-- The bytes a step copies, with the name they get. -/
def copyOf : CsvOwner Url Data × CsvOwnerEvent Url Data → Option (Url × Data)
  | (s, .csv event) => if s.released then none else CsvExport.copyOf (s.exports, event)
  | (_, .released) => none

/-- The exports copied in a run, in order. -/
def copied (s : CsvOwner Url Data) (events : List (CsvOwnerEvent Url Data)) : List (Url × Data) :=
  (steps step s events).filterMap copyOf

/-! ## Every file is accounted for -/

section Steps

variable {s : CsvExport Url Data} {copies : List (Url × Data)} {index : Nat} {url : Url} {data : Data}

omit [DecidableEq Url] in
/-- While the view model exists its flag is the one read off the writes. -/
theorem flagged_eq (h : s.OneWrite) : s.flagged = s := by
  obtain ⟨csvExportURL, isPreparingCSV, writes, temporaryDirectory⟩ := s
  have hlength : writes.length = isPreparingCSV.toNat := h
  cases writes with
  | nil =>
    cases isPreparingCSV with
    | false => rfl
    | true => cases hlength
  | cons write writes =>
    cases isPreparingCSV with
    | false => cases hlength
    | true => rfl

omit [DecidableEq Url] in
/-- A write that ended well is as good as a failed one for the account. -/
theorem evidence_giveUp {state : WriteState} (h : Evidence copies s)
    (hwrite : s.writes[index]? = some { url := url, data := data, state := state }) :
    Evidence copies { s with writes := [{ url := url, data := data, state := .failed }] } := by
  obtain ⟨hwrites, rfl⟩ := h.one.eq_singleton hwrite
  constructor
  case one => exact (congrArg List.length hwrites).symm.trans h.one
  case published => exact h.published
  case pending =>
    intro write hmem
    obtain rfl := List.mem_singleton.mp hmem
    obtain ⟨hcopied, hother, -⟩ := h.pending _ (List.mem_of_getElem? hwrite)
    exact ⟨hcopied, hother, fun hstate => nomatch hstate⟩
  case accounted =>
    intro u hfile
    rcases h.accounted u hfile with hpublished | ⟨write, hmem, hurl⟩
    · exact Or.inl hpublished
    · rw [hwrites, List.mem_singleton] at hmem
      subst hmem
      exact Or.inr ⟨_, List.mem_singleton_self _, hurl⟩

/-- The task removes its own file and no other. -/
theorem evidence_removes {state : WriteState} (h : Evidence copies s.flagged)
    (hwrite : s.writes[index]? = some { url := url, data := data, state := state }) :
    Evidence copies { s.removeItem url with writes := s.writes.eraseIdx index }.flagged := by
  have hhead : [(⟨url, data, .failed⟩ : CsvWrite Url Data)][0]? = some ⟨url, data, .failed⟩ := rfl
  have hgiven := (evidence_giveUp h hwrite).drops hhead
  have hnil : s.writes.eraseIdx index = [] := h.one.eraseIdx_eq_nil (s := s.flagged) hwrite
  rw [hnil]
  exact hgiven

/-- The end of a write does not concern the view model. -/
theorem evidence_ends {content : Option Data} {state : WriteState} (h : Evidence copies s.flagged)
    (hwrite : s.writes[index]? = some { url := url, data := data, state := .writing })
    (hcontent : state = .succeeded → content = some data) : Evidence copies
      { s.setFile url content with
        writes := s.writes.set index { url := url, data := data, state := state } }.flagged := by
  have hpending : (s.writes.set index { url := url, data := data, state := state }).isEmpty =
      s.writes.isEmpty := by
    rw [Bool.eq_iff_iff, List.isEmpty_iff_length_eq_zero, List.isEmpty_iff_length_eq_zero,
      List.length_set]
  have hends := h.ends hwrite hcontent
  unfold flagged
  rw [hpending]
  exact hends

/-- What happens after the release keeps the account. -/
theorem evidence_stepReleased (h : Evidence copies s.flagged) (event : CsvEvent Url Data) :
    Evidence copies (s.stepReleased event).flagged := by
  cases event with
  | prepareCSVExport csvDataSnapshot url => exact h
  | connect => exact h
  | writeEnded index outcome =>
    show Evidence copies (s.writeEnded index outcome).flagged
    unfold writeEnded
    split
    · rename_i url data hwrite
      cases outcome with
      | written => exact evidence_ends h hwrite fun _ => rfl
      | failed left => exact evidence_ends h hwrite fun hstate => nomatch hstate
    · exact h
  | completed index =>
    show Evidence copies (s.completedReleased index).flagged
    unfold completedReleased
    split
    · rename_i url data hwrite
      exact evidence_removes h hwrite
    · rename_i url data hwrite
      exact evidence_removes h hwrite
    · exact h

end Steps

/-- Every file is accounted for, and as long as the view model exists its flag is right. -/
structure Kept (copies : List (Url × Data)) (s : CsvOwner Url Data) : Prop where
  evidence : Evidence copies s.exports.flagged
  flag : s.released = false → s.exports.OneWrite

/-- Every event keeps the account, as long as it copies under a fresh name. -/
theorem Kept.step {copies : List (Url × Data)} {s : CsvOwner Url Data} (h : Kept copies s)
    (event : CsvOwnerEvent Url Data)
    (hfresh : ∀ c, copyOf (s, event) = some c → c.1 ∉ copies.map Prod.fst) :
    Kept (copies ++ (copyOf (s, event)).toList) (s.step event) := by
  obtain ⟨exports, released⟩ := s
  cases event with
  | released =>
    have hsame : copies ++ (copyOf (⟨exports, released⟩, .released)).toList = copies :=
      List.append_nil copies
    rw [hsame]
    exact ⟨h.evidence, nofun⟩
  | csv event =>
    cases released with
    | true =>
      have hsame : copies ++ (copyOf (⟨exports, true⟩, .csv event)).toList = copies :=
        List.append_nil copies
      rw [hsame]
      exact ⟨evidence_stepReleased h.evidence event, nofun⟩
    | false =>
      -- the flag is the one of `Evidence`, so the step is one of the exports alone
      have hone : exports.OneWrite := h.flag rfl
      have hexports : Evidence copies exports := flagged_eq hone ▸ h.evidence
      have hstep := hexports.step (stepsTo exports event) hfresh
      refine ⟨?_, fun _ => hstep.one⟩
      exact (flagged_eq hstep.one).symm ▸ hstep

/-- So the account is kept in every run whose names do not repeat. -/
theorem run_kept (events : List (CsvOwnerEvent Url Data))
    (h : ((copied initial events).map Prod.fst).Nodup) :
    Kept (copied initial events) (run step initial events) := by
  -- from the last event of the run
  induction events using List.reverseRecOn with
  | nil => exact ⟨run_evidence [] List.nodup_nil, fun _ => rfl⟩
  | append_singleton events event ih =>
    have hsnoc : copied initial (events ++ [event]) = copied initial events ++
        (copyOf (run step initial events, event)).toList := by
      rw [copied, steps_snoc, List.filterMap_append]
      cases hcopy : copyOf (run step initial events, event) <;> simp [hcopy, copied]
    rw [hsnoc, List.map_append, List.nodup_append] at h
    rw [hsnoc, run_snoc]
    refine (ih h.1).step event fun c hc hmem => ?_
    exact h.2.2 c.1 hmem c.1 (by simp [hc]) rfl

/-! ## Only the published file is left -/

/-- A released view model publishes nothing. -/
theorem step_released_csvExportURL {s : CsvOwner Url Data} (h : s.released = true)
    (event : CsvOwnerEvent Url Data) :
    (s.step event).exports.csvExportURL = s.exports.csvExportURL := by
  cases event with
  | released => rfl
  | csv event =>
    show (if s.released then s.exports.stepReleased event else s.exports.step event).csvExportURL = _
    rw [if_pos h]
    cases event with
    | prepareCSVExport csvDataSnapshot url => rfl
    | connect => rfl
    | writeEnded index outcome =>
      show (s.exports.writeEnded index outcome).csvExportURL = _
      unfold writeEnded
      split
      · cases outcome <;> rfl
      · rfl
    | completed index =>
      show (s.exports.completedReleased index).csvExportURL = _
      unfold completedReleased
      split <;> rfl

/-- The end of the pending write and its completion leave no write pending. -/
theorem writes_drained {s : CsvOwner Url Data} (hone : s.exports.writes.length ≤ 1)
    (outcome : WriteOutcome Data) :
    (run step s [.csv (.writeEnded 0 outcome), .csv (.completed 0)]).exports.writes = [] := by
  obtain ⟨⟨csvExportURL, isPreparingCSV, writes, temporaryDirectory⟩, released⟩ := s
  match writes, hone with
  | [], _ => cases released <;> rfl
  | [⟨url, data, state⟩], _ =>
    cases state with
    | writing => cases released <;> cases outcome <;> cases csvExportURL <;> rfl
    | succeeded => cases released <;> cases csvExportURL <;> rfl
    | failed => cases released <;> rfl

/-- **Whenever the view model goes away, all but the published file are gone.**  With names that do
    not repeat, in every state of every run: every evidence file is the published one or that of the
    pending write; with no write pending the files are the published one alone, which holds all the
    bytes copied for it and stays even if the view model is released; the flag of an existing view
    model is up exactly while a write is pending; a released one publishes nothing; and the end of a
    write and its completion are all it takes to have none pending. -/
theorem evidence_released (events : List (CsvOwnerEvent Url Data))
    (h : ((copied initial events).map Prod.fst).Nodup) :
    (∀ url, (run step initial events).exports.temporaryDirectory url ≠ none →
      (run step initial events).exports.csvExportURL = some url ∨
      ∃ write ∈ (run step initial events).exports.writes, write.url = url) ∧
    (∀ url, (run step initial events).exports.csvExportURL = some url → ∃ data,
      (url, data) ∈ copied initial events ∧
      (run step initial events).exports.temporaryDirectory url = some data) ∧
    ((run step initial events).exports.writes = [] → ∀ url,
      (run step initial events).exports.temporaryDirectory url ≠ none ↔
        (run step initial events).exports.csvExportURL = some url) ∧
    ((run step initial events).released = false →
      ((run step initial events).exports.isPreparingCSV = true ↔
        (run step initial events).exports.writes ≠ [])) ∧
    ((run step initial events).released = true → ∀ event,
      ((run step initial events).step event).exports.csvExportURL =
        (run step initial events).exports.csvExportURL) ∧
    ∀ outcome, (run step (run step initial events)
      [.csv (.writeEnded 0 outcome), .csv (.completed 0)]).exports.writes = [] := by
  have hkept := run_kept events h
  generalize copied initial events = copies at hkept
  generalize run step initial events = s at hkept
  have haccounted := hkept.evidence.accounted
  have hpublished := hkept.evidence.published
  refine ⟨haccounted, hpublished, fun hidle url => ⟨fun hfile => ?_, fun hurl => ?_⟩, fun halive => ?_,
    fun hreleased event => step_released_csvExportURL hreleased event, fun outcome => ?_⟩
  · -- with nothing pending only the published file is left to account for one
    rcases haccounted url hfile with hsome | ⟨write, hwrite, -⟩
    · exact hsome
    · have hmem : write ∈ s.exports.writes := hwrite
      rw [hidle] at hmem
      cases hmem
  · obtain ⟨data, -, hfile⟩ := hpublished url hurl
    have hsome : s.exports.temporaryDirectory url = some data := hfile
    rw [hsome]
    simp
  · have hflag := flagged_eq (hkept.flag halive)
    rw [← hflag]
    simp [flagged]
  · refine writes_drained ?_ outcome
    have hone : s.exports.writes.length = _ := hkept.evidence.one
    rw [hone]
    exact Bool.toNat_le _

/-- The view model goes away while its second export is written. -/
def abandonedRun : List (CsvOwnerEvent Nat String) :=
  [.csv (.prepareCSVExport (some "first") 1), .csv (.writeEnded 0 .written), .csv (.completed 0),
    .csv (.prepareCSVExport (some "second") 2), .released, .csv (.writeEnded 0 .written),
    .csv (.completed 0)]

/-- Of two exports the published one is left, though nobody can share or remove it any more. -/
theorem evidence_released_abandoned :
    (run step initial abandonedRun).exports.temporaryDirectory 1 ≠ none ∧
      (run step initial abandonedRun).exports.temporaryDirectory 2 = none := by
  obtain ⟨-, -, hfiles, -⟩ := evidence_released abandonedRun (by decide)
  constructor
  · exact (hfiles rfl 1).mpr rfl
  · by_contra hleft
    have hpublished : some 1 = some 2 := (hfiles rfl 2).mp hleft
    cases hpublished

end CsvOwner

end Jaglink
