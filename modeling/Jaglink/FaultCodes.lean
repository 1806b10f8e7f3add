/-
  Fault codes on the Linux card.

  1. **Program** — `append_faults` prints LINK's three lists one row a code, numbered, with the name
     of the list in the label; an empty list has one row that says so.

  2. **Specification (`faultCard_roundTrip`)** — read back by label (`CardRow.faultCode`), the card
     gives the three lists, in order, and it claims success exactly if the scan is done.

  3. **The crux (`faultCode_codeLabel`)** — a label tells its list: the names are prefix free, a
     number starts with a digit and the label of an empty list does not, and the 48 bytes of the
     label hold enough of it however long the list is.  What the codes are does not matter.
-/
import Jaglink.FactoryCards

namespace Jaglink

open CLib PrefixCode

variable {link : LinkApi} {Reading : Type}

/-! ## Labels -/

/-- The three lists, by the names the card gives them. -/
def listNames : Fin 3 → String := ["Stored", "Pending", "Permanent"].get

/-- What the labels of a list start with. -/
def leadText (name : Fin 3) : Text := utf8 (listNames name) ++ utf8 " "

/-- The code a row shows for a list.  The label of an empty list is the one with `faults` for a
    number. -/
def CardRow.faultCode (name : Fin 3) : CardRow Reading → Option Text
  | .detail label (.text code) =>
    if leadText name <+: label ∧ label ≠ leadText name ++ utf8 "faults" then some code else none
  | _ => none

/-- The codes a card shows for a list. -/
def Card.faultCodes (name : Fin 3) (card : Card Reading) : List Text :=
  card.rows.filterMap (CardRow.faultCode name)

/-- No list's name begins another one. -/
theorem leadText_prefixFree : PrefixFree leadText := by decide

/-- The names are short, so a label has room for the index. -/
theorem leadText_short : ∀ name, (leadText name).length ≤ 10 ∧ (0 : UInt8) ∉ leadText name := by
  decide

/-- The label of the code at an index. -/
def codeLabel (name : Fin 3) (index : Nat) : Text :=
  formatted 48 (utf8 (listNames name) ++ utf8 " " ++ decimal (index + 1))

/-- However long the number, the label keeps the name of the list and the first digit. -/
theorem codeLabel_eq (name : Fin 3) (index : Nat) :
    ∃ digit rest, isdigit digit = true ∧ codeLabel name index = leadText name ++ digit :: rest := by
  obtain ⟨hshort, hnul⟩ := leadText_short name
  have hwhole : (0 : UInt8) ∉ leadText name ++ decimal (index + 1) := by
    simp [hnul, decimal_nul_free]
  obtain ⟨digit, rest, hdigits⟩ : ∃ digit rest, decimal (index + 1) = digit :: rest := by
    refine List.exists_cons_of_ne_nil fun hnil => ?_
    exact Nat.toDigits_ne_nil (List.map_eq_nil_iff.mp hnil)
  have hdigit : isdigit digit = true :=
    isdigit_of_mem_decimal (n := index + 1) (hdigits ▸ List.mem_cons_self)
  obtain ⟨room, hroom⟩ : ∃ room, 47 - (leadText name).length = room + 1 :=
    ⟨46 - (leadText name).length, by omega⟩
  refine ⟨digit, rest.take room, hdigit, ?_⟩
  show formatted 48 (leadText name ++ decimal (index + 1)) = _
  rw [formatted_eq_take (by decide) hwhole, List.take_append, hdigits,
    List.take_of_length_le (show (leadText name).length ≤ 48 - 1 by omega)]
  rw [show 48 - 1 - (leadText name).length = room + 1 from hroom, List.take_succ_cons]

/-- A row is read back under the list it was printed for. -/
theorem faultCode_codeLabel (name : Fin 3) (index : Nat) (code : Text) :
    CardRow.faultCode name (.detail (codeLabel name index) (.text code) : CardRow Reading) =
      some code := by
  obtain ⟨digit, rest, hdigit, hlabel⟩ := codeLabel_eq name index
  rw [CardRow.faultCode, hlabel, if_pos]
  refine ⟨List.prefix_append _ _, fun hfaults => ?_⟩
  have hcons : digit :: rest = ch 'f' :: utf8 "aults" :=
    (List.append_cancel_left hfaults).trans (by decide)
  rw [(List.cons.inj hcons).1] at hdigit
  exact absurd hdigit (by decide)

/-- A label of one list is not one of another. -/
theorem faultCode_other {name name' : Fin 3} (h : name ≠ name') {tail code : Text} :
    CardRow.faultCode name (.detail (leadText name' ++ tail) (.text code) : CardRow Reading) = none := by
  rw [CardRow.faultCode, if_neg]
  rintro ⟨hlead, -⟩
  rcases List.prefix_or_prefix_of_prefix hlead (List.prefix_append (leadText name') tail) with
    hpre | hpre
  · exact h (leadText_prefixFree _ _ hpre)
  · exact h (leadText_prefixFree _ _ hpre).symm

/-- Reading back what was printed with an index gives the list again. -/
theorem filterMap_mapIdx {α β : Type} {f : Nat → α → β} {g : β → Option α} {l : List α}
    (h : ∀ i a, g (f i a) = some a) : (l.mapIdx f).filterMap g = l := by
  induction l generalizing f with
  | nil => rfl
  | cons a l ih => rw [List.mapIdx_cons, List.filterMap_cons, h, ih fun i b => h (i + 1) b]

/-- The label of an empty list fits. -/
theorem emptyLabel_eq (name : Fin 3) :
    formatted 48 (utf8 (listNames name) ++ utf8 " faults") = leadText name ++ utf8 "faults" := by
  revert name
  decide

/-- The rows of a list give the list, and nothing for another one. -/
theorem appendDtcList_codes (name name' : Fin 3) (list : List Text) :
    (appendDtcList (listNames name') list).filterMap (@CardRow.faultCode Reading name) =
      if name = name' then list else [] := by
  rw [appendDtcList]
  by_cases hempty : list.length = 0
  · obtain rfl := List.eq_nil_of_length_eq_zero hempty
    rw [if_pos hempty, emptyLabel_eq]
    by_cases hname : name = name'
    · subst hname
      simp [CardRow.faultCode]
    · rw [if_neg hname, List.filterMap_cons, faultCode_other hname]
      rfl
  · rw [if_neg hempty]
    by_cases hname : name = name'
    · subst hname
      rw [if_pos rfl]
      exact filterMap_mapIdx fun index code => faultCode_codeLabel name index code
    · rw [if_neg hname, List.filterMap_eq_nil_iff]
      intro row hrow
      obtain ⟨index, hindex, rfl⟩ := List.mem_mapIdx.mp hrow
      obtain ⟨digit, rest, -, hlabel⟩ := codeLabel_eq name' index
      show CardRow.faultCode name (.detail (codeLabel name' index) _) = none
      rw [hlabel]
      exact faultCode_other hname

/-- A chip is no code. -/
theorem faultCode_status (name : Fin 3) (text : Text) (cssClass : String) :
    CardRow.faultCode name (.status text cssClass : CardRow Reading) = none := rfl

/-! ## The card -/

/-- A scan that is done, as `append_faults` decides it. -/
structure ScanComplete (context : JaglinkLinuxContext link) : Prop where
  connected : context.connected = true
  valid : context.diagnosticValid = true
  stage : context.diagnostic.stage ≠ link.flowFailed
  ready : context.diagnosticReady = true

variable {context : JaglinkLinuxContext link}

/-- What the card says under the codes of a scan that is done. -/
def scannedRows (context : JaglinkLinuxContext link) : List (CardRow link.Reading) :=
  appendDtcList (listNames 0) context.diagnostic.storedDtcs ++
    appendDtcList (listNames 1) context.diagnostic.pendingDtcs ++
    appendDtcList (listNames 2) context.diagnostic.permanentDtcs

/-- The rows of a scan that is done. -/
theorem ScanComplete.rows (h : ScanComplete context) :
    ∃ summary note, (appendFaults context).rows =
      .status summary "state-success" :: scannedRows context ++ [.note note] := by
  constructor
  constructor
  simp only [appendFaults, h.connected, h.valid, h.ready, if_neg h.stage, Bool.not_true,
    Bool.false_eq_true, if_false, if_true]
  rfl

/-- A chip that says success stands on the card of a scan that is done. -/
theorem scanComplete_of_success {summary : Text}
    (h : .status summary "state-success" ∈ (appendFaults context).rows) :
    ScanComplete context := by
  have hwarning : ∀ text, (.status summary "state-success" : CardRow link.Reading) ∉
      [.status text "state-warning"] := by
    simp
  rw [appendFaults] at h
  rcases List.mem_append.mp h with hstate | hnote
  · split at hstate
    · exact absurd hstate (hwarning _)
    rename_i hconnected
    split at hstate
    · exact absurd hstate (hwarning _)
    rename_i hvalid
    split at hstate
    · exact absurd hstate (hwarning _)
    rename_i hstage
    split at hstate
    · rename_i hready
      exact ⟨by simpa using hconnected, by simpa using hvalid, hstage, hready⟩
    · exact absurd hstate (hwarning _)
  · simp at hnote

/-- **The fault card gives LINK's lists back.**  It claims success exactly if the scan is done, and
    then the rows it has for each of the three lists are the codes of that list, in order, whatever
    the codes are and however many. -/
theorem faultCard_roundTrip (context : JaglinkLinuxContext link) :
    ((∃ summary, .status summary "state-success" ∈ (appendFaults context).rows) ↔
      ScanComplete context) ∧
    (ScanComplete context →
      (appendFaults context).faultCodes 0 = context.diagnostic.storedDtcs ∧
      (appendFaults context).faultCodes 1 = context.diagnostic.pendingDtcs ∧
      (appendFaults context).faultCodes 2 = context.diagnostic.permanentDtcs) := by
  constructor
  · constructor
    · rintro ⟨summary, hmem⟩
      exact scanComplete_of_success hmem
    · intro h
      obtain ⟨summary, note, hrows⟩ := h.rows
      exact ⟨summary, hrows ▸ List.mem_append_left _ List.mem_cons_self⟩
  · intro h
    obtain ⟨summary, note, hrows⟩ := h.rows
    have hcodes : ∀ name, (appendFaults context).faultCodes name =
        (if name = 0 then context.diagnostic.storedDtcs else []) ++
        (if name = 1 then context.diagnostic.pendingDtcs else []) ++
        (if name = 2 then context.diagnostic.permanentDtcs else []) := by
      intro name
      rw [Card.faultCodes, hrows, List.cons_append, List.filterMap_cons, faultCode_status,
        List.filterMap_append, scannedRows, List.filterMap_append, List.filterMap_append,
        appendDtcList_codes, appendDtcList_codes, appendDtcList_codes]
      simp [CardRow.faultCode]
    refine ⟨?_, ?_, ?_⟩
    · simp [hcodes]
    · simp [hcodes]
    · simp [hcodes]

end Jaglink
