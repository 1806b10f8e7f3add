/-
  Jaguar's fuel signals (`jaguar.c`) and the rows the Linux fuel card has for one.

  1. **Data** — a signal is a claim of two strengths: that a CAN message is about fuel, and that its
     bytes can be decoded.  The catalogue is a parameter here; `x400FuelSignals` is the built-in
     one.

  2. **Programs** — the validator lets the second claim stand only behind a verification on a
     vehicle. The lookup compares keys without a NULL test, which is right for accepted signals.
     The card prints message, status and decoder into a buffer of 160 bytes.

  3. **Specification** — `WellFormed` is what a signal is meant to be, `FindsMatch` what a lookup is
     meant to find, and `shownSignalRows` are the rows with no buffer in between.

  4. **Result (`fuelSignals_evidence`)** — over accepted signals the lookup never faults and is the
     first match on keys; every row is whole and tells message, status and decoder; one that says
     `decoder verified` says `vehicle-verified` before it.

  5. **The crux** is that last point: the two decoder texts end differently
     (`decoderVerified_of_suffix`), so a row that ends in the claim is that of a verified decoder,
     and the validator has seen to the rest.
-/
import Jaglink.FactoryCards

namespace Jaglink

open CLib FirstMatch PrefixCode

variable {Reading : Type}

/-! ## Signals -/

/-- `JaglinkJaguarFuelSignalDefinition`: a CAN message about fuel, and whether its bytes can be
    read. -/
structure JaguarFuelSignalDefinition where
  key : Option CString
  name : Option CString
  networkKey : Option CString
  messageId : UInt32
  status : CEnum
  decoderVerified : Bool
  provenance : Option CString
  deriving DecidableEq

/-- `x400_fuel_signals`: one message, whose layout no vehicle has verified. -/
def x400FuelSignals : CArray JaguarFuelSignalDefinition := CArray.ofList [
  ⟨text "x400-can-fuel-used", text "CAN FUEL USED", text "x400-powertrain-can", 0x44d,
    JaguarDefinitionStatus.sourceCorroborated, false, text (
      "Jaguar X-TYPE Electrical Guide CAN message matrix: ID 0x44D, CAN FUEL USED, ECM to " ++
      "instrument cluster, data for trip computer calculations. Numerical byte layout/scaling is " ++
      "not yet vehicle-verified.")⟩]

/-- `jaglink_jaguar_fuel_signal_definition_is_valid`: a verified decoder needs a verified signal. -/
def jaguarFuelSignalDefinitionIsValid (definition : Option JaguarFuelSignalDefinition) : C Bool :=
  match definition with
  | none => pure false
  | some definition =>
    notC (nullOrEmpty definition.key <||> nullOrEmpty definition.name <||>
      nullOrEmpty definition.networkKey <||> nullOrEmpty definition.provenance <||>
      pure (definition.messageId > 0x7ff || !validStatus definition.status))
    <&&> pure (!definition.decoderVerified ||
      definition.status == JaguarDefinitionStatus.vehicleVerified)

/-- `jaglink_jaguar_x400_find_fuel_signal`, on any catalogue. -/
def findFuelSignal (signals : CArray JaguarFuelSignalDefinition) (key : Option CString) :
    C (Option Nat) := do
  if ← nullOrEmpty key then return none
  firstIndex (fun index => do strcmpEq (← signals.get index).key key) 0 signals.count

/-- `jaglink_jaguar_x400_find_fuel_signal`. -/
def jaguarX400FindFuelSignal (key : Option CString) : C (Option Nat) :=
  findFuelSignal x400FuelSignals key

/-- `factory_status` of `append_fuel_economy`. -/
def factoryStatus (signal : JaguarFuelSignalDefinition) : Text :=
  formatted 160 (utf8 "CAN 0x" ++ hex03 signal.messageId.toNat ++ utf8 " · " ++
    utf8 (jaguarDefinitionStatusName signal.status) ++ utf8 " · " ++
    utf8 (if signal.decoderVerified then "decoder verified" else "decoder not yet vehicle-verified"))

/-- What `append_fuel_economy` appends for a signal. -/
def factorySignalRows (signal : JaguarFuelSignalDefinition) : C (List (CardRow Reading)) := do
  return [textDetail "X400 factory signal" (factoryStatus signal), .note (← printed signal.provenance)]

/-! ## Accepted signals -/

/-- What a fuel signal is meant to be. -/
structure JaguarFuelSignalDefinition.WellFormed (d : JaguarFuelSignalDefinition) : Prop where
  key : NonEmptyText d.key
  name : NonEmptyText d.name
  networkKey : NonEmptyText d.networkKey
  messageId : d.messageId ≤ 0x7ff
  status : StatusInRange d.status
  verified : d.decoderVerified = true → d.status = JaguarDefinitionStatus.vehicleVerified
  provenance : NonEmptyText d.provenance

/-- The validator takes exactly the well-formed signals. -/
theorem fuelSignalDefinitionIsValid_iff {d : JaguarFuelSignalDefinition} :
    jaguarFuelSignalDefinitionIsValid (some d) = .ok true ↔ d.WellFormed := by
  have hrange : (decide (d.messageId > 0x7ff) || !validStatus d.status) = false ↔
      d.messageId ≤ 0x7ff ∧ StatusInRange d.status := by
    rw [← validStatus_iff]
    simp
  have hverified : (!d.decoderVerified || d.status == JaguarDefinitionStatus.vehicleVerified) = true ↔
      (d.decoderVerified = true → d.status = JaguarDefinitionStatus.vehicleVerified) := by
    cases d.decoderVerified <;> simp
  simp only [jaguarFuelSignalDefinitionIsValid, and_eq_ok_true, not_eq_ok_true, or_eq_ok_false,
    nullOrEmpty_eq_ok_false, ok_eq_ok, hrange, hverified]
  constructor
  · rintro ⟨⟨hkey, hname, hnetworkKey, hprovenance, hmessageId, hstatus⟩, hverified⟩
    exact ⟨hkey, hname, hnetworkKey, hmessageId, hstatus, hverified, hprovenance⟩
  · rintro ⟨hkey, hname, hnetworkKey, hmessageId, hstatus, hverified, hprovenance⟩
    exact ⟨⟨hkey, hname, hnetworkKey, hprovenance, hmessageId, hstatus⟩, hverified⟩

/-- The validator never faults: each read of a string stands behind its NULL test. -/
theorem fuelSignalDefinitionIsValid_defined (definition : Option JaguarFuelSignalDefinition) :
    Defined (jaguarFuelSignalDefinitionIsValid definition) := by
  cases definition with
  | none => exact ⟨false, rfl⟩
  | some d =>
    refine (Defined.not ?_).and fun _ => Defined.ok _
    exact (nullOrEmpty_defined _).or fun _ => (nullOrEmpty_defined _).or fun _ =>
      (nullOrEmpty_defined _).or fun _ => (nullOrEmpty_defined _).or fun _ => Defined.ok _

/-! ## The lookup -/

variable {signals : CArray JaguarFuelSignalDefinition}

/-- On present keys the search is the first match. -/
theorem findFuelSignal_eq_lookup (hsignals : signals.Readable)
    (hkeys : ∀ d ∈ signals.entries, NonEmptyText d.key) {key : Option CString}
    (hkey : NonEmptyText key) :
    findFuelSignal signals key = .ok ((lookup (·.key) signals.entries key).map Fin.val) := by
  have hnot : nullOrEmpty key = .ok false := nullOrEmpty_eq_ok_false.mpr hkey
  obtain ⟨k, rfl, -⟩ := hkey
  have htest : ∀ d ∈ signals.entries, strcmpEq d.key (some k) = .ok (decide (d.key = some k)) := by
    intro d hd
    obtain ⟨t, ht, -⟩ := hkeys d hd
    rw [ht, strcmpEq_some]
    simp
  rw [findFuelSignal, hnot]
  simp only [ok_bind, Bool.false_eq_true, if_false]
  exact firstIndex_get_eq_lookup hsignals htest

/-- Every query has an answer, NULL and the empty key that of nothing found. -/
theorem findFuelSignal_finds (hsignals : signals.Readable)
    (hkeys : ∀ d ∈ signals.entries, NonEmptyText d.key) (key : Option CString) :
    FindsMatch (findFuelSignal signals key) signals.entries (NonEmptyText key) fun d => d.key = key := by
  by_cases hkey : NonEmptyText key
  · exact findsMatch_lookup hkey (findFuelSignal_eq_lookup hsignals hkeys hkey) fun _ => Iff.rfl
  · refine findsMatch_none hkey ?_
    obtain ⟨b, hb⟩ := nullOrEmpty_defined key
    cases b with
    | false => exact absurd (nullOrEmpty_eq_ok_false.mp hb) hkey
    | true =>
      rw [findFuelSignal, hb]
      rfl

/-- Every accepted signal is found under its own key exactly when no two share one. -/
theorem fuelSignals_reachable_iff (hsignals : signals.Readable)
    (hkeys : ∀ d ∈ signals.entries, NonEmptyText d.key) :
    (∀ i : Fin signals.entries.length,
      findFuelSignal signals signals.entries[i].key = .ok (some i)) ↔
    (signals.entries.map (·.key)).Nodup := by
  rw [← UniqueKeys, ← forall_lookup_self_iff]
  refine forall_congr' fun i => ?_
  have hkey : NonEmptyText signals.entries[i].key := hkeys _ (List.getElem_mem i.isLt)
  rw [findFuelSignal_eq_lookup hsignals hkeys hkey, ok_map_val_eq_some]

/-! ## The row -/

/-- The last field of the row. -/
def decoderText (verified : Bool) : Text :=
  utf8 (if verified then "decoder verified" else "decoder not yet vehicle-verified")

/-- What the row prints. -/
def signalText (id : Fin 2048) (status : Fin 3) (verified : Bool) : Text :=
  utf8 "CAN 0x" ++ (canIdText id ++ (utf8 " · " ++ (statusText status ++ (utf8 " · " ++
    decoderText verified))))

/-- The row tells its three fields. -/
theorem signalText_inj {id id' : Fin 2048} {status status' : Fin 3} {verified verified' : Bool}
    (h : signalText id status verified = signalText id' status' verified') :
    id = id' ∧ status = status' ∧ verified = verified' := by
  have hdecoder : ∀ verified verified', decoderText verified = decoderText verified' →
      verified = verified' := by decide
  obtain ⟨hid, h⟩ := canIdText_prefixFree.append_inj (List.append_cancel_left h)
  obtain ⟨hstatus, h⟩ := statusText_prefixFree.append_inj (List.append_cancel_left h)
  exact ⟨hid, hstatus, hdecoder _ _ (List.append_cancel_left h)⟩

/-- The buffer of the row is long enough. -/
theorem signalText_fits (id : Fin 2048) (status : Fin 3) (verified : Bool) :
    (signalText id status verified).length < 160 ∧ (0 : UInt8) ∉ signalText id status verified := by
  have hcan : (utf8 "CAN 0x").length = 6 ∧ (0 : UInt8) ∉ utf8 "CAN 0x" := by decide
  have hsep : (utf8 " · ").length = 4 ∧ (0 : UInt8) ∉ utf8 " · " := by decide
  have hstatus : ∀ status, (statusText status).length ≤ 19 ∧ (0 : UInt8) ∉ statusText status := by
    decide
  have hdecoder : ∀ verified, (decoderText verified).length ≤ 32 ∧
      (0 : UInt8) ∉ decoderText verified := by decide
  constructor
  · have := (hstatus status).1
    have := (hdecoder verified).1
    simp only [signalText, List.length_append, hcan.1, hsep.1, (canIdText_spec _).1]
    omega
  · simp [signalText, hcan.2, hsep.2, (canIdText_spec _).2.2, (hstatus status).2,
      (hdecoder verified).2]

/-- A row that ends in a claim about the decoder ends in the true one. -/
theorem decoderVerified_of_suffix {id : Fin 2048} {status : Fin 3} {verified : Bool}
    (h : utf8 "decoder verified" <:+ signalText id status verified) : verified = true := by
  cases verified with
  | true => rfl
  | false =>
    have hown : utf8 "not yet vehicle-verified" <:+ signalText id status false := by
      have hdecoder : decoderText false = utf8 "decoder " ++ utf8 "not yet vehicle-verified" := by
        decide
      refine ⟨utf8 "CAN 0x" ++ (canIdText id ++ (utf8 " · " ++ (statusText status ++ (utf8 " · " ++
        utf8 "decoder ")))), ?_⟩
      simp only [signalText, hdecoder, List.append_assoc]
    -- two endings of one text, the shorter of which does not end the longer
    have hshort : (utf8 "decoder verified").length ≤ (utf8 "not yet vehicle-verified").length := by
      decide
    have hending := List.suffix_of_suffix_length_le h hown hshort
    exact absurd hending (by decide)

/-- The members the row of a signal is made of. -/
structure ShownSignal where
  messageId : UInt32
  status : CEnum
  decoderVerified : Bool
  provenance : Option CString
  deriving DecidableEq

/-- Everything but key, name and network. -/
def JaguarFuelSignalDefinition.shown (signal : JaguarFuelSignalDefinition) : ShownSignal where
  messageId := signal.messageId
  status := signal.status
  decoderVerified := signal.decoderVerified
  provenance := signal.provenance

/-- The rows of a signal with no buffer in between: message, status and decoder, then provenance. -/
def shownSignalRows (signal : ShownSignal) : List (CardRow Reading) :=
  [textDetail "X400 factory signal" (utf8 "CAN 0x" ++ (hex03 signal.messageId.toNat ++ (utf8 " · " ++
      (utf8 (jaguarDefinitionStatusName signal.status) ++ (utf8 " · " ++
        decoderText signal.decoderVerified))))),
    .note ((signal.provenance.map (·.bytes)).getD [])]

namespace JaguarFuelSignalDefinition.WellFormed

variable {d d' : JaguarFuelSignalDefinition}

/-- The text of a well-formed signal, uncut. -/
theorem factoryStatus (h : d.WellFormed) : ∃ id status, d.messageId.toNat = id.val ∧
    d.status = (status.val : Int) ∧
    Jaglink.factoryStatus d = signalText id status d.decoderVerified := by
  obtain ⟨id, hid⟩ := exists_canId h.messageId
  obtain ⟨status, hstatus⟩ := exists_fin (n := 3) h.status.1 (Int.lt_add_one_of_le h.status.2)
  refine ⟨id, status, hid, hstatus, ?_⟩
  obtain ⟨hlength, hnul⟩ := signalText_fits id status d.decoderVerified
  rw [Jaglink.factoryStatus, hid, hstatus, ← formatted_fits hlength hnul, signalText]
  simp only [canIdText, statusText, decoderText, List.append_assoc]

/-- The rows of a well-formed signal, which has a provenance to print. -/
theorem rows (h : d.WellFormed) : ∃ provenance : CString, d.provenance = some provenance ∧
    (factorySignalRows d : C (List (CardRow Reading))) =
      .ok [textDetail "X400 factory signal" (Jaglink.factoryStatus d), .note provenance.bytes] := by
  obtain ⟨provenance, hprovenance, -⟩ := h.provenance
  refine ⟨provenance, hprovenance, ?_⟩
  rw [factorySignalRows, printed, hprovenance]
  rfl

/-- The buffer holds the whole row of a signal. -/
theorem rows_shown (h : d.WellFormed) :
    (factorySignalRows d : C (List (CardRow Reading))) = .ok (shownSignalRows d.shown) := by
  obtain ⟨provenance, hprovenance, hrows⟩ := @rows Reading _ h
  obtain ⟨id, status, hid, hstatus, htext⟩ := h.factoryStatus
  rw [hrows, htext, shownSignalRows, shown, hprovenance, hid, hstatus]
  rfl

/-- What the rows show, they show apart. -/
theorem rows_iff (h : d.WellFormed) (h' : d'.WellFormed) :
    (factorySignalRows d : C (List (CardRow Reading))) = factorySignalRows d' ↔
      d.shown = d'.shown := by
  obtain ⟨provenance, hprovenance, hrows⟩ := @rows Reading _ h
  obtain ⟨provenance', hprovenance', hrows'⟩ := @rows Reading _ h'
  rw [hrows, hrows']
  constructor
  · intro heq
    obtain ⟨htext, hbytes⟩ : Jaglink.factoryStatus d = Jaglink.factoryStatus d' ∧
        provenance.bytes = provenance'.bytes := by
      simpa [textDetail] using heq
    obtain ⟨id, status, hid, hstatus, hprints⟩ := h.factoryStatus
    obtain ⟨id', status', hid', hstatus', hprints'⟩ := h'.factoryStatus
    rw [hprints, hprints'] at htext
    obtain ⟨rfl, rfl, hverified⟩ := signalText_inj htext
    obtain rfl := CString.ext hbytes
    rw [shown, shown, UInt32.toNat_inj.mp (hid.trans hid'.symm), hstatus, hstatus', hverified,
      hprovenance, hprovenance']
  · intro hshown
    obtain ⟨hid, hstatus, hverified, hsame⟩ : d.messageId = d'.messageId ∧ d.status = d'.status ∧
        d.decoderVerified = d'.decoderVerified ∧ d.provenance = d'.provenance := by
      simpa [shown] using hshown
    rw [hprovenance, hprovenance', Option.some.injEq] at hsame
    rw [Jaglink.factoryStatus, Jaglink.factoryStatus, hid, hstatus, hverified, hsame]

/-- A row that says the decoder is verified says before it that a vehicle verified the signal. -/
theorem evidence (h : d.WellFormed) (hprints : utf8 "decoder verified" <:+ Jaglink.factoryStatus d) :
    utf8 "vehicle-verified · decoder verified" <:+ Jaglink.factoryStatus d := by
  obtain ⟨id, status, hid, hstatus, htext⟩ := h.factoryStatus
  rw [htext] at hprints ⊢
  have hverified := decoderVerified_of_suffix hprints
  have hvehicle : status = 2 := by
    have h2 : (status.val : Int) = 2 := hstatus.symm.trans (h.verified hverified)
    apply Fin.ext
    show status.val = 2
    omega
  rw [hverified, hvehicle]
  have hending : utf8 "vehicle-verified · decoder verified" =
      statusText 2 ++ (utf8 " · " ++ decoderText true) := by decide
  refine ⟨utf8 "CAN 0x" ++ (canIdText id ++ utf8 " · "), ?_⟩
  simp only [hending, signalText, List.append_assoc]

end JaguarFuelSignalDefinition.WellFormed

/-! ## An accepted catalogue -/

/-- **Fuel signals.**  The validator yields a value for every record.  In a catalogue of accepted
    signals the lookup yields a value for every query, NULL included: a signal exactly when one has
    the key, and then such a one; every signal is found under its own key exactly when no two share
    one.  The rows of every signal are printed without a fault and uncut, two signals have the same
    rows exactly if they agree in message, status, decoder and provenance, and `decoder verified`
    stands only behind `vehicle-verified`. -/
theorem fuelSignals_evidence (hsignals : signals.Readable)
    (hvalid : ∀ d ∈ signals.entries, jaguarFuelSignalDefinitionIsValid (some d) = .ok true) :
    (∀ definition, Defined (jaguarFuelSignalDefinitionIsValid definition)) ∧
    (∀ key, FindsMatch (findFuelSignal signals key) signals.entries (NonEmptyText key)
      fun d => d.key = key) ∧
    ((∀ i : Fin signals.entries.length,
        findFuelSignal signals signals.entries[i].key = .ok (some i)) ↔
      (signals.entries.map (·.key)).Nodup) ∧
    ∀ d ∈ signals.entries,
      (factorySignalRows d : C (List (CardRow Reading))) = .ok (shownSignalRows d.shown) ∧
      (∀ d' ∈ signals.entries,
        (factorySignalRows d : C (List (CardRow Reading))) = factorySignalRows d' ↔
          d.shown = d'.shown) ∧
      (utf8 "decoder verified" <:+ factoryStatus d →
        utf8 "vehicle-verified · decoder verified" <:+ factoryStatus d) := by
  have hwell : ∀ d ∈ signals.entries, d.WellFormed := fun d hd =>
    fuelSignalDefinitionIsValid_iff.mp (hvalid d hd)
  have hkeys : ∀ d ∈ signals.entries, NonEmptyText d.key := fun d hd => (hwell d hd).key
  refine ⟨fuelSignalDefinitionIsValid_defined, findFuelSignal_finds hsignals hkeys,
    fuelSignals_reachable_iff hsignals hkeys, fun d hd => ⟨?_, fun d' hd' => ?_, ?_⟩⟩
  · exact (hwell d hd).rows_shown
  · exact (hwell d hd).rows_iff (hwell d' hd')
  · exact (hwell d hd).evidence

theorem x400FuelSignals_readable : x400FuelSignals.Readable := by
  intro _ h
  cases h

set_option maxRecDepth 8000 in
theorem x400FuelSignals_valid : ∀ d ∈ x400FuelSignals.entries,
    jaguarFuelSignalDefinitionIsValid (some d) = .ok true := by
  decide

/-- The built-in signal, and one whose decoder a vehicle has verified. -/
def twoFuelSignals : CArray JaguarFuelSignalDefinition := CArray.ofList (x400FuelSignals.entries ++ [
  ⟨text "x400-can-fuel-level", text "FUEL LEVEL", text "x400-body-can", 0x0c8,
    JaguarDefinitionStatus.vehicleVerified, true, text "Read on a vehicle."⟩])

set_option maxRecDepth 8000 in
theorem twoFuelSignals_valid : ∀ d ∈ twoFuelSignals.entries,
    jaguarFuelSignalDefinitionIsValid (some d) = .ok true := by
  decide

set_option maxRecDepth 8000 in
/-- Both are found under their own keys, and their rows are whole and differ; a key in other letters
    finds neither. -/
theorem fuelSignals_evidence_twoSignals :
    (∀ i : Fin twoFuelSignals.entries.length,
      findFuelSignal twoFuelSignals twoFuelSignals.entries[i].key = .ok (some i)) ∧
    FindsMatch (findFuelSignal twoFuelSignals (text "X400-CAN-FUEL-USED")) twoFuelSignals.entries
      (NonEmptyText (text "X400-CAN-FUEL-USED")) (fun d => d.key = text "X400-CAN-FUEL-USED") ∧
    (∀ d ∈ twoFuelSignals.entries,
      (factorySignalRows d : C (List (CardRow Nat))) = .ok (shownSignalRows d.shown)) ∧
    (factorySignalRows twoFuelSignals.entries[0] : C (List (CardRow Nat))) ≠
      factorySignalRows twoFuelSignals.entries[1] ∧
    utf8 "vehicle-verified · decoder verified" <:+ factoryStatus twoFuelSignals.entries[1] := by
  have hreadable : twoFuelSignals.Readable := by
    intro _ h
    cases h
  have h := @fuelSignals_evidence Nat _ hreadable twoFuelSignals_valid
  refine ⟨h.2.2.1.mpr (by decide), h.2.1 _, fun d hd => (h.2.2.2 d hd).1, ?_, ?_⟩
  · rw [Ne, (h.2.2.2 _ (by decide)).2.1 _ (by decide)]
    decide
  · exact (h.2.2.2 _ (by decide)).2.2 (by decide)

end Jaglink
