/-
  What `jaglink_jaguar_vehicle_profile_is_valid` accepts.

  1. **Program** — three nested loops behind a header check: every network against the earlier ones,
     every endpoint against the networks, every trouble code by itself.

  2. **Specification** — `WellFormed` states, without loops or pointers, what a profile is meant to
     be: present texts, ranges, pairwise distinct network keys, every endpoint on a network of the
     profile.  `isValid_iff_wellFormed` proves the validator decides exactly that, for arrays of any
     length.

  3. **The proof is bottom up**, one lemma for each C expression (`validDtcCode_eq_ok_true` and the
     like), each of the form "this check succeeds exactly when ...".  A check that would fault has
     no value, so it never counts as a success; that the accepted profiles never reach one is
     visible in the shape of the conjunctions.

  4. **The crux** is the network loop: the source compares each key with all earlier ones without a
     NULL test, which is safe because the check on the definition itself stands before it.  With
     every key present the network search is the first match on keys (`findNetwork_eq_lookup`), and
     with distinct keys it inverts the key: `jaguarVehicleProfileIsValid_spec` puts the two
     together.

  5. **No fault** — `isValid_defined` is the same walk for definedness: the validator yields a value
     for every profile, well formed or not.
-/
import Jaglink.Profile

namespace Jaglink

open CLib FirstMatch

/-! ## Well-formed definitions -/

/-- A text member that is present and not empty. -/
def NonEmptyText (s : Option CString) : Prop := ∃ t, s = some t ∧ t.bytes ≠ []

/-- `[0-9A-F]`. -/
def UpperHexDigit (c : UInt8) : Prop := (ch '0' ≤ c ∧ c ≤ ch '9') ∨ (ch 'A' ≤ c ∧ c ≤ ch 'F')

/-- `[PBCU][0-9A-F]{4}`. -/
def DtcCode (s : Option CString) : Prop :=
  ∃ t, s = some t ∧ t.strlen = 5 ∧ t.charAt 0 ∈ [ch 'P', ch 'B', ch 'C', ch 'U'] ∧
    ∀ i, 1 ≤ i → i < 5 → UpperHexDigit (t.charAt i)

/-- The range of `JaglinkJaguarDefinitionStatus`. -/
def StatusInRange (status : CEnum) : Prop :=
  JaguarDefinitionStatus.candidate ≤ status ∧ status ≤ JaguarDefinitionStatus.vehicleVerified

/-- The range of `JaglinkJaguarModuleKind`. -/
def ModuleInRange (module : CEnum) : Prop :=
  JaguarModuleKind.ecm ≤ module ∧ module ≤ JaguarModuleKind.other

/-- What a network is meant to be. -/
structure JaguarNetworkDefinition.WellFormed (d : JaguarNetworkDefinition) : Prop where
  key : NonEmptyText d.key
  name : NonEmptyText d.name
  kind : JaguarNetworkKind.can ≤ d.kind ∧ d.kind ≤ JaguarNetworkKind.d2b
  role : JaguarNetworkRole.powertrain ≤ d.role ∧ d.role ≤ JaguarNetworkRole.infotainment
  nominalBaud : d.nominalBaud ≠ 0
  status : StatusInRange d.status
  provenance : NonEmptyText d.provenance

/-- What an endpoint is meant to be: two different CAN identifiers of eleven bits, for a known
    module. -/
structure JaguarDiagnosticEndpointDefinition.WellFormed
    (d : JaguarDiagnosticEndpointDefinition) : Prop where
  key : NonEmptyText d.key
  name : NonEmptyText d.name
  module : ModuleInRange d.module
  networkKey : NonEmptyText d.networkKey
  request : d.requestMessageId ≤ 0x7ff
  response : d.responseMessageId ≤ 0x7ff
  distinct : d.requestMessageId ≠ d.responseMessageId
  status : StatusInRange d.status
  provenance : NonEmptyText d.provenance

/-- What a trouble code is meant to be. -/
structure JaguarFactoryDtcDefinition.WellFormed (d : JaguarFactoryDtcDefinition) : Prop where
  code : DtcCode d.code
  stableKey : NonEmptyText d.stableKey
  module : ModuleInRange d.module
  category : NonEmptyText d.category
  status : StatusInRange d.status
  provenance : NonEmptyText d.provenance

/-- What a vehicle profile is meant to be. -/
structure JaguarVehicleProfile.WellFormed (p : JaguarVehicleProfile) : Prop where
  platformCode : NonEmptyText p.platformCode
  platformFamily : NonEmptyText p.platformFamily
  displayName : NonEmptyText p.displayName
  years : 0 < p.firstModelYear ∧ p.firstModelYear ≤ p.lastModelYear
  someNetwork : p.networks.data ≠ none ∧ 0 < p.networks.count
  endpointsPresent : p.diagnosticEndpoints.Readable
  dtcsPresent : p.factoryDtcs.Readable
  networks : ∀ n ∈ p.networks.entries, n.WellFormed
  distinctKeys : (p.networks.entries.map (·.key)).Nodup
  endpoints : ∀ e ∈ p.diagnosticEndpoints.entries, e.WellFormed
  resolved : ∀ e ∈ p.diagnosticEndpoints.entries, ∃ n ∈ p.networks.entries, n.key = e.networkKey
  dtcs : ∀ d ∈ p.factoryDtcs.entries, d.WellFormed

/-! ## The checks on one member -/

/-- A pure computation yields its value and no other. -/
theorem ok_eq_ok {b b' : Bool} : (pure b : C Bool) = .ok b' ↔ b = b' := by
  simp [pure, Except.pure]

/-- The first character of a text is NUL exactly when the text is empty. -/
theorem charAt_zero_eq_zero (t : CString) : t.charAt 0 = 0 ↔ t.bytes = [] := by
  constructor
  · intro h
    by_contra hne
    exact t.charAt_ne_zero (List.length_pos_iff.mpr hne) h
  · intro h
    simp [CString.charAt, h]

/-- `nonEmpty` takes exactly the texts that are there. -/
theorem nonEmpty_eq_ok_true {s : Option CString} : nonEmpty s = .ok true ↔ NonEmptyText s := by
  rw [nonEmpty, and_eq_ok_true, ok_eq_ok]
  cases s with
  | none => simp [NonEmptyText]
  | some t =>
    rw [charAt_zero]
    simp [NonEmptyText, pure, Except.pure, charAt_zero_eq_zero]

/-- `nullOrEmpty` refuses exactly the texts that are there. -/
theorem nullOrEmpty_eq_ok_false {s : Option CString} :
    nullOrEmpty s = .ok false ↔ NonEmptyText s := by
  rw [nullOrEmpty, or_eq_ok_false, ok_eq_ok]
  cases s with
  | none => simp [NonEmptyText]
  | some t =>
    rw [charAt_zero]
    simp [NonEmptyText, pure, Except.pure, charAt_zero_eq_zero]

/-- The status test is a range. -/
theorem validStatus_iff {status : CEnum} : validStatus status = true ↔ StatusInRange status := by
  simp [validStatus, StatusInRange]

/-- The module test is a range. -/
theorem validModule_iff {module : CEnum} : validModule module = true ↔ ModuleInRange module := by
  simp [validModule, ModuleInRange]

/-- `isxdigit` without the small letters leaves the capitals. -/
theorem upperHexDigit_iff (c : UInt8) :
    (isxdigit c && !(ch 'a' ≤ c && c ≤ ch 'f')) = true ↔ UpperHexDigit c :=
  forall_byte (p := fun c =>
    (isxdigit c && !(ch 'a' ≤ c && c ≤ ch 'f')) = true ↔
      (ch '0' ≤ c ∧ c ≤ ch '9') ∨ (ch 'A' ≤ c ∧ c ≤ ch 'F')) (by decide +kernel) c

/-- Inside the text a round of the loop reads the character at its index. -/
theorem dtcDigit_eq_ok_true {t : CString} {index : Nat} (h : index < t.strlen) :
    dtcDigit (some t) index = .ok true ↔ UpperHexDigit (t.charAt index) := by
  rw [← upperHexDigit_iff, dtcDigit, charAt]
  simp [show index ≤ t.strlen from Nat.le_of_lt h, pure, Except.pure]

/-- A code is taken exactly if it has the form of one. -/
theorem validDtcCode_eq_ok_true {code : Option CString} :
    validDtcCode code = .ok true ↔ DtcCode code := by
  cases code with
  | none =>
    rw [validDtcCode, and_eq_ok_true, not_eq_ok_true, or_eq_ok_false, ok_eq_ok]
    simp [DtcCode]
  | some t =>
    have hlen : (do return (← strlen (some t)) != 5 : C Bool) = .ok false ↔ t.strlen = 5 := by
      simp [strlen, pure, Except.pure]
    have hsystem : (do
          let c ← charAt (some t) 0
          return c != ch 'P' && c != ch 'B' && c != ch 'C' && c != ch 'U' : C Bool) = .ok false ↔
        t.charAt 0 ∈ [ch 'P', ch 'B', ch 'C', ch 'U'] := by
      rw [charAt_zero]
      simp only [ok_bind, ok_eq_ok, List.mem_cons, List.not_mem_nil, or_false]
      simp only [Bool.and_eq_false_iff, bne_eq_false_iff_eq, or_assoc]
    rw [validDtcCode, and_eq_ok_true, not_eq_ok_true, or_eq_ok_false, or_eq_ok_false, hlen, hsystem,
      allIndices_eq_ok_true]
    constructor
    · rintro ⟨⟨-, hfive, hsys⟩, hdigits⟩
      refine ⟨t, rfl, hfive, hsys, fun i hi hlt => ?_⟩
      exact (dtcDigit_eq_ok_true (by omega)).mp (hdigits i hi hlt)
    · rintro ⟨t', ht', hfive, hsys, hdigits⟩
      obtain rfl : t = t' := Option.some.inj ht'
      refine ⟨⟨rfl, hfive, hsys⟩, fun i hi hlt => ?_⟩
      exact (dtcDigit_eq_ok_true (by omega)).mpr (hdigits i hi hlt)

/-! ## The checks on one definition -/

/-- The network validator takes exactly the well-formed networks. -/
theorem networkDefinitionIsValid_iff {d : JaguarNetworkDefinition} :
    jaguarNetworkDefinitionIsValid (some d) = .ok true ↔ d.WellFormed := by
  simp only [jaguarNetworkDefinitionIsValid, and_eq_ok_true, not_eq_ok_true, or_eq_ok_false,
    nullOrEmpty_eq_ok_false, ok_eq_ok, validStatus_iff]
  constructor
  · rintro ⟨⟨hkey, hname, hbaud, hprov⟩, hkind, hrole, hstatus⟩
    exact ⟨hkey, hname, by simpa using hkind, by simpa using hrole, by simpa using hbaud, hstatus,
      hprov⟩
  · rintro ⟨hkey, hname, hkind, hrole, hbaud, hstatus, hprov⟩
    exact ⟨⟨hkey, hname, by simpa using hbaud, hprov⟩, by simpa using hkind, by simpa using hrole,
      hstatus⟩

/-- The endpoint validator takes exactly the well-formed endpoints. -/
theorem diagnosticEndpointDefinitionIsValid_iff {d : JaguarDiagnosticEndpointDefinition} :
    jaguarDiagnosticEndpointDefinitionIsValid (some d) = .ok true ↔ d.WellFormed := by
  simp only [jaguarDiagnosticEndpointDefinitionIsValid, and_eq_ok_true, nonEmpty_eq_ok_true,
    ok_eq_ok, validModule_iff, validStatus_iff, decide_eq_true_eq, bne_iff_ne]
  constructor
  · rintro ⟨hkey, hname, hmod, hnet, hreq, hresp, hne, hstatus, hprov⟩
    exact ⟨hkey, hname, hmod, hnet, hreq, hresp, hne, hstatus, hprov⟩
  · rintro ⟨hkey, hname, hmod, hnet, hreq, hresp, hne, hstatus, hprov⟩
    exact ⟨hkey, hname, hmod, hnet, hreq, hresp, hne, hstatus, hprov⟩

/-- The validator of codes takes exactly the well-formed ones. -/
theorem factoryDtcDefinitionIsValid_iff {d : JaguarFactoryDtcDefinition} :
    jaguarFactoryDtcDefinitionIsValid (some d) = .ok true ↔ d.WellFormed := by
  simp only [jaguarFactoryDtcDefinitionIsValid, and_eq_ok_true, nonEmpty_eq_ok_true, ok_eq_ok,
    validModule_iff, validStatus_iff, validDtcCode_eq_ok_true]
  constructor
  · rintro ⟨hcode, hstable, hmod, hcat, hstatus, hprov⟩
    exact ⟨hcode, hstable, hmod, hcat, hstatus, hprov⟩
  · rintro ⟨hcode, hstable, hmod, hcat, hstatus, hprov⟩
    exact ⟨hcode, hstable, hmod, hcat, hstatus, hprov⟩

/-! ## The network search -/

/-- Every network key is present, as it is after the network loop of the validator. -/
def KeysPresent (p : JaguarVehicleProfile) : Prop :=
  p.networks.Readable ∧ ∀ n ∈ p.networks.entries, NonEmptyText n.key

/-- **The network search is the first match on keys.**  With every key present no comparison
    reads a NULL key. -/
theorem findNetwork_eq_lookup {p : JaguarVehicleProfile} (hp : KeysPresent p)
    {key : Option CString} (hkey : NonEmptyText key) :
    jaguarProfileFindNetwork (some p) key =
      .ok ((lookup (·.key) p.networks.entries key).map Fin.val) := by
  have hnot : nullOrEmpty key = .ok false := nullOrEmpty_eq_ok_false.mpr hkey
  obtain ⟨k, rfl, -⟩ := hkey
  have htest : ∀ n ∈ p.networks.entries,
      strcmpEq n.key (some k) = .ok (decide (n.key = some k)) := by
    intro n hn
    obtain ⟨t, ht, -⟩ := hp.2 n hn
    rw [ht, strcmpEq_some]
    simp
  rw [jaguarProfileFindNetwork, hnot]
  simp only [ok_bind, Bool.false_eq_true, if_false]
  exact firstIndex_get_eq_lookup hp.1 htest

/-! ## The checks on a whole profile -/

/-- What the checks before the loops establish: the arrays the loops read are there. -/
theorem headerIsValid_iff {p : JaguarVehicleProfile} :
    profileHeaderIsValid p = .ok true ↔
      NonEmptyText p.platformCode ∧ NonEmptyText p.platformFamily ∧ NonEmptyText p.displayName ∧
      (0 < p.firstModelYear ∧ p.firstModelYear ≤ p.lastModelYear) ∧
      (p.networks.data ≠ none ∧ 0 < p.networks.count) ∧
      p.diagnosticEndpoints.Readable ∧ p.factoryDtcs.Readable := by
  simp only [profileHeaderIsValid, not_eq_ok_true, or_eq_ok_false, nullOrEmpty_eq_ok_false,
    ok_eq_ok]
  have hyears : (p.firstModelYear == 0 || decide (p.lastModelYear < p.firstModelYear)) = false ↔
      0 < p.firstModelYear ∧ p.firstModelYear ≤ p.lastModelYear := by
    simp only [Bool.or_eq_false_iff, beq_eq_false_iff_ne, decide_eq_false_iff_not, ne_eq,
      UInt16.not_lt, UInt16.pos_iff_ne_zero]
  have hnet : (p.networks.data.isNone || p.networks.count == 0) = false ↔
      p.networks.data ≠ none ∧ 0 < p.networks.count := by
    cases p.networks.data <;> simp [Nat.pos_iff_ne_zero]
  have hptr : ∀ {α : Type} (a : CArray α),
      (a.count != 0 && a.data.isNone) = false ↔ a.Readable := by
    intro α a
    unfold CArray.Readable
    cases a.data <;> simp
  rw [hyears, hnet, hptr, hptr]

/-- One round of the network loop. -/
theorem networkRound_iff {p : JaguarVehicleProfile} (hp : p.networks.Readable) {i : Nat}
    (hi : i < p.networks.entries.length) :
    profileNetworkIsValid p i = .ok true ↔
      p.networks.entries[i].WellFormed ∧ ∀ j, j < i →
        (do strcmpEq p.networks.entries[i].key (← p.networks.get j).key : C Bool) = .ok false := by
  have hget : p.networks.get i = .ok p.networks.entries[i] :=
    hp.get (hp.length_entries ▸ hi)
  rw [profileNetworkIsValid, and_eq_ok_true, hget, ok_bind, networkDefinitionIsValid_iff,
    allIndices_eq_ok_true]
  simp [not_eq_ok_true]

/-- **The network loop**: every definition is well formed and no key repeats.  The source compares
    a key with the EARLIER ones only; over the whole loop that is every pair. -/
theorem networkLoop_iff {p : JaguarVehicleProfile} (hp : p.networks.Readable) :
    allIndices (profileNetworkIsValid p) 0 p.networks.count = .ok true ↔
      (∀ n ∈ p.networks.entries, n.WellFormed) ∧ (p.networks.entries.map (·.key)).Nodup := by
  have hlen := hp.length_entries
  rw [allIndices_eq_ok_true, ← hlen, List.Nodup, List.pairwise_map, List.pairwise_iff_getElem]
  -- with both keys present the comparison is an inequality of keys
  have hcmp : ∀ (i j : Nat) (hi : i < p.networks.entries.length)
      (hj : j < p.networks.entries.length),
      NonEmptyText p.networks.entries[i].key → NonEmptyText p.networks.entries[j].key →
      ((do strcmpEq p.networks.entries[i].key (← p.networks.get j).key : C Bool) = .ok false ↔
        p.networks.entries[j].key ≠ p.networks.entries[i].key) := by
    intro i j hi hj ⟨s, hs, _⟩ ⟨t, ht, _⟩
    have hget : p.networks.get j = .ok p.networks.entries[j] := hp.get (hlen ▸ hj)
    rw [hget, ok_bind, hs, ht, strcmpEq_some]
    simp [eq_comm]
  constructor
  · intro h
    have hwf : ∀ (i : Nat) (hi : i < p.networks.entries.length),
        p.networks.entries[i].WellFormed :=
      fun i hi => ((networkRound_iff hp hi).mp (h i (Nat.zero_le _) (by omega))).1
    refine ⟨fun n hn => ?_, fun j i hj hi hji => ?_⟩
    · obtain ⟨i, hi, rfl⟩ := List.getElem_of_mem hn
      exact hwf i hi
    · have := ((networkRound_iff hp hi).mp (h i (Nat.zero_le _) (by omega))).2 j hji
      exact (hcmp i j hi hj (hwf i hi).key (hwf j hj).key).mp this
  · rintro ⟨hwf, hne⟩ i - hi
    have hi : i < p.networks.entries.length := by omega
    refine (networkRound_iff hp hi).mpr ⟨hwf _ (List.getElem_mem hi), fun j hji => ?_⟩
    have hj : j < p.networks.entries.length := by omega
    exact (hcmp i j hi hj (hwf _ (List.getElem_mem hi)).key (hwf _ (List.getElem_mem hj)).key).mpr
      (hne j i hj hi hji)

/-- **The endpoint loop**: every definition is well formed and its network exists. -/
theorem endpointLoop_iff {p : JaguarVehicleProfile} (hp : p.diagnosticEndpoints.Readable)
    (hkeys : KeysPresent p) :
    allIndices (profileEndpointIsValid p) 0 p.diagnosticEndpoints.count = .ok true ↔
      (∀ e ∈ p.diagnosticEndpoints.entries, e.WellFormed) ∧
      ∀ e ∈ p.diagnosticEndpoints.entries, ∃ n ∈ p.networks.entries, n.key = e.networkKey := by
  have hlen := hp.length_entries
  have hround : ∀ (i : Nat) (hi : i < p.diagnosticEndpoints.entries.length),
      profileEndpointIsValid p i = .ok true ↔ p.diagnosticEndpoints.entries[i].WellFormed ∧
        ∃ n ∈ p.networks.entries, n.key = p.diagnosticEndpoints.entries[i].networkKey := by
    intro i hi
    have hget : p.diagnosticEndpoints.get i = .ok p.diagnosticEndpoints.entries[i] :=
      hp.get (hlen ▸ hi)
    rw [profileEndpointIsValid, hget, ok_bind, and_eq_ok_true,
      diagnosticEndpointDefinitionIsValid_iff]
    refine and_congr_right fun hwf => ?_
    rw [findNetwork_eq_lookup hkeys hwf.networkKey, ok_bind, ok_eq_ok, Option.isSome_map,
      ← lookup_ne_none_iff, Option.isSome_iff_ne_none]
  rw [allIndices_eq_ok_true, ← hlen]
  constructor
  · intro h
    refine ⟨fun e he => ?_, fun e he => ?_⟩
    · obtain ⟨i, hi, rfl⟩ := List.getElem_of_mem he
      exact ((hround i hi).mp (h i (Nat.zero_le _) (by omega))).1
    · obtain ⟨i, hi, rfl⟩ := List.getElem_of_mem he
      exact ((hround i hi).mp (h i (Nat.zero_le _) (by omega))).2
  · rintro ⟨hwf, hres⟩ i - hi
    have hi : i < p.diagnosticEndpoints.entries.length := by omega
    exact (hround i hi).mpr ⟨hwf _ (List.getElem_mem hi), hres _ (List.getElem_mem hi)⟩

/-- **The DTC loop**: every definition is well formed. -/
theorem dtcLoop_iff {p : JaguarVehicleProfile} (hp : p.factoryDtcs.Readable) :
    allIndices (profileDtcIsValid p) 0 p.factoryDtcs.count = .ok true ↔
      ∀ d ∈ p.factoryDtcs.entries, d.WellFormed := by
  have hlen := hp.length_entries
  have hround : ∀ (i : Nat) (hi : i < p.factoryDtcs.entries.length),
      profileDtcIsValid p i = .ok true ↔ p.factoryDtcs.entries[i].WellFormed := by
    intro i hi
    have hget : p.factoryDtcs.get i = .ok p.factoryDtcs.entries[i] := hp.get (hlen ▸ hi)
    rw [profileDtcIsValid, hget, ok_bind, factoryDtcDefinitionIsValid_iff]
  rw [allIndices_eq_ok_true, ← hlen]
  constructor
  · intro h d hd
    obtain ⟨i, hi, rfl⟩ := List.getElem_of_mem hd
    exact (hround i hi).mp (h i (Nat.zero_le _) (by omega))
  · intro hwf i _ hi
    have hi : i < p.factoryDtcs.entries.length := by omega
    exact (hround i hi).mpr (hwf _ (List.getElem_mem hi))

/-- Well-formed networks have keys, so they can be compared without a NULL test. -/
theorem keysPresent_of_networks {p : JaguarVehicleProfile} (hdata : p.networks.data ≠ none)
    (hwf : ∀ n ∈ p.networks.entries, n.WellFormed) : KeysPresent p :=
  ⟨fun _ => hdata, fun n hn => (hwf n hn).key⟩

/-- **The validator decides well-formedness.** -/
theorem isValid_iff_wellFormed (p : JaguarVehicleProfile) :
    jaguarVehicleProfileIsValid (some p) = .ok true ↔ p.WellFormed := by
  rw [jaguarVehicleProfileIsValid, and_eq_ok_true, and_eq_ok_true, and_eq_ok_true,
    headerIsValid_iff]
  constructor
  · rintro ⟨⟨hcode, hfamily, hname, hyears, hnet, hep, hdtc⟩, hnets, heps, hdtcs⟩
    obtain ⟨hwf, hnodup⟩ := (networkLoop_iff fun _ => hnet.1).mp hnets
    obtain ⟨hewf, hres⟩ := (endpointLoop_iff hep (keysPresent_of_networks hnet.1 hwf)).mp heps
    exact ⟨hcode, hfamily, hname, hyears, hnet, hep, hdtc, hwf, hnodup, hewf, hres,
      (dtcLoop_iff hdtc).mp hdtcs⟩
  · intro h
    refine ⟨⟨h.platformCode, h.platformFamily, h.displayName, h.years, h.someNetwork,
      h.endpointsPresent, h.dtcsPresent⟩, ?_, ?_, ?_⟩
    · exact (networkLoop_iff fun _ => h.someNetwork.1).mpr ⟨h.networks, h.distinctKeys⟩
    · exact (endpointLoop_iff h.endpointsPresent
        (keysPresent_of_networks h.someNetwork.1 h.networks)).mpr ⟨h.endpoints, h.resolved⟩
    · exact (dtcLoop_iff h.dtcsPresent).mpr h.dtcs

/-! ## The validator never faults

Each check reads only what an earlier one made sure of: a first character after the NULL test, an
array after its pointer test, a network key after the whole network loop. -/

/-- The test reads a byte only behind its NULL test. -/
theorem nullOrEmpty_defined (s : Option CString) : Defined (nullOrEmpty s) := by
  refine (Defined.ok _).or fun h => ?_
  cases s with
  | none => cases h
  | some t =>
    rw [charAt_zero]
    exact Defined.ok _

/-- The test that a text is present and not empty never faults. -/
theorem nonEmpty_defined (s : Option CString) : Defined (nonEmpty s) := by
  refine (Defined.ok _).and fun h => ?_
  cases s with
  | none => cases h
  | some t =>
    rw [charAt_zero]
    exact Defined.ok _

/-- The length is checked before the digits are read. -/
theorem validDtcCode_defined (code : Option CString) : Defined (validDtcCode code) := by
  cases code with
  | none => exact ⟨false, rfl⟩
  | some t =>
    refine Defined.and (Defined.not ?_) fun h => ?_
    · refine (Defined.ok _).or fun _ => (Defined.ok _).or fun _ => ?_
      rw [charAt_zero]
      exact Defined.ok _
    · -- the digits are read behind the length check
      rw [not_eq_ok_true, or_eq_ok_false, or_eq_ok_false] at h
      have hlen : t.strlen = 5 := by
        have := h.2.1
        simpa [strlen, pure, Except.pure] using this
      refine Defined.allIndices fun i _ hi _ => ?_
      rw [dtcDigit, charAt]
      simp only [deref_some, ok_bind, show i ≤ t.strlen by omega, if_true]
      exact Defined.ok _

/-- The network validator never faults, whatever the network. -/
theorem networkDefinitionIsValid_defined (d : JaguarNetworkDefinition) :
    Defined (jaguarNetworkDefinitionIsValid (some d)) := by
  refine (Defined.not ?_).and fun _ => (Defined.ok _).and fun _ => (Defined.ok _).and fun _ =>
    Defined.ok _
  exact (nullOrEmpty_defined _).or fun _ => (nullOrEmpty_defined _).or fun _ =>
    (Defined.ok _).or fun _ => nullOrEmpty_defined _

/-- The endpoint validator never faults. -/
theorem diagnosticEndpointDefinitionIsValid_defined (d : JaguarDiagnosticEndpointDefinition) :
    Defined (jaguarDiagnosticEndpointDefinitionIsValid (some d)) :=
  (nonEmpty_defined _).and fun _ => (nonEmpty_defined _).and fun _ => (Defined.ok _).and fun _ =>
    (nonEmpty_defined _).and fun _ => (Defined.ok _).and fun _ => (Defined.ok _).and fun _ =>
    (Defined.ok _).and fun _ => (Defined.ok _).and fun _ => nonEmpty_defined _

/-- The validator of trouble codes never faults. -/
theorem factoryDtcDefinitionIsValid_defined (d : JaguarFactoryDtcDefinition) :
    Defined (jaguarFactoryDtcDefinitionIsValid (some d)) :=
  (validDtcCode_defined _).and fun _ => (nonEmpty_defined _).and fun _ => (Defined.ok _).and fun _ =>
    (nonEmpty_defined _).and fun _ => (Defined.ok _).and fun _ => nonEmpty_defined _

/-- The header checks read no array. -/
theorem headerIsValid_defined (p : JaguarVehicleProfile) : Defined (profileHeaderIsValid p) :=
  Defined.not <|
    (nullOrEmpty_defined _).or fun _ => (nullOrEmpty_defined _).or fun _ =>
    (nullOrEmpty_defined _).or fun _ => (Defined.ok _).or fun _ => (Defined.ok _).or fun _ =>
    (Defined.ok _).or fun _ => Defined.ok _

/-- On a readable array the network loop never faults.  It compares a key with the earlier ones only
    behind the check that both are there. -/
theorem networkLoop_defined {p : JaguarVehicleProfile} (hp : p.networks.Readable) :
    Defined (allIndices (profileNetworkIsValid p) 0 p.networks.count) := by
  refine Defined.allIndices fun i _ hi hbefore => ?_
  have hlen := hp.length_entries
  have hi : i < p.networks.entries.length := by omega
  have hget : p.networks.get i = .ok p.networks.entries[i] := hp.get (by omega)
  refine Defined.and ?_ fun hthis => ?_
  · rw [hget, ok_bind]
    exact networkDefinitionIsValid_defined _
  rw [hget, ok_bind, networkDefinitionIsValid_iff] at hthis
  obtain ⟨s, hs, -⟩ := hthis.key
  refine Defined.allIndices fun j _ hj _ => Defined.not ?_
  -- an earlier network has passed its own round, so its key is present too
  have hj : j < p.networks.entries.length := by omega
  have hgetj : p.networks.get j = .ok p.networks.entries[j] := hp.get (by omega)
  obtain ⟨t, ht, -⟩ := ((networkRound_iff hp hj).mp (hbefore j (Nat.zero_le _) (by omega))).1.key
  rw [hget, ok_bind, hgetj, ok_bind, hs, ht, strcmpEq_some]
  exact Defined.ok _

/-- The endpoint loop never faults: its lookup compares keys that are there. -/
theorem endpointLoop_defined {p : JaguarVehicleProfile} (hp : p.diagnosticEndpoints.Readable)
    (hkeys : KeysPresent p) :
    Defined (allIndices (profileEndpointIsValid p) 0 p.diagnosticEndpoints.count) := by
  refine Defined.allIndices fun i _ hi _ => ?_
  have hget := hp.get (show i < p.diagnosticEndpoints.count by omega)
  rw [profileEndpointIsValid, hget, ok_bind]
  refine (diagnosticEndpointDefinitionIsValid_defined _).and fun hwf => ?_
  rw [diagnosticEndpointDefinitionIsValid_iff] at hwf
  rw [findNetwork_eq_lookup hkeys hwf.networkKey]
  exact Defined.ok _

/-- The loop over the trouble codes never faults. -/
theorem dtcLoop_defined {p : JaguarVehicleProfile} (hp : p.factoryDtcs.Readable) :
    Defined (allIndices (profileDtcIsValid p) 0 p.factoryDtcs.count) := by
  refine Defined.allIndices fun i _ hi _ => ?_
  have hget := hp.get (show i < p.factoryDtcs.count by omega)
  rw [profileDtcIsValid, hget, ok_bind]
  exact factoryDtcDefinitionIsValid_defined _

/-- **The validator yields a value for every profile**, well formed or not. -/
theorem isValid_defined (p : JaguarVehicleProfile) :
    Defined (jaguarVehicleProfileIsValid (some p)) := by
  refine (headerIsValid_defined p).and fun hheader => ?_
  obtain ⟨-, -, -, -, hnet, hep, hdtc⟩ := headerIsValid_iff.mp hheader
  have hnets : p.networks.Readable := fun _ => hnet.1
  refine (networkLoop_defined hnets).and fun hloop => ?_
  have hwf := ((networkLoop_iff hnets).mp hloop).1
  exact (endpointLoop_defined hep (keysPresent_of_networks hnet.1 hwf)).and fun _ =>
    dtcLoop_defined hdtc

/-! ## Accepted profiles -/

namespace JaguarVehicleProfile.WellFormed

variable {p : JaguarVehicleProfile} (h : p.WellFormed)
include h

/-- The network search of an accepted profile can be read as a partial function of the key. -/
theorem uniqueKeys : UniqueKeys (fun n => n.key) p.networks.entries := h.distinctKeys

/-- And it faults on no key. -/
theorem keysPresent : KeysPresent p := keysPresent_of_networks h.someNetwork.1 h.networks

/-- The key of a network leads back to that very network. -/
theorem findNetwork_own (i : Fin p.networks.entries.length) :
    jaguarProfileFindNetwork (some p) p.networks.entries[i].key = .ok (some i) := by
  have hkey : NonEmptyText p.networks.entries[i].key :=
    (h.networks _ (List.getElem_mem i.isLt)).key
  rw [findNetwork_eq_lookup h.keysPresent hkey]
  exact congrArg (fun r => Except.ok (Option.map Fin.val r)) (lookup_self h.uniqueKeys i)

/-- An endpoint resolves to the one network that carries its key. -/
theorem findNetwork_endpoint {e : JaguarDiagnosticEndpointDefinition}
    (he : e ∈ p.diagnosticEndpoints.entries) :
    ∃ i : Fin p.networks.entries.length,
      jaguarProfileFindNetwork (some p) e.networkKey = .ok (some i) ∧
      p.networks.entries[i].key = e.networkKey ∧
      ∀ j : Fin p.networks.entries.length, p.networks.entries[j].key = e.networkKey → j = i := by
  obtain ⟨n, hn, hkey⟩ := h.resolved e he
  obtain ⟨k, hk, rfl⟩ := List.getElem_of_mem hn
  have hown := h.findNetwork_own ⟨k, hk⟩
  refine ⟨⟨k, hk⟩, hkey ▸ hown, hkey, fun j hj => ?_⟩
  exact h.uniqueKeys.eq_of_key_eq (hj.trans hkey.symm)

end JaguarVehicleProfile.WellFormed

/-- **The profile validator.**  It answers true exactly on the well-formed profiles and false on
    all others; in an accepted profile the network search inverts every network key and resolves
    every endpoint to exactly one network. -/
theorem jaguarVehicleProfileIsValid_spec (p : JaguarVehicleProfile) :
    (jaguarVehicleProfileIsValid (some p) = .ok true ↔ p.WellFormed) ∧
    (jaguarVehicleProfileIsValid (some p) = .ok false ↔ ¬p.WellFormed) ∧
    (jaguarVehicleProfileIsValid (some p) = .ok true →
      (∀ i : Fin p.networks.entries.length,
        jaguarProfileFindNetwork (some p) p.networks.entries[i].key = .ok (some i)) ∧
      ∀ e ∈ p.diagnosticEndpoints.entries, ∃ i : Fin p.networks.entries.length,
        jaguarProfileFindNetwork (some p) e.networkKey = .ok (some i) ∧
        p.networks.entries[i].key = e.networkKey ∧
        ∀ j : Fin p.networks.entries.length, p.networks.entries[j].key = e.networkKey → j = i) := by
  have hiff := isValid_iff_wellFormed p
  refine ⟨hiff, ?_, fun hvalid => ?_⟩
  · rw [← hiff]
    constructor
    · intro hfalse htrue
      rw [hfalse] at htrue
      cases htrue
    · exact (isValid_defined p).eq_false
  · have h := hiff.mp hvalid
    exact ⟨h.findNetwork_own, fun e he => h.findNetwork_endpoint he⟩

end Jaglink
