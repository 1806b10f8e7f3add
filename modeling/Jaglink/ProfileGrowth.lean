/-
  Adding to a catalogue.

  1. **Program** — the tables of a profile grow: a network, a route or a fault code is added at the
     end (`extend`).  The validator and the searches are those of `jaguar.c`.

  2. **Accepting (`extend_isValid_iff`)** — an accepted profile need not be checked again from the
     start.  The grown one is accepted exactly if every addition passes its own check against the
     old one (`Admits`): a network under a key that is not found yet, a route to a network that is
     found or added with it, a code that is well formed.

  3. **Searching (`extend_keeps_lookups`)** — nor does growing disturb what was there.  The searches
     take the first match, so a query that found a record goes on finding it, and a query that found
     none finds an added record or none (`Keeps`).

  4. **The crux (`keeps_lookup`)** — all three searches are first matches on a key, and entries
     added behind a first match do not come before it.
-/
import Jaglink.ProfileLookup

namespace Jaglink

open CLib FirstMatch

namespace JaguarVehicleProfile

/-- The profile with more records at the end of its tables. -/
def extend (p : JaguarVehicleProfile) (networks : List JaguarNetworkDefinition)
    (endpoints : List JaguarDiagnosticEndpointDefinition) (dtcs : List JaguarFactoryDtcDefinition) :
    JaguarVehicleProfile :=
  { p with
    networks := p.networks.extend networks
    diagnosticEndpoints := p.diagnosticEndpoints.extend endpoints
    factoryDtcs := p.factoryDtcs.extend dtcs }

variable {p : JaguarVehicleProfile} {networks : List JaguarNetworkDefinition}
  {endpoints : List JaguarDiagnosticEndpointDefinition} {dtcs : List JaguarFactoryDtcDefinition}

/-- What the additions are checked for, in terms of the code's own checks. -/
structure Admits (p : JaguarVehicleProfile) (networks : List JaguarNetworkDefinition)
    (endpoints : List JaguarDiagnosticEndpointDefinition) (dtcs : List JaguarFactoryDtcDefinition) :
    Prop where
  validNetworks : ∀ n ∈ networks, jaguarNetworkDefinitionIsValid (some n) = .ok true
  newKeys : (networks.map (·.key)).Nodup ∧
    ∀ n ∈ networks, jaguarProfileFindNetwork (some p) n.key = .ok none
  validEndpoints : ∀ e ∈ endpoints, jaguarDiagnosticEndpointDefinitionIsValid (some e) = .ok true
  routed : ∀ e ∈ endpoints, (∃ i, jaguarProfileFindNetwork (some p) e.networkKey = .ok (some i)) ∨
    ∃ n ∈ networks, n.key = e.networkKey
  validDtcs : ∀ d ∈ dtcs, jaguarFactoryDtcDefinitionIsValid (some d) = .ok true

/-! ## The check of a grown profile -/

/-- A key is found exactly if it is the key of a network. -/
theorem WellFormed.findNetwork_isSome (h : p.WellFormed) {key : Option CString}
    (hkey : NonEmptyText key) : (∃ i, jaguarProfileFindNetwork (some p) key = .ok (some i)) ↔
      ∃ n ∈ p.networks.entries, n.key = key := by
  obtain ⟨found, hfound, hsome, -⟩ := h.findNetwork_finds key
  rw [hfound]
  constructor
  · rintro ⟨i, hi⟩
    obtain rfl := Except.ok.inj hi
    exact (hsome.mp (by simp)).2
  · intro hrow
    obtain ⟨i, rfl⟩ := Option.ne_none_iff_exists'.mp (hsome.mpr ⟨hkey, hrow⟩)
    exact ⟨i, rfl⟩

/-- A key is not found exactly if no network has it. -/
theorem WellFormed.findNetwork_none (h : p.WellFormed) {key : Option CString}
    (hkey : NonEmptyText key) : jaguarProfileFindNetwork (some p) key = .ok none ↔
      ∀ n ∈ p.networks.entries, n.key ≠ key := by
  obtain ⟨found, hfound, hsome, -⟩ := h.findNetwork_finds key
  have hnone : found = none ↔ ¬(NonEmptyText key ∧ ∃ n ∈ p.networks.entries, n.key = key) := by
    rw [← hsome, not_not]
  rw [hfound, Except.ok.injEq, hnone]
  simp [hkey]

/-- The keys of a grown table are distinct exactly if the new ones are, from each other and from the
    old ones. -/
theorem WellFormed.extend_keys_iff (h : p.WellFormed) :
    ((p.networks.entries ++ networks).map (·.key)).Nodup ↔ (networks.map (·.key)).Nodup ∧
      ∀ n ∈ networks, ∀ old ∈ p.networks.entries, old.key ≠ n.key := by
  rw [List.map_append, List.nodup_append]
  constructor
  · rintro ⟨-, hnew, hother⟩
    exact ⟨hnew, fun n hn old hold =>
      hother _ (List.mem_map_of_mem hold) _ (List.mem_map_of_mem hn)⟩
  · rintro ⟨hnew, hother⟩
    refine ⟨h.distinctKeys, hnew, fun key hkey key' hkey' => ?_⟩
    obtain ⟨old, hold, rfl⟩ := List.mem_map.mp hkey
    obtain ⟨n, hn, rfl⟩ := List.mem_map.mp hkey'
    exact hother n hn old hold

/-- Additions in order make a grown profile in order. -/
theorem WellFormed.extend (h : p.WellFormed) (hnetworks : ∀ n ∈ networks, n.WellFormed)
    (hkeys : ((p.networks.entries ++ networks).map (·.key)).Nodup)
    (hendpoints : ∀ e ∈ endpoints, e.WellFormed)
    (hrouted : ∀ e ∈ endpoints, ∃ n ∈ p.networks.entries ++ networks, n.key = e.networkKey)
    (hdtcs : ∀ d ∈ dtcs, d.WellFormed) : (p.extend networks endpoints dtcs).WellFormed := by
  constructor
  case platformCode => exact h.platformCode
  case platformFamily => exact h.platformFamily
  case displayName => exact h.displayName
  case years => exact h.years
  case someNetwork =>
    have hreadable : p.networks.Readable := fun _ => h.someNetwork.1
    have hcount := h.someNetwork.2
    rw [← hreadable.length_entries] at hcount
    refine ⟨nofun, ?_⟩
    show 0 < (p.networks.entries ++ networks).length
    rw [List.length_append]
    omega
  case endpointsPresent => exact CArray.readable_extend _ _
  case dtcsPresent => exact CArray.readable_extend _ _
  case networks =>
    intro n hn
    exact (List.mem_append.mp hn).elim (h.networks n) (hnetworks n)
  case distinctKeys => exact hkeys
  case endpoints =>
    intro e he
    exact (List.mem_append.mp he).elim (h.endpoints e) (hendpoints e)
  case resolved =>
    intro e he
    rcases List.mem_append.mp he with hold | hadded
    · obtain ⟨n, hn, hkey⟩ := h.resolved e hold
      exact ⟨n, List.mem_append_left _ hn, hkey⟩
    · exact hrouted e hadded
  case dtcs =>
    intro d hd
    exact (List.mem_append.mp hd).elim (h.dtcs d) (hdtcs d)

/-- What is well formed about a grown profile, part by part. -/
theorem WellFormed.extend_iff (h : p.WellFormed) : (p.extend networks endpoints dtcs).WellFormed ↔
    (∀ n ∈ networks, n.WellFormed) ∧
    ((networks.map (·.key)).Nodup ∧
      ∀ n ∈ networks, ∀ old ∈ p.networks.entries, old.key ≠ n.key) ∧
    (∀ e ∈ endpoints, e.WellFormed) ∧
    (∀ e ∈ endpoints, (∃ n ∈ p.networks.entries, n.key = e.networkKey) ∨
      ∃ n ∈ networks, n.key = e.networkKey) ∧
    ∀ d ∈ dtcs, d.WellFormed := by
  have hrouted : ∀ key : Option CString, (∃ n ∈ p.networks.entries ++ networks, n.key = key) ↔
      (∃ n ∈ p.networks.entries, n.key = key) ∨ ∃ n ∈ networks, n.key = key := by
    intro key
    simp only [List.mem_append, or_and_right, exists_or]
  simp only [← h.extend_keys_iff, ← hrouted]
  constructor
  · intro hgrown
    exact ⟨fun n hn => hgrown.networks n (List.mem_append_right _ hn), hgrown.distinctKeys,
      fun e he => hgrown.endpoints e (List.mem_append_right _ he),
      fun e he => hgrown.resolved e (List.mem_append_right _ he),
      fun d hd => hgrown.dtcs d (List.mem_append_right _ hd)⟩
  · rintro ⟨hnetworks, hkeys, hendpoints, hresolved, hdtcs⟩
    exact h.extend hnetworks hkeys hendpoints hresolved hdtcs

/-- **A grown profile is accepted exactly if its additions are**: each passes its own check, the
    keys of the new networks are new, and every new route leads to an old or a new network. -/
theorem extend_isValid_iff (h : jaguarVehicleProfileIsValid (some p) = .ok true) :
    jaguarVehicleProfileIsValid (some (p.extend networks endpoints dtcs)) = .ok true ↔
      p.Admits networks endpoints dtcs := by
  have hp := (isValid_iff_wellFormed p).mp h
  rw [isValid_iff_wellFormed, hp.extend_iff]
  constructor
  · rintro ⟨hnetworks, ⟨hnew, hother⟩, hendpoints, hrouted, hdtcs⟩
    constructor
    case validNetworks => exact fun n hn => networkDefinitionIsValid_iff.mpr (hnetworks n hn)
    case newKeys =>
      exact ⟨hnew, fun n hn => (hp.findNetwork_none (hnetworks n hn).key).mpr (hother n hn)⟩
    case validEndpoints =>
      exact fun e he => diagnosticEndpointDefinitionIsValid_iff.mpr (hendpoints e he)
    case routed =>
      intro e he
      exact (hrouted e he).imp_left (hp.findNetwork_isSome (hendpoints e he).networkKey).mpr
    case validDtcs => exact fun d hd => factoryDtcDefinitionIsValid_iff.mpr (hdtcs d hd)
  · intro hadmits
    have hnetworks := fun n hn => networkDefinitionIsValid_iff.mp (hadmits.validNetworks n hn)
    have hendpoints := fun e he =>
      diagnosticEndpointDefinitionIsValid_iff.mp (hadmits.validEndpoints e he)
    refine ⟨hnetworks, ⟨hadmits.newKeys.1, fun n hn => ?_⟩, hendpoints, fun e he => ?_,
      fun d hd => factoryDtcDefinitionIsValid_iff.mp (hadmits.validDtcs d hd)⟩
    · exact (hp.findNetwork_none (hnetworks n hn).key).mp (hadmits.newKeys.2 n hn)
    · exact (hadmits.routed e he).imp_left (hp.findNetwork_isSome (hendpoints e he).networkKey).mp

/-! ## Searches in a grown profile -/

/-- A search that goes on finding what it found among the first `count` records, and otherwise finds
    one behind them or none. -/
def Keeps (count : Nat) (before after : C (Option Nat)) : Prop :=
  ∃ found found', before = .ok found ∧ after = .ok found' ∧
    (∀ i, found = some i → found' = some i) ∧ (found = none → ∀ i, found' = some i → count ≤ i)

/-- Keeping what was found asks nothing where nothing was found. -/
theorem keeps_none (count : Nat) : Keeps count (.ok none) (.ok none) :=
  ⟨none, none, rfl, rfl, nofun, nofun⟩

/-- A first match stays the first when entries are added behind. -/
theorem keeps_lookup {ρ κ : Type} [DecidableEq κ] {key : ρ → κ} {table added : List ρ} {code : κ}
    {before after : C (Option Nat)} (hbefore : before = .ok ((lookup key table code).map Fin.val))
    (hafter : after = .ok ((lookup key (table ++ added) code).map Fin.val)) :
    Keeps table.length before after := by
  rw [lookup_append] at hafter
  refine ⟨_, _, hbefore, hafter, fun i hi => by rw [hi]; rfl, fun hnone i hi => ?_⟩
  rw [hnone, Option.none_or] at hi
  obtain ⟨j, -, rfl⟩ := Option.map_eq_some_iff.mp hi
  exact Nat.le_add_left _ _

/-- **Growing a catalogue disturbs no search.**  Where an accepted profile is extended to an
    accepted one, every query that found a record finds the same one, and every other query finds an
    added record or none; no search faults, whatever the query. -/
theorem extend_keeps_lookups (h : jaguarVehicleProfileIsValid (some p) = .ok true)
    (hgrown : jaguarVehicleProfileIsValid (some (p.extend networks endpoints dtcs)) = .ok true) :
    (∀ key, Keeps p.networks.count (jaguarProfileFindNetwork (some p) key)
      (jaguarProfileFindNetwork (some (p.extend networks endpoints dtcs)) key)) ∧
    (∀ module, Keeps p.diagnosticEndpoints.count
      (jaguarProfileFindDiagnosticEndpoint (some p) module)
      (jaguarProfileFindDiagnosticEndpoint (some (p.extend networks endpoints dtcs)) module)) ∧
    ∀ module code, Keeps p.factoryDtcs.count (jaguarProfileFindFactoryDtc (some p) module code)
      (jaguarProfileFindFactoryDtc (some (p.extend networks endpoints dtcs)) module code) := by
  have hp := (isValid_iff_wellFormed p).mp h
  have hq := (isValid_iff_wellFormed _).mp hgrown
  have hreadable : p.networks.Readable := fun _ => hp.someNetwork.1
  refine ⟨fun key => ?_, fun module => ?_, fun module code => ?_⟩
  · by_cases hkey : NonEmptyText key
    · rw [← hreadable.length_entries]
      exact keeps_lookup (findNetwork_eq_lookup hp.keysPresent hkey)
        (findNetwork_eq_lookup hq.keysPresent hkey)
    · rw [findNetwork_malformed p hkey, findNetwork_malformed _ hkey]
      exact keeps_none _
  · by_cases hmodule : ModuleInRange module
    · rw [← hp.endpointsPresent.length_entries]
      exact keeps_lookup (findDiagnosticEndpoint_eq_lookup hp.endpointsPresent hmodule)
        (findDiagnosticEndpoint_eq_lookup hq.endpointsPresent hmodule)
    · rw [findDiagnosticEndpoint_malformed p hmodule, findDiagnosticEndpoint_malformed _ hmodule]
      exact keeps_none _
  · by_cases hquery : ModuleInRange module ∧ DtcCode code
    · rw [← hp.dtcsPresent.length_entries]
      exact keeps_lookup (hp.findFactoryDtc_eq_lookup hquery.1 hquery.2)
        (hq.findFactoryDtc_eq_lookup hquery.1 hquery.2)
    · rw [findFactoryDtc_malformed p hquery, findFactoryDtc_malformed _ hquery]
      exact keeps_none _

/-! ## The built-in profile with one more route -/

/-- A second route of the engine control module, over a network of its own. -/
def comfortNetwork : JaguarNetworkDefinition where
  key := text "x400-comfort-can"
  name := text "Comfort CAN"
  kind := JaguarNetworkKind.can
  role := JaguarNetworkRole.body
  nominalBaud := 125000
  status := JaguarDefinitionStatus.candidate
  provenance := text "workshop note"

/-- A route on the added network. -/
def comfortRoute : JaguarDiagnosticEndpointDefinition where
  key := text "x400-diag-ecm-comfort"
  name := text "Engine control module, comfort network"
  module := JaguarModuleKind.ecm
  networkKey := text "x400-comfort-can"
  requestMessageId := 0x7a0
  responseMessageId := 0x7a8
  status := JaguarDefinitionStatus.candidate
  provenance := text "workshop note"

/-- The built-in profile with that network and that route is accepted exactly if it admits them. -/
theorem extend_isValid_comfort :
    jaguarVehicleProfileIsValid (some (x400Profile.extend [comfortNetwork] [comfortRoute] [])) =
        .ok true ↔ x400Profile.Admits [comfortNetwork] [comfortRoute] [] :=
  extend_isValid_iff x400Profile_isValid

/-- The engine control module is still found on its old route. -/
theorem extend_keeps_comfort :
    Keeps x400Profile.diagnosticEndpoints.count
      (jaguarProfileFindDiagnosticEndpoint (some x400Profile) JaguarModuleKind.ecm)
      (jaguarProfileFindDiagnosticEndpoint
        (some (x400Profile.extend [comfortNetwork] [comfortRoute] [])) JaguarModuleKind.ecm) :=
  (extend_keeps_lookups x400Profile_isValid (by decide)).2.1 JaguarModuleKind.ecm

end JaguarVehicleProfile

end Jaglink
