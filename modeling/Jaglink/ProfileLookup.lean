/-
  The three lookups of an accepted profile.

  1. **Program** — `find_network`, `find_diagnostic_endpoint` and `find_factory_dtc`, each a loop
     that returns the first entry with the key it is asked for, behind a test of the query.

  2. **Specification (`FindsMatch`)** — after `jaguarVehicleProfileIsValid` has said yes, they read
     no NULL pointer and return a record exactly when one matches the query
     (`profileLookups_sound`). Each is the first match on a key of its table:

       * networks by their key text;
       * endpoints by their module;
       * DTCs by module and code together.

  3. **What the validator does not see to** — it makes the network keys pairwise distinct, so every
     network is found under its own key (`findNetwork_own`).  It does not do so for the other two
     tables, and it asks of an endpoint's network only that it exists, not what kind it is.  What an
     accepted profile has to satisfy beyond the validator is stated exactly:
     `diagnosticEndpoints_reachable_iff`, `factoryDtcs_reachable_iff`, `endpointNetworks_can_iff`.

  4. **The crux** is `forall_lookup_self_iff` of the library: all records of a table can be reached
     exactly if no two share a key.
-/
import Jaglink.ProfileValid

namespace Jaglink

open CLib FirstMatch

/-! ## The lookups as first matches -/

/-- What identifies a factory DTC. -/
def dtcKey (definition : JaguarFactoryDtcDefinition) : CEnum × Option CString :=
  (definition.module, definition.code)

/-- On a module there is, the search is the first match. -/
theorem findDiagnosticEndpoint_eq_lookup {p : JaguarVehicleProfile}
    (hp : p.diagnosticEndpoints.Readable) {module : CEnum} (hmodule : ModuleInRange module) :
    jaguarProfileFindDiagnosticEndpoint (some p) module =
      .ok ((lookup (·.module) p.diagnosticEndpoints.entries module).map Fin.val) := by
  have htest : ∀ e ∈ p.diagnosticEndpoints.entries,
      (return e.module == module : C Bool) = .ok (decide (e.module = module)) := fun _ _ => rfl
  rw [jaguarProfileFindDiagnosticEndpoint, validModule_iff.mpr hmodule]
  exact firstIndex_get_eq_lookup hp htest

/-- With every stored code present no comparison reads a NULL code; the code is compared only
    after the module, which makes no difference to what is found. -/
theorem findFactoryDtc_eq_lookup {p : JaguarVehicleProfile} (hp : p.factoryDtcs.Readable)
    (hcodes : ∀ d ∈ p.factoryDtcs.entries, DtcCode d.code) {module : CEnum}
    (hmodule : ModuleInRange module) {code : Option CString} (hcode : DtcCode code) :
    jaguarProfileFindFactoryDtc (some p) module code =
      .ok ((lookup dtcKey p.factoryDtcs.entries (module, code)).map Fin.val) := by
  have hvalid : validDtcCode code = .ok true := validDtcCode_eq_ok_true.mpr hcode
  obtain ⟨k, rfl, -⟩ := hcode
  have htest : ∀ d ∈ p.factoryDtcs.entries,
      (pure (d.module == module) <&&> strcmpEq d.code (some k)) =
        .ok (decide (dtcKey d = (module, some k))) := by
    intro d hd
    obtain ⟨t, ht, -⟩ := hcodes d hd
    rw [dtcKey, ht, strcmpEq_some]
    by_cases hm : d.module = module
    · rw [hm, beq_self_eq_true]
      simp [andM, ToBool.toBool, pure, Except.pure]
    · rw [beq_false_of_ne hm]
      simp [hm, andM, ToBool.toBool, pure, Except.pure]
  rw [jaguarProfileFindFactoryDtc, validModule_iff.mpr hmodule, hvalid]
  exact firstIndex_get_eq_lookup hp htest

/-! ## Queries that are not well formed find nothing -/

/-- NULL and the empty key find no network. -/
theorem findNetwork_malformed (p : JaguarVehicleProfile) {key : Option CString}
    (h : ¬NonEmptyText key) : jaguarProfileFindNetwork (some p) key = .ok none := by
  obtain ⟨b, hb⟩ := nullOrEmpty_defined key
  cases b with
  | false => exact absurd (nullOrEmpty_eq_ok_false.mp hb) h
  | true =>
    rw [jaguarProfileFindNetwork, hb]
    rfl

/-- A number that is no module finds no endpoint. -/
theorem findDiagnosticEndpoint_malformed (p : JaguarVehicleProfile) {module : CEnum}
    (h : ¬ModuleInRange module) :
    jaguarProfileFindDiagnosticEndpoint (some p) module = .ok none := by
  rw [← validModule_iff, Bool.not_eq_true] at h
  rw [jaguarProfileFindDiagnosticEndpoint, h]
  rfl

/-- A number that is no module, or a text that is no code, finds no trouble code. -/
theorem findFactoryDtc_malformed (p : JaguarVehicleProfile) {module : CEnum}
    {code : Option CString} (h : ¬(ModuleInRange module ∧ DtcCode code)) :
    jaguarProfileFindFactoryDtc (some p) module code = .ok none := by
  rw [← validModule_iff, ← validDtcCode_eq_ok_true] at h
  obtain ⟨b, hb⟩ := validDtcCode_defined code
  rw [jaguarProfileFindFactoryDtc, hb]
  cases hm : validModule module with
  | false => rfl
  | true =>
    cases b with
    | false => rfl
    | true => exact absurd ⟨hm, hb⟩ h

/-! ## What a lookup returns -/

section Finds

variable {ρ κ : Type} {result : C (Option Nat)} {table : List ρ} {queryOk : Prop} {hits : ρ → Prop}

/-- A search that yields a value: a row number exactly when the query is well formed and some row
    matches it, and then the number of a matching row. -/
def FindsMatch (result : C (Option Nat)) (table : List ρ) (queryOk : Prop) (hits : ρ → Prop) :
    Prop :=
  ∃ found, result = .ok found ∧ (found ≠ none ↔ queryOk ∧ ∃ row ∈ table, hits row) ∧
    ∀ i, found = some i → ∃ row, table[i]? = some row ∧ hits row

/-- A query that is not well formed may find nothing. -/
theorem findsMatch_none (hquery : ¬queryOk) (h : result = .ok none) :
    FindsMatch result table queryOk hits :=
  ⟨none, h, by simp [hquery], fun _ hi => by cases hi⟩

/-- A first match is a match, and misses none. -/
theorem findsMatch_lookup [DecidableEq κ] {key : ρ → κ} {code : κ} (hquery : queryOk)
    (h : result = .ok ((lookup key table code).map Fin.val)) (hhits : ∀ row, hits row ↔ key row = code) :
    FindsMatch result table queryOk hits := by
  refine ⟨_, h, ?_, fun i hi => ?_⟩
  · rw [Ne, Option.map_eq_none_iff, ← Ne, lookup_ne_none_iff]
    simp [hquery, hhits]
  · obtain ⟨k, hk, rfl⟩ := Option.map_eq_some_iff.mp hi
    exact ⟨table[k], List.getElem?_eq_getElem k.isLt, (hhits _).mpr (lookup_eq_some_iff.mp hk).1⟩

end Finds

namespace JaguarVehicleProfile.WellFormed

variable {p : JaguarVehicleProfile} (h : p.WellFormed)
include h

/-- Every query for a network has the right answer. -/
theorem findNetwork_finds (key : Option CString) :
    FindsMatch (jaguarProfileFindNetwork (some p) key) p.networks.entries
      (NonEmptyText key) (fun n => n.key = key) := by
  by_cases hkey : NonEmptyText key
  · exact findsMatch_lookup hkey (findNetwork_eq_lookup h.keysPresent hkey) fun _ => Iff.rfl
  · exact findsMatch_none hkey (findNetwork_malformed p hkey)

/-- Every query for an endpoint has the right answer. -/
theorem findDiagnosticEndpoint_finds (module : CEnum) :
    FindsMatch (jaguarProfileFindDiagnosticEndpoint (some p) module) p.diagnosticEndpoints.entries
      (ModuleInRange module) (fun e => e.module = module) := by
  by_cases hmodule : ModuleInRange module
  · exact findsMatch_lookup hmodule
      (findDiagnosticEndpoint_eq_lookup h.endpointsPresent hmodule) fun _ => Iff.rfl
  · exact findsMatch_none hmodule (findDiagnosticEndpoint_malformed p hmodule)

/-- On well-formed queries the search is the first match of module and code together. -/
theorem findFactoryDtc_eq_lookup {module : CEnum} (hmodule : ModuleInRange module)
    {code : Option CString} (hcode : DtcCode code) :
    jaguarProfileFindFactoryDtc (some p) module code =
      .ok ((lookup dtcKey p.factoryDtcs.entries (module, code)).map Fin.val) :=
  Jaglink.findFactoryDtc_eq_lookup h.dtcsPresent (fun d hd => (h.dtcs d hd).code) hmodule hcode

/-- Every query for a trouble code has the right answer. -/
theorem findFactoryDtc_finds (module : CEnum) (code : Option CString) :
    FindsMatch (jaguarProfileFindFactoryDtc (some p) module code) p.factoryDtcs.entries
      (ModuleInRange module ∧ DtcCode code) (fun d => d.module = module ∧ d.code = code) := by
  by_cases hquery : ModuleInRange module ∧ DtcCode code
  · refine findsMatch_lookup hquery (h.findFactoryDtc_eq_lookup hquery.1 hquery.2) fun d => ?_
    rw [dtcKey, Prod.mk.injEq]
  · exact findsMatch_none hquery (findFactoryDtc_malformed p hquery)

end JaguarVehicleProfile.WellFormed

/-- **Validator and lookups never read what is not there.**  The validator yields a value for
    every profile, whatever pointers in it are NULL.  In a profile it accepts each lookup yields a
    value for every query, NULL included: a record exactly when the query is well formed and some
    record matches it, and then a matching one. -/
theorem profileLookups_sound :
    (∀ profile : Option JaguarVehicleProfile, Defined (jaguarVehicleProfileIsValid profile)) ∧
    ∀ p : JaguarVehicleProfile, jaguarVehicleProfileIsValid (some p) = .ok true →
      (∀ key, FindsMatch (jaguarProfileFindNetwork (some p) key) p.networks.entries
        (NonEmptyText key) (fun n => n.key = key)) ∧
      (∀ module, FindsMatch (jaguarProfileFindDiagnosticEndpoint (some p) module)
        p.diagnosticEndpoints.entries (ModuleInRange module) (fun e => e.module = module)) ∧
      ∀ module code, FindsMatch (jaguarProfileFindFactoryDtc (some p) module code)
        p.factoryDtcs.entries (ModuleInRange module ∧ DtcCode code)
        (fun d => d.module = module ∧ d.code = code) := by
  constructor
  · rintro (_ | p)
    · exact Defined.ok false
    · exact isValid_defined p
  · intro p hvalid
    have h := (isValid_iff_wellFormed p).mp hvalid
    exact ⟨h.findNetwork_finds, h.findDiagnosticEndpoint_finds, h.findFactoryDtc_finds⟩

/-! ## Reachable records

The network loop of the validator compares every key with the earlier ones.  The endpoint loop and
the DTC loop look at one record at a time. -/

namespace JaguarVehicleProfile.WellFormed

variable {p : JaguarVehicleProfile} (h : p.WellFormed)
include h

/-- Asked for the module of an endpoint it has, the search answers with the first one of that
    module. -/
theorem findDiagnosticEndpoint_own (i : Fin p.diagnosticEndpoints.entries.length) :
    jaguarProfileFindDiagnosticEndpoint (some p) p.diagnosticEndpoints.entries[i].module =
      .ok ((lookup (·.module) p.diagnosticEndpoints.entries
        p.diagnosticEndpoints.entries[i].module).map Fin.val) :=
  findDiagnosticEndpoint_eq_lookup h.endpointsPresent (h.endpoints _ (List.getElem_mem i.isLt)).module

/-- Asked for a code it has, the search answers with the first record of module and code. -/
theorem findFactoryDtc_own (i : Fin p.factoryDtcs.entries.length) :
    jaguarProfileFindFactoryDtc (some p) p.factoryDtcs.entries[i].module
        p.factoryDtcs.entries[i].code =
      .ok ((lookup dtcKey p.factoryDtcs.entries (dtcKey p.factoryDtcs.entries[i])).map Fin.val) := by
  have hd := h.dtcs _ (List.getElem_mem i.isLt)
  exact h.findFactoryDtc_eq_lookup hd.module hd.code

end JaguarVehicleProfile.WellFormed

/-- A row number found is that of row `i`. -/
theorem ok_map_val_eq_some {n : Nat} {found : Option (Fin n)} {i : Fin n} :
    (.ok (found.map Fin.val) : C (Option Nat)) = .ok (some i.val) ↔ found = some i := by
  rw [Except.ok.injEq, Option.map_eq_some_iff]
  simp [Fin.val_inj]

/-- The record that a returned row number points at. -/
def pointee {ρ : Type} (table : List ρ) (result : C (Option Nat)) : C (Option ρ) := do
  return (← result).bind fun i => table[i]?

/-- The entry behind a found index. -/
theorem pointee_ok_map_val {ρ : Type} (table : List ρ) (found : Option (Fin table.length)) :
    pointee table (.ok (found.map Fin.val)) = .ok (found.map table.get) := by
  cases found with
  | none => rfl
  | some i => simp [pointee, pure, Except.pure]

/-- Two accepted profiles that list the same endpoints in different orders, no two of one module,
    answer every query with the same record. -/
theorem findDiagnosticEndpoint_perm {p p' : JaguarVehicleProfile} (h : p.WellFormed)
    (h' : p'.WellFormed) (hdistinct : UniqueKeys (·.module) p.diagnosticEndpoints.entries)
    (hperm : p.diagnosticEndpoints.entries.Perm p'.diagnosticEndpoints.entries) (module : CEnum) :
    pointee p.diagnosticEndpoints.entries
        (jaguarProfileFindDiagnosticEndpoint (some p) module) =
      pointee p'.diagnosticEndpoints.entries
        (jaguarProfileFindDiagnosticEndpoint (some p') module) := by
  by_cases hmodule : ModuleInRange module
  · rw [findDiagnosticEndpoint_eq_lookup h.endpointsPresent hmodule,
      findDiagnosticEndpoint_eq_lookup h'.endpointsPresent hmodule, pointee_ok_map_val,
      pointee_ok_map_val, lookup_get_perm hdistinct hperm module]
  · rw [findDiagnosticEndpoint_malformed p hmodule, findDiagnosticEndpoint_malformed p' hmodule]
    rfl

/-- **Endpoints.**  In an accepted profile every endpoint is found under its own module exactly
    when no two endpoints name the same module; what is found then does not depend on the order
    of the table. -/
theorem diagnosticEndpoints_reachable_iff {p : JaguarVehicleProfile}
    (h : jaguarVehicleProfileIsValid (some p) = .ok true) :
    ((∀ i : Fin p.diagnosticEndpoints.entries.length,
      jaguarProfileFindDiagnosticEndpoint (some p) p.diagnosticEndpoints.entries[i].module =
        .ok (some i)) ↔
    (p.diagnosticEndpoints.entries.map (·.module)).Nodup) ∧
    ((p.diagnosticEndpoints.entries.map (·.module)).Nodup →
      ∀ p' : JaguarVehicleProfile, jaguarVehicleProfileIsValid (some p') = .ok true →
        p.diagnosticEndpoints.entries.Perm p'.diagnosticEndpoints.entries → ∀ module,
        pointee p.diagnosticEndpoints.entries
            (jaguarProfileFindDiagnosticEndpoint (some p) module) =
          pointee p'.diagnosticEndpoints.entries
            (jaguarProfileFindDiagnosticEndpoint (some p') module)) := by
  have hwf := (isValid_iff_wellFormed p).mp h
  constructor
  · rw [← UniqueKeys, ← forall_lookup_self_iff]
    exact forall_congr' fun i => by rw [hwf.findDiagnosticEndpoint_own i, ok_map_val_eq_some]
  · intro hdistinct p' h' hperm
    exact findDiagnosticEndpoint_perm hwf ((isValid_iff_wellFormed p').mp h') hdistinct hperm

/-- The built-in profile is accepted. -/
theorem x400Profile_isValid : jaguarVehicleProfileIsValid (some x400Profile) = .ok true := by
  decide +kernel

/-- The built-in profile: the engine control module has the second of five endpoints. -/
theorem diagnosticEndpoints_reachable_x400 :
    jaguarProfileFindDiagnosticEndpoint (some x400Profile) JaguarModuleKind.ecm = .ok (some 1) := by
  have hreachable := (diagnosticEndpoints_reachable_iff x400Profile_isValid).1.mpr (by decide +kernel)
  exact hreachable ⟨1, by decide⟩

/-- An X400 profile with a second route to the engine control module. -/
def secondRouteProfile : JaguarVehicleProfile := { x400Profile with
  diagnosticEndpoints := CArray.ofList [
    ⟨text "x400-diag-ecm", text "Engine control module", JaguarModuleKind.ecm,
      text "x400-powertrain-can", 0x7e8, 0x7ec, JaguarDefinitionStatus.sourceCorroborated,
      x400DiagnosticProvenance⟩,
    ⟨text "x400-diag-ecm-alternate", text "Engine control module", JaguarModuleKind.ecm,
      text "x400-powertrain-can", 0x7e0, 0x7e4, JaguarDefinitionStatus.candidate,
      x400DiagnosticProvenance⟩] }

/-- The second route is accepted and never found. -/
theorem secondRoute_hidden :
    jaguarVehicleProfileIsValid (some secondRouteProfile) = .ok true ∧
    ¬∀ i : Fin secondRouteProfile.diagnosticEndpoints.entries.length,
      jaguarProfileFindDiagnosticEndpoint (some secondRouteProfile)
        secondRouteProfile.diagnosticEndpoints.entries[i].module = .ok (some i) := by
  decide +kernel

/-- **Factory DTCs.**  In an accepted profile every record is found under its own module and code
    exactly when no two records carry the same module and code. -/
theorem factoryDtcs_reachable_iff {p : JaguarVehicleProfile}
    (h : jaguarVehicleProfileIsValid (some p) = .ok true) :
    (∀ i : Fin p.factoryDtcs.entries.length,
      jaguarProfileFindFactoryDtc (some p) p.factoryDtcs.entries[i].module
        p.factoryDtcs.entries[i].code = .ok (some i)) ↔
    (p.factoryDtcs.entries.map fun d => (d.module, d.code)).Nodup := by
  have hwf := (isValid_iff_wellFormed p).mp h
  have hkeys : (p.factoryDtcs.entries.map fun d => (d.module, d.code)).Nodup ↔
      UniqueKeys dtcKey p.factoryDtcs.entries := Iff.rfl
  rw [hkeys, ← forall_lookup_self_iff]
  exact forall_congr' fun i => by rw [hwf.findFactoryDtc_own i, ok_map_val_eq_some]

/-- The built-in catalogue: U1900 occurs twice, once for each of two modules. -/
theorem factoryDtcs_reachable_x400 :
    jaguarProfileFindFactoryDtc (some x400Profile) JaguarModuleKind.absDsc (text "U1900") =
      .ok (some 15) ∧
    jaguarProfileFindFactoryDtc (some x400Profile) JaguarModuleKind.instrumentCluster
      (text "U1900") = .ok (some 16) := by
  have hreachable := (factoryDtcs_reachable_iff x400Profile_isValid).mpr (by decide +kernel)
  exact ⟨hreachable ⟨15, by decide⟩, hreachable ⟨16, by decide⟩⟩

/-- An X400 profile in which U1900 is recorded twice for one module. -/
def repeatedDtcProfile : JaguarVehicleProfile := { x400Profile with
  factoryDtcs := CArray.ofList [
    x400FactoryDtc "U1900" "x400.abs.can-network" JaguarModuleKind.absDsc
      "network" false x400DtcProvenance,
    x400FactoryDtc "U1900" "x400.dsc.can-network" JaguarModuleKind.absDsc
      "stability-control" false x400DtcProvenance] }

/-- The second record is accepted and hidden behind the first. -/
theorem repeatedDtc_hidden :
    jaguarVehicleProfileIsValid (some repeatedDtcProfile) = .ok true ∧
    ¬∀ i : Fin repeatedDtcProfile.factoryDtcs.entries.length,
      jaguarProfileFindFactoryDtc (some repeatedDtcProfile)
        repeatedDtcProfile.factoryDtcs.entries[i].module
        repeatedDtcProfile.factoryDtcs.entries[i].code = .ok (some i) := by
  decide +kernel

/-! ## The networks of the endpoints -/

/-- **Endpoint networks.**  In an accepted profile the network found for every endpoint is a CAN
    network exactly when no endpoint names the key of a network of another kind. -/
theorem endpointNetworks_can_iff {p : JaguarVehicleProfile}
    (h : jaguarVehicleProfileIsValid (some p) = .ok true) :
    (∀ e ∈ p.diagnosticEndpoints.entries, ∃ i : Fin p.networks.entries.length,
      jaguarProfileFindNetwork (some p) e.networkKey = .ok (some i) ∧
      (p.networks.entries.get i).kind = JaguarNetworkKind.can) ↔
    ∀ e ∈ p.diagnosticEndpoints.entries, ∀ n ∈ p.networks.entries, n.key = e.networkKey →
      n.kind = JaguarNetworkKind.can := by
  have hwf := (isValid_iff_wellFormed p).mp h
  refine forall_congr' fun e => forall_congr' fun he => ?_
  obtain ⟨i, hi, hkey, honly⟩ := hwf.findNetwork_endpoint he
  constructor
  · rintro ⟨j, hj, hcan⟩ n hn hnkey
    -- the network with this key is the one the search found
    obtain rfl : i = j := by
      rw [hi, Except.ok.injEq, Option.some.injEq, Fin.val_inj] at hj
      exact hj
    obtain ⟨k, hk, rfl⟩ := List.getElem_of_mem hn
    obtain rfl : ⟨k, hk⟩ = i := honly ⟨k, hk⟩ hnkey
    exact hcan
  · intro hcan
    exact ⟨i, hi, hcan _ (List.getElem_mem i.isLt) hkey⟩

/-- The built-in profile: the network of the first endpoint is a CAN network. -/
theorem endpointNetworks_can_x400 :
    ∃ i : Fin x400Profile.networks.entries.length,
      jaguarProfileFindNetwork (some x400Profile) (text "x400-powertrain-can") = .ok (some i) ∧
      (x400Profile.networks.entries.get i).kind = JaguarNetworkKind.can := by
  have hcan := (endpointNetworks_can_iff x400Profile_isValid).mpr (by decide +kernel)
  exact hcan _ List.mem_cons_self

/-- An X400 profile with an endpoint on the SCP body network. -/
def scpEndpointProfile : JaguarVehicleProfile := { x400Profile with
  diagnosticEndpoints := CArray.ofList [
    ⟨text "x400-diag-climate", text "Air conditioning control module", JaguarModuleKind.climate,
      text "x400-body-scp", 0x7c4, 0x7c5, JaguarDefinitionStatus.sourceCorroborated,
      x400DiagnosticProvenance⟩] }

/-- A CAN identifier pair is accepted on a network that is not CAN. -/
theorem scpEndpoint_accepted :
    jaguarVehicleProfileIsValid (some scpEndpointProfile) = .ok true ∧
    ¬∀ e ∈ scpEndpointProfile.diagnosticEndpoints.entries,
      ∃ i : Fin scpEndpointProfile.networks.entries.length,
        jaguarProfileFindNetwork (some scpEndpointProfile) e.networkKey = .ok (some i) ∧
        (scpEndpointProfile.networks.entries.get i).kind = JaguarNetworkKind.can := by
  decide +kernel

end Jaglink
