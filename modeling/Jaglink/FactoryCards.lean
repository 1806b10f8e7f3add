/-
  The cards that show a vehicle profile (`append_modules` and `append_factory_catalogue` of
  `main.c`).

  1. **Program** — both print every record of the profile into a buffer of 128 bytes, `%s` by `%s`;
     a NULL there would be a fault, and what does not fit would be cut off.

  2. **Specification** — one row for each record, in order, and the whole of it: `shownNetworkRow`,
     `shownRouteRow` and `shownDtcRow` are the rows with no buffer in between, of what a row is made
     of (`ShownNetwork`, `ShownRoute`, `ShownDtc`).

  3. **No row is cut** — the longest network and route rows fit (`networkText_fits`,
     `routeText_fits`), so on every accepted profile the cards are the uncut ones
     (`topologyRows_shown`, `factoryRows_shown`).  A trouble code's row has a text of the profile in
     it, its category; it is uncut if that has at most 88 bytes (`Fits`).

  4. **The crux** — a row is a format string of fields that are prefix free or end at a separator,
     so it can be taken apart again (`networkText_inj`, `routeText_inj`, `catalogueText_inj`).

  5. **Results** — two accepted profiles show the same two cards exactly if their networks and their
     routes agree in what a row prints (`appendModules_lossless`), and the same catalogue exactly if
     their codes do (`appendFactoryCatalogue_lossless`).
-/
import Jaglink.ProfileLookup
import Jaglink.LinuxShell
import Jaglink.Lib.PrefixCode

namespace Jaglink

open CLib PrefixCode

variable {Reading : Type}

/-! ## Names -/

/-- `jaglink_jaguar_definition_status_name`. -/
def jaguarDefinitionStatusName (status : CEnum) : String :=
  if status = JaguarDefinitionStatus.candidate then "candidate"
  else if status = JaguarDefinitionStatus.sourceCorroborated then "source-corroborated"
  else if status = JaguarDefinitionStatus.vehicleVerified then "vehicle-verified"
  else "unknown"

/-- `jaglink_jaguar_network_kind_name`. -/
def jaguarNetworkKindName (kind : CEnum) : String :=
  if kind = JaguarNetworkKind.can then "can"
  else if kind = JaguarNetworkKind.scp then "scp"
  else if kind = JaguarNetworkKind.iso9141 then "iso9141"
  else if kind = JaguarNetworkKind.d2b then "d2b"
  else "unknown"

/-- `jaglink_jaguar_network_role_name`. -/
def jaguarNetworkRoleName (role : CEnum) : String :=
  if role = JaguarNetworkRole.powertrain then "powertrain"
  else if role = JaguarNetworkRole.body then "body"
  else if role = JaguarNetworkRole.serialDiagnostic then "serial-diagnostic"
  else if role = JaguarNetworkRole.infotainment then "infotainment"
  else "unknown"

/-- `jaglink_jaguar_module_kind_name`. -/
def jaguarModuleKindName (module : CEnum) : String :=
  if module = JaguarModuleKind.ecm then "ECM"
  else if module = JaguarModuleKind.tcm then "TCM"
  else if module = JaguarModuleKind.instrumentCluster then "IC"
  else if module = JaguarModuleKind.absDsc then "ABS/DSC"
  else if module = JaguarModuleKind.climate then "A/CCM"
  else if module = JaguarModuleKind.gecm then "GECM"
  else if module = JaguarModuleKind.restraints then "RCM"
  else if module = JaguarModuleKind.audio then "AUDIO"
  else if module = JaguarModuleKind.other then "other"
  else "unknown"

/-! ## The cards -/

/-- A text handed on as a label or a `%s`. -/
def printed (s : Option CString) : C Text := do return (← deref s).bytes

/-- The detail of a network. -/
def networkDetail (network : JaguarNetworkDefinition) : Text :=
  if network.nominalBaud ≠ 0 then
    formatted 128 (utf8 (jaguarNetworkKindName network.kind) ++ utf8 " · " ++
      utf8 (jaguarNetworkRoleName network.role) ++ utf8 " · " ++
      decimal network.nominalBaud.toNat ++ utf8 " bit/s · " ++
      utf8 (jaguarDefinitionStatusName network.status))
  else
    formatted 128 (utf8 (jaguarNetworkKindName network.kind) ++ utf8 " · " ++
      utf8 (jaguarNetworkRoleName network.role) ++ utf8 " · " ++
      utf8 (jaguarDefinitionStatusName network.status))

/-- The row of a network: its name is printed without a NULL test. -/
def networkRow (network : JaguarNetworkDefinition) : C (CardRow Reading) := do
  return .detail (← printed network.name) (.text (networkDetail network))

/-- The detail of a factory route. -/
def endpointDetail (endpoint : JaguarDiagnosticEndpointDefinition) : Text :=
  formatted 128 (utf8 (jaguarModuleKindName endpoint.module) ++ utf8 " · CAN 0x" ++
    hex03 endpoint.requestMessageId.toNat ++ utf8 " → 0x" ++
    hex03 endpoint.responseMessageId.toNat ++ utf8 " · " ++
    utf8 (jaguarDefinitionStatusName endpoint.status))

/-- The row of a route: its name, and the detail cut at the buffer. -/
def endpointRow (endpoint : JaguarDiagnosticEndpointDefinition) : C (CardRow Reading) := do
  return .detail (← printed endpoint.name) (.text (endpointDetail endpoint))

/-- The rows of the card `topology`. -/
def topologyRows (profile : Option JaguarVehicleProfile) : C (List (CardRow Reading)) :=
  match profile with
  | none => pure [.status (utf8 "NO NETWORK DEFINITIONS") "state-warning"]
  | some profile =>
    if profile.networks.count = 0 then
      pure [.status (utf8 "NO NETWORK DEFINITIONS") "state-warning"]
    else collect (fun index => do networkRow (← profile.networks.get index)) profile.networks.count

/-- The rows of the card `factory`. -/
def factoryRows (profile : Option JaguarVehicleProfile) : C (List (CardRow Reading)) :=
  match profile with
  | none => pure [.status (utf8 "NO FACTORY ROUTES") "state-warning"]
  | some profile =>
    if profile.diagnosticEndpoints.count = 0 then
      pure [.status (utf8 "NO FACTORY ROUTES") "state-warning"]
    else do
      let rows ← collect (fun index => do endpointRow (← profile.diagnosticEndpoints.get index))
        profile.diagnosticEndpoints.count
      return .status (utf8 "SOURCE-CORROBORATED X400 ROUTES LOADED") "state-success" :: rows

/-- `append_modules`, on any profile. -/
def appendModulesOf (profile : Option JaguarVehicleProfile) : C (List (Card Reading)) := do
  let topology ← topologyRows profile
  let factory ← factoryRows profile
  return [
    { kicker := utf8 "X400 NETWORK TOPOLOGY"
      title := utf8 "Diagnostic networks and module paths"
      rows := topology ++ [.note (utf8 ("Jaguar-specific topology remains in JAGLINK while the " ++
        "standards transport, fault and live-data engine is shared through LINK."))] },
    { kicker := utf8 "FACTORY DIAGNOSTIC ROUTES"
      title := utf8 "Jaguar documented CAN request / response channels"
      rows := factory ++ [.note (utf8 ("These identifiers describe Jaguar's documented factory " ++
        "diagnostic routing. JAGLINK does not assume that a modern UDS payload is valid for X400; " ++
        "the read payload remains disabled until its request format is independently " ++
        "corroborated."))] }]

/-- `append_modules`, on the built-in profile. -/
def appendModules : C (List (Card Reading)) := appendModulesOf jaguarX400Profile

/-- The detail of a factory DTC. -/
def factoryDtcDetail (dtc : JaguarFactoryDtcDefinition) : C Text := do
  let category ← printed dtc.category
  return formatted 128 (utf8 (jaguarModuleKindName dtc.module) ++ utf8 " · " ++ category ++
    utf8 " · " ++ utf8 (if dtc.genericObd2Accessible then "generic OBD accessible"
      else "Jaguar factory/WDS layer"))

/-- The row of a trouble code in the fault card. -/
def factoryDtcRow (dtc : JaguarFactoryDtcDefinition) : C (CardRow Reading) := do
  let detail ← factoryDtcDetail dtc
  return .detail (← printed dtc.code) (.text detail)

/-- `append_factory_catalogue`, the rows it appends. -/
def appendFactoryCatalogue (profile : Option JaguarVehicleProfile) : C (List (CardRow Reading)) :=
  match profile with
  | none => pure []
  | some profile =>
    collect (fun index => do factoryDtcRow (← profile.factoryDtcs.get index)) profile.factoryDtcs.count

/-! ## The fields of a row -/

/-- A value in the range of an enumeration. -/
theorem exists_fin {value : CEnum} {n : Nat} (hlow : 0 ≤ value) (hhigh : value < n) :
    ∃ i : Fin n, value = (i.val : Int) := by
  lift value to Nat using hlow
  exact ⟨⟨value, by exact_mod_cast hhigh⟩, rfl⟩

/-- The kind of a network. -/
def kindText (kind : Fin 4) : Text := utf8 (jaguarNetworkKindName kind.val)

/-- The role of a network. -/
def roleText (role : Fin 4) : Text := utf8 (jaguarNetworkRoleName role.val)

/-- The status of a definition. -/
def statusText (status : Fin 3) : Text := utf8 (jaguarDefinitionStatusName status.val)

/-- The name of a module. -/
def moduleText (module : Fin 9) : Text := utf8 (jaguarModuleKindName module.val)

/-- A CAN identifier. -/
def canIdText (id : Fin 2048) : Text := hex03 id.val

/-- No field value begins another one of its kind, so a row can be cut where its fields end. -/
theorem kindText_prefixFree : PrefixFree kindText := by decide

theorem roleText_prefixFree : PrefixFree roleText := by decide

theorem statusText_prefixFree : PrefixFree statusText := by decide

theorem moduleText_prefixFree : PrefixFree moduleText := by decide

/-- The digits of a CAN identifier are three, and can be read back. -/
def canIdOf (digits : Text) : Nat :=
  digits.foldl (fun n c => n * 16 + (if isdigit c then c.toNat - 48 else c.toNat - 55)) 0

/-- A digit can be read back. -/
theorem hexDigit_spec : ∀ d, d < 16 →
    (if isdigit (hexDigit d) then (hexDigit d).toNat - 48 else (hexDigit d).toNat - 55) = d ∧
      hexDigit d ≠ 0 := by
  decide

/-- Three digits are printed, and they tell the identifier. -/
theorem canIdText_spec (id : Fin 2048) :
    (canIdText id).length = 3 ∧ canIdOf (canIdText id) = id.val ∧ (0 : UInt8) ∉ canIdText id := by
  have hid : id.val < 4096 := by omega
  obtain ⟨hhigh, hhigh0⟩ := hexDigit_spec (id.val / 256) (by omega)
  obtain ⟨hmid, hmid0⟩ := hexDigit_spec (id.val / 16 % 16) (by omega)
  obtain ⟨hlow, hlow0⟩ := hexDigit_spec (id.val % 16) (by omega)
  rw [canIdText, hex03_eq hid]
  refine ⟨rfl, ?_, ?_⟩
  · simp only [canIdOf, List.foldl_cons, List.foldl_nil, hhigh, hmid, hlow]
    omega
  · simp [Ne.symm hhigh0, Ne.symm hmid0, Ne.symm hlow0]

/-- All identifiers take three digits, so none begins another. -/
theorem canIdText_prefixFree : PrefixFree canIdText := by
  intro id id' hpre
  have hlength : (canIdText id).length = (canIdText id').length := by
    rw [(canIdText_spec id).1, (canIdText_spec id').1]
  have heq := hpre.eq_of_length hlength
  apply Fin.ext
  rw [← (canIdText_spec id).2.1, ← (canIdText_spec id').2.1, heq]

/-- A baud rate ends at the space behind it. -/
theorem decimal_space_free (n : Nat) : ch ' ' ∉ decimal n :=
  fun h => absurd (isdigit_of_mem_decimal h) (by decide)

/-! ## A row of an accepted profile -/

/-- What a network row prints. -/
def networkText (kind role : Fin 4) (baud : Nat) (status : Fin 3) : Text :=
  kindText kind ++ (utf8 " · " ++ (roleText role ++ (utf8 " · " ++
    (decimal baud ++ (ch ' ' :: (utf8 "bit/s · " ++ statusText status))))))

/-- A network row tells its four fields. -/
theorem networkText_inj {kind kind' role role' : Fin 4} {baud baud' : Nat} {status status' : Fin 3}
    (h : networkText kind role baud status = networkText kind' role' baud' status') :
    kind = kind' ∧ role = role' ∧ baud = baud' ∧ status = status' := by
  obtain ⟨hkind, h⟩ := kindText_prefixFree.append_inj h
  obtain ⟨hrole, h⟩ := roleText_prefixFree.append_inj (List.append_cancel_left h)
  obtain ⟨hbaud, h⟩ := append_cons_inj (decimal_space_free _) (decimal_space_free _)
    (List.append_cancel_left h)
  have hstatus : statusText status = statusText status' := List.append_cancel_left h
  exact ⟨hkind, hrole, decimal_inj hbaud, statusText_prefixFree _ _ (hstatus ▸ List.prefix_rfl)⟩

/-- Every network row fits the buffer, at the largest baud rate too. -/
theorem networkText_fits (kind role : Fin 4) {baud : Nat} (hbaud : baud < 2 ^ 32)
    (status : Fin 3) : (networkText kind role baud status).length < 128 ∧
      (0 : UInt8) ∉ networkText kind role baud status := by
  have hkind : ∀ kind, (kindText kind).length ≤ 7 ∧ (0 : UInt8) ∉ kindText kind := by decide
  have hrole : ∀ role, (roleText role).length ≤ 17 ∧ (0 : UInt8) ∉ roleText role := by
    decide
  have hstatus : ∀ status, (statusText status).length ≤ 19 ∧ (0 : UInt8) ∉ statusText status := by
    decide
  have hsep : (utf8 " · ").length = 4 ∧ (0 : UInt8) ∉ utf8 " · " := by decide
  have hunit : (utf8 "bit/s · ").length = 9 ∧ (0 : UInt8) ∉ utf8 "bit/s · " := by decide
  have hdigits : (decimal baud).length ≤ 10 := length_decimal_le (by decide) (by omega)
  constructor
  · have := (hkind kind).1
    have := (hrole role).1
    have := (hstatus status).1
    simp only [networkText, List.length_append, List.length_cons, hsep.1, hunit.1]
    omega
  · have hspace : (0 : UInt8) ≠ ch ' ' := by decide
    simp [networkText, (hkind kind).2, (hrole role).2, (hstatus status).2, hsep.2, hunit.2, hspace,
      decimal_nul_free]

/-- The members a network row is made of. -/
structure ShownNetwork where
  name : Option CString
  kind : CEnum
  role : CEnum
  nominalBaud : UInt32
  status : CEnum

/-- The members the row of a network is made of. -/
def JaguarNetworkDefinition.shown (network : JaguarNetworkDefinition) : ShownNetwork where
  name := network.name
  kind := network.kind
  role := network.role
  nominalBaud := network.nominalBaud
  status := network.status

/-- What a network row of an accepted profile prints. -/
theorem JaguarNetworkDefinition.WellFormed.detail {d : JaguarNetworkDefinition} (h : d.WellFormed) :
    ∃ kind role status, d.kind = (kind.val : Int) ∧ d.role = (role.val : Int) ∧
      d.status = (status.val : Int) ∧
      networkDetail d = networkText kind role d.nominalBaud.toNat status := by
  obtain ⟨kind, hkind⟩ := exists_fin (n := 4) h.kind.1 (Int.lt_add_one_of_le h.kind.2)
  obtain ⟨role, hrole⟩ := exists_fin (n := 4) h.role.1 (Int.lt_add_one_of_le h.role.2)
  obtain ⟨status, hstatus⟩ := exists_fin (n := 3) h.status.1 (Int.lt_add_one_of_le h.status.2)
  refine ⟨kind, role, status, hkind, hrole, hstatus, ?_⟩
  obtain ⟨hlength, hnul⟩ := networkText_fits kind role d.nominalBaud.toNat_lt status
  have hunit : ch ' ' :: utf8 "bit/s · " = utf8 " bit/s · " := by decide
  rw [networkDetail, if_pos h.nominalBaud, hkind, hrole, hstatus, ← formatted_fits hlength hnul,
    networkText, ← List.cons_append, hunit]
  simp only [kindText, roleText, statusText, List.append_assoc]

/-- A well-formed network is printed without a fault. -/
theorem networkRow_ok {d : JaguarNetworkDefinition} (h : d.WellFormed) :
    ∃ name : CString, d.name = some name ∧
      networkRow d = .ok (.detail name.bytes (.text (networkDetail d)) : CardRow Reading) := by
  obtain ⟨name, hname, -⟩ := h.name
  refine ⟨name, hname, ?_⟩
  rw [networkRow, printed, hname]
  rfl

/-- **A network row tells what it is made of.** -/
theorem networkRow_inj {d d' : JaguarNetworkDefinition} (h : d.WellFormed) (h' : d'.WellFormed)
    (heq : (networkRow d : C (CardRow Reading)) = networkRow d') : d.shown = d'.shown := by
  obtain ⟨name, hname, hrow⟩ := @networkRow_ok Reading _ h
  obtain ⟨name', hname', hrow'⟩ := @networkRow_ok Reading _ h'
  rw [hrow, hrow'] at heq
  obtain ⟨hbytes, htext⟩ : name.bytes = name'.bytes ∧ networkDetail d = networkDetail d' := by
    simpa using heq
  obtain ⟨kind, role, status, hkind, hrole, hstatus, hdetail⟩ := h.detail
  obtain ⟨kind', role', status', hkind', hrole', hstatus', hdetail'⟩ := h'.detail
  rw [hdetail, hdetail'] at htext
  obtain ⟨rfl, rfl, hbaud, rfl⟩ := networkText_inj htext
  obtain rfl := CString.ext hbytes
  rw [JaguarNetworkDefinition.shown, JaguarNetworkDefinition.shown, hname, hname', hkind, hkind',
    hrole, hrole', hstatus, hstatus', UInt32.toNat_inj.mp hbaud]

/-- What a route row prints. -/
def routeText (module : Fin 9) (request response : Fin 2048) (status : Fin 3) : Text :=
  moduleText module ++ (utf8 " · CAN 0x" ++ (canIdText request ++ (utf8 " → 0x" ++
    (canIdText response ++ (utf8 " · " ++ statusText status)))))

/-- A route row tells its four fields. -/
theorem routeText_inj {module module' : Fin 9} {request request' response response' : Fin 2048}
    {status status' : Fin 3}
    (h : routeText module request response status = routeText module' request' response' status') :
    module = module' ∧ request = request' ∧ response = response' ∧ status = status' := by
  obtain ⟨hmodule, h⟩ := moduleText_prefixFree.append_inj h
  obtain ⟨hrequest, h⟩ := canIdText_prefixFree.append_inj (List.append_cancel_left h)
  obtain ⟨hresponse, h⟩ := canIdText_prefixFree.append_inj (List.append_cancel_left h)
  have hstatus : statusText status = statusText status' := List.append_cancel_left h
  exact ⟨hmodule, hrequest, hresponse, statusText_prefixFree _ _ (hstatus ▸ List.prefix_rfl)⟩

/-- Every route row fits the buffer. -/
theorem routeText_fits (module : Fin 9) (request response : Fin 2048) (status : Fin 3) :
    (routeText module request response status).length < 128 ∧
      (0 : UInt8) ∉ routeText module request response status := by
  have hmodule : ∀ module, (moduleText module).length ≤ 7 ∧ (0 : UInt8) ∉ moduleText module := by
    decide
  have hstatus : ∀ status, (statusText status).length ≤ 19 ∧ (0 : UInt8) ∉ statusText status := by
    decide
  have hcan : (utf8 " · CAN 0x").length = 10 ∧ (0 : UInt8) ∉ utf8 " · CAN 0x" := by decide
  have harrow : (utf8 " → 0x").length = 7 ∧ (0 : UInt8) ∉ utf8 " → 0x" := by decide
  have hsep : (utf8 " · ").length = 4 ∧ (0 : UInt8) ∉ utf8 " · " := by decide
  constructor
  · have := (hmodule module).1
    have := (hstatus status).1
    simp only [routeText, List.length_append, hcan.1, harrow.1, hsep.1, (canIdText_spec _).1]
    omega
  · simp [routeText, (hmodule module).2, (hstatus status).2, hcan.2, harrow.2, hsep.2,
      (canIdText_spec _).2.2]

/-- The members a route row is made of. -/
structure ShownRoute where
  name : Option CString
  module : CEnum
  requestMessageId : UInt32
  responseMessageId : UInt32
  status : CEnum

/-- The members the row of a route is made of. -/
def JaguarDiagnosticEndpointDefinition.shown (endpoint : JaguarDiagnosticEndpointDefinition) :
    ShownRoute where
  name := endpoint.name
  module := endpoint.module
  requestMessageId := endpoint.requestMessageId
  responseMessageId := endpoint.responseMessageId
  status := endpoint.status

/-- An identifier of eleven bits. -/
theorem exists_canId {id : UInt32} (h : id ≤ 0x7ff) : ∃ i : Fin 2048, id.toNat = i.val := by
  have hle : id.toNat ≤ 2047 := UInt32.le_iff_toNat_le.mp h
  exact ⟨⟨id.toNat, by omega⟩, rfl⟩

/-- What a route row of an accepted profile prints. -/
theorem JaguarDiagnosticEndpointDefinition.WellFormed.detail
    {d : JaguarDiagnosticEndpointDefinition} (h : d.WellFormed) :
    ∃ module request response status, d.module = (module.val : Int) ∧
      d.requestMessageId.toNat = request.val ∧ d.responseMessageId.toNat = response.val ∧
      d.status = (status.val : Int) ∧
      endpointDetail d = routeText module request response status := by
  obtain ⟨module, hmodule⟩ := exists_fin (n := 9) h.module.1 (Int.lt_add_one_of_le h.module.2)
  obtain ⟨request, hrequest⟩ := exists_canId h.request
  obtain ⟨response, hresponse⟩ := exists_canId h.response
  obtain ⟨status, hstatus⟩ := exists_fin (n := 3) h.status.1 (Int.lt_add_one_of_le h.status.2)
  refine ⟨module, request, response, status, hmodule, hrequest, hresponse, hstatus, ?_⟩
  obtain ⟨hlength, hnul⟩ := routeText_fits module request response status
  rw [endpointDetail, hmodule, hrequest, hresponse, hstatus, ← formatted_fits hlength hnul,
    routeText]
  simp only [moduleText, canIdText, statusText, List.append_assoc]

/-- A well-formed route is printed without a fault. -/
theorem endpointRow_ok {d : JaguarDiagnosticEndpointDefinition} (h : d.WellFormed) :
    ∃ name : CString, d.name = some name ∧
      endpointRow d = .ok (.detail name.bytes (.text (endpointDetail d)) : CardRow Reading) := by
  obtain ⟨name, hname, -⟩ := h.name
  refine ⟨name, hname, ?_⟩
  rw [endpointRow, printed, hname]
  rfl

/-- **A route row tells what it is made of.** -/
theorem endpointRow_inj {d d' : JaguarDiagnosticEndpointDefinition} (h : d.WellFormed)
    (h' : d'.WellFormed) (heq : (endpointRow d : C (CardRow Reading)) = endpointRow d') :
    d.shown = d'.shown := by
  obtain ⟨name, hname, hrow⟩ := @endpointRow_ok Reading _ h
  obtain ⟨name', hname', hrow'⟩ := @endpointRow_ok Reading _ h'
  rw [hrow, hrow'] at heq
  obtain ⟨hbytes, htext⟩ : name.bytes = name'.bytes ∧ endpointDetail d = endpointDetail d' := by
    simpa using heq
  obtain ⟨module, request, response, status, hmodule, hrequest, hresponse, hstatus, hdetail⟩ :=
    h.detail
  obtain ⟨module', request', response', status', hmodule', hrequest', hresponse', hstatus',
    hdetail'⟩ := h'.detail
  rw [hdetail, hdetail'] at htext
  obtain ⟨rfl, rfl, rfl, rfl⟩ := routeText_inj htext
  obtain rfl := CString.ext hbytes
  rw [JaguarDiagnosticEndpointDefinition.shown, JaguarDiagnosticEndpointDefinition.shown, hname,
    hname', hmodule, hmodule', hstatus, hstatus',
    UInt32.toNat_inj.mp (hrequest.trans hrequest'.symm),
    UInt32.toNat_inj.mp (hresponse.trans hresponse'.symm)]

/-! ## The cards of an accepted profile -/

/-- The row of a present name. -/
def namedRow (name : Option CString) (detail : Text) : CardRow Reading :=
  .detail ((name.map (·.bytes)).getD []) (.text detail)

/-- The row of a well-formed network, with its name. -/
theorem networkRow_eq {d : JaguarNetworkDefinition} (h : d.WellFormed) :
    (networkRow d : C (CardRow Reading)) = .ok (namedRow d.name (networkDetail d)) := by
  obtain ⟨name, hname, hrow⟩ := @networkRow_ok Reading _ h
  rw [hrow, hname]
  rfl

/-- The row of a well-formed route, with its name. -/
theorem endpointRow_eq {d : JaguarDiagnosticEndpointDefinition} (h : d.WellFormed) :
    (endpointRow d : C (CardRow Reading)) = .ok (namedRow d.name (endpointDetail d)) := by
  obtain ⟨name, hname, hrow⟩ := @endpointRow_ok Reading _ h
  rw [hrow, hname]
  rfl

/-- Two networks have the same row exactly if they show the same. -/
theorem networkRow_iff {d d' : JaguarNetworkDefinition} (h : d.WellFormed) (h' : d'.WellFormed) :
    (namedRow d.name (networkDetail d) : CardRow Reading) = namedRow d'.name (networkDetail d') ↔
      d.shown = d'.shown := by
  constructor
  · intro heq
    refine @networkRow_inj Reading _ _ h h' ?_
    rw [networkRow_eq h, networkRow_eq h', heq]
  · intro hshown
    obtain ⟨hname, hkind, hrole, hbaud, hstatus⟩ : d.name = d'.name ∧ d.kind = d'.kind ∧
        d.role = d'.role ∧ d.nominalBaud = d'.nominalBaud ∧ d.status = d'.status := by
      simpa [JaguarNetworkDefinition.shown] using hshown
    rw [networkDetail, networkDetail, hname, hkind, hrole, hbaud, hstatus]

/-- Two routes have the same row exactly if they show the same. -/
theorem endpointRow_iff {d d' : JaguarDiagnosticEndpointDefinition} (h : d.WellFormed)
    (h' : d'.WellFormed) :
    (namedRow d.name (endpointDetail d) : CardRow Reading) = namedRow d'.name (endpointDetail d') ↔
      d.shown = d'.shown := by
  constructor
  · intro heq
    refine @endpointRow_inj Reading _ _ h h' ?_
    rw [endpointRow_eq h, endpointRow_eq h', heq]
  · intro hshown
    obtain ⟨hname, hmodule, hrequest, hresponse, hstatus⟩ : d.name = d'.name ∧
        d.module = d'.module ∧ d.requestMessageId = d'.requestMessageId ∧
        d.responseMessageId = d'.responseMessageId ∧ d.status = d'.status := by
      simpa [JaguarDiagnosticEndpointDefinition.shown] using hshown
    rw [endpointDetail, endpointDetail, hname, hmodule, hrequest, hresponse, hstatus]

variable {p p' : JaguarVehicleProfile}

/-- The loop over the networks appends one row each. -/
theorem topologyRows_eq (h : p.WellFormed) : topologyRows (some p) =
    .ok (p.networks.entries.map fun d => (namedRow d.name (networkDetail d) : CardRow Reading)) := by
  have hcount : ¬p.networks.count = 0 := Nat.ne_of_gt h.someNetwork.2
  rw [topologyRows, if_neg hcount]
  exact collect_get (fun _ => h.someNetwork.1) fun d hd => networkRow_eq (h.networks d hd)

/-- The loop over the routes appends one row each, behind the chip that there are some. -/
theorem factoryRows_eq (h : p.WellFormed) : factoryRows (some p) =
    .ok (if p.diagnosticEndpoints.entries = [] then
        [.status (utf8 "NO FACTORY ROUTES") "state-warning"]
      else .status (utf8 "SOURCE-CORROBORATED X400 ROUTES LOADED") "state-success" ::
        p.diagnosticEndpoints.entries.map fun d =>
          (namedRow d.name (endpointDetail d) : CardRow Reading)) := by
  have hlength := h.endpointsPresent.length_entries
  rw [factoryRows]
  by_cases hcount : p.diagnosticEndpoints.count = 0
  · have hnil : p.diagnosticEndpoints.entries = [] := List.eq_nil_of_length_eq_zero (by omega)
    rw [if_pos hcount, if_pos hnil]
    rfl
  · have hcons : ¬p.diagnosticEndpoints.entries = [] := fun hnil => hcount (by simp [← hlength, hnil])
    rw [if_neg hcount, if_neg hcons, collect_get h.endpointsPresent fun d hd =>
      endpointRow_eq (h.endpoints d hd)]
    rfl

/-- The rows of the second card determine the rows of the routes. -/
theorem factoryRows_iff (h : p.WellFormed) (h' : p'.WellFormed) :
    (factoryRows (some p) : C (List (CardRow Reading))) = factoryRows (some p') ↔
      p.diagnosticEndpoints.entries.map (·.shown) = p'.diagnosticEndpoints.entries.map (·.shown) := by
  have hrows : p.diagnosticEndpoints.entries.map (fun d =>
        (namedRow d.name (endpointDetail d) : CardRow Reading)) =
      p'.diagnosticEndpoints.entries.map (fun d => namedRow d.name (endpointDetail d)) ↔
      p.diagnosticEndpoints.entries.map (·.shown) = p'.diagnosticEndpoints.entries.map (·.shown) :=
    map_eq_map_iff fun d hd d' hd' => endpointRow_iff (h.endpoints d hd) (h'.endpoints d' hd')
  have hwarning : utf8 "NO FACTORY ROUTES" ≠ utf8 "SOURCE-CORROBORATED X400 ROUTES LOADED" := by
    decide
  rw [factoryRows_eq h, factoryRows_eq h', ← hrows]
  -- a card without routes starts with another row than one with routes
  by_cases hnil : p.diagnosticEndpoints.entries = []
  · by_cases hnil' : p'.diagnosticEndpoints.entries = []
    · simp [hnil, hnil']
    · simp [hnil, hnil', hwarning]
  · by_cases hnil' : p'.diagnosticEndpoints.entries = []
    · simp [hnil, hnil', Ne.symm hwarning]
    · simp [hnil, hnil']

/-- The network card tells the list of its networks. -/
theorem topologyRows_iff (h : p.WellFormed) (h' : p'.WellFormed) :
    (topologyRows (some p) : C (List (CardRow Reading))) = topologyRows (some p') ↔
      p.networks.entries.map (·.shown) = p'.networks.entries.map (·.shown) := by
  rw [topologyRows_eq h, topologyRows_eq h', Except.ok.injEq]
  exact map_eq_map_iff fun d hd d' hd' => networkRow_iff (h.networks d hd) (h'.networks d' hd')

/-- The row of a network, from what it shows: its texts one after the other, none of them cut. -/
def shownNetworkRow (network : ShownNetwork) : CardRow Reading :=
  namedRow network.name (utf8 (jaguarNetworkKindName network.kind) ++ (utf8 " · " ++
    (utf8 (jaguarNetworkRoleName network.role) ++ (utf8 " · " ++
      (decimal network.nominalBaud.toNat ++ (utf8 " bit/s · " ++
        utf8 (jaguarDefinitionStatusName network.status)))))))

/-- The row of a route whose detail is not cut. -/
def shownRouteRow (route : ShownRoute) : CardRow Reading :=
  namedRow route.name (utf8 (jaguarModuleKindName route.module) ++ (utf8 " · CAN 0x" ++
    (hex03 route.requestMessageId.toNat ++ (utf8 " → 0x" ++
      (hex03 route.responseMessageId.toNat ++ (utf8 " · " ++
        utf8 (jaguarDefinitionStatusName route.status)))))))

/-- The buffer holds the whole row of a network. -/
theorem networkRow_shown {d : JaguarNetworkDefinition} (h : d.WellFormed) :
    (namedRow d.name (networkDetail d) : CardRow Reading) = shownNetworkRow d.shown := by
  obtain ⟨kind, role, status, hkind, hrole, hstatus, hdetail⟩ := h.detail
  have hunit : utf8 " bit/s · " = ch ' ' :: utf8 "bit/s · " := by decide
  rw [hdetail, shownNetworkRow, JaguarNetworkDefinition.shown, hkind, hrole, hstatus, hunit]
  rfl

/-- The buffer holds the whole row of a route. -/
theorem endpointRow_shown {d : JaguarDiagnosticEndpointDefinition} (h : d.WellFormed) :
    (namedRow d.name (endpointDetail d) : CardRow Reading) = shownRouteRow d.shown := by
  obtain ⟨module, request, response, status, hmodule, hrequest, hresponse, hstatus, hdetail⟩ :=
    h.detail
  rw [hdetail, shownRouteRow, JaguarDiagnosticEndpointDefinition.shown, hmodule, hrequest, hresponse,
    hstatus]
  rfl

/-- The network card of an accepted profile is uncut. -/
theorem topologyRows_shown (h : p.WellFormed) : topologyRows (some p) =
    .ok (p.networks.entries.map fun d => (shownNetworkRow d.shown : CardRow Reading)) := by
  rw [topologyRows_eq h]
  exact congrArg Except.ok (List.map_congr_left fun d hd => networkRow_shown (h.networks d hd))

/-- The route card of an accepted profile is uncut. -/
theorem factoryRows_shown (h : p.WellFormed) : factoryRows (some p) =
    .ok (if p.diagnosticEndpoints.entries = [] then
        [.status (utf8 "NO FACTORY ROUTES") "state-warning"]
      else .status (utf8 "SOURCE-CORROBORATED X400 ROUTES LOADED") "state-success" ::
        p.diagnosticEndpoints.entries.map fun d => (shownRouteRow d.shown : CardRow Reading)) := by
  have hrows : (p.diagnosticEndpoints.entries.map fun d =>
      (namedRow d.name (endpointDetail d) : CardRow Reading)) =
      p.diagnosticEndpoints.entries.map fun d => shownRouteRow d.shown :=
    List.map_congr_left fun d hd => endpointRow_shown (h.endpoints d hd)
  rw [factoryRows_eq h, hrows]

/-- **The two cards tell everything they are made of.**  On every accepted profile they are printed
    without a fault, with one row for each network and for each route, whole and in order; and two
    accepted profiles print the same cards exactly if their networks agree, in order, in name, kind,
    role, baud rate and status, and their routes in name, module, the two identifiers and status. -/
theorem appendModules_lossless (hvalid : jaguarVehicleProfileIsValid (some p) = .ok true)
    (hvalid' : jaguarVehicleProfileIsValid (some p') = .ok true) :
    Defined (appendModulesOf (some p) : C (List (Card Reading))) ∧
    topologyRows (some p) =
      .ok (p.networks.entries.map fun d => (shownNetworkRow d.shown : CardRow Reading)) ∧
    factoryRows (some p) =
      .ok (if p.diagnosticEndpoints.entries = [] then
          [.status (utf8 "NO FACTORY ROUTES") "state-warning"]
        else .status (utf8 "SOURCE-CORROBORATED X400 ROUTES LOADED") "state-success" ::
          p.diagnosticEndpoints.entries.map fun d => (shownRouteRow d.shown : CardRow Reading)) ∧
    ((appendModulesOf (some p) : C (List (Card Reading))) = appendModulesOf (some p') ↔
      p.networks.entries.map (·.shown) = p'.networks.entries.map (·.shown) ∧
      p.diagnosticEndpoints.entries.map (·.shown) =
        p'.diagnosticEndpoints.entries.map (·.shown)) := by
  have h := (isValid_iff_wellFormed p).mp hvalid
  have h' := (isValid_iff_wellFormed p').mp hvalid'
  have htopology := @topologyRows_iff Reading _ _ h h'
  have hfactory := @factoryRows_iff Reading _ _ h h'
  refine ⟨?_, topologyRows_shown h, factoryRows_shown h, ?_⟩
  · rw [appendModulesOf, topologyRows_eq h, factoryRows_eq h]
    exact ⟨_, rfl⟩
  · rw [← htopology, ← hfactory, appendModulesOf, appendModulesOf, topologyRows_eq h,
      topologyRows_eq h', factoryRows_eq h, factoryRows_eq h']
    simp [pure, Except.pure]

/-- The built-in profile under another name. -/
def renamedProfile : JaguarVehicleProfile := { x400Profile with displayName := text "Jaguar X-Type" }

theorem renamedProfile_isValid : jaguarVehicleProfileIsValid (some renamedProfile) = .ok true := by
  have h := (isValid_iff_wellFormed _).mp x400Profile_isValid
  refine (isValid_iff_wellFormed _).mpr ?_
  exact ⟨h.platformCode, h.platformFamily, ⟨_, rfl, by decide⟩, h.years, h.someNetwork,
    h.endpointsPresent, h.dtcsPresent, h.networks, h.distinctKeys, h.endpoints, h.resolved, h.dtcs⟩

/-- Renaming a network is seen on the cards, whose rows are whole. -/
theorem appendModules_lossless_renamed :
    Defined (appendModulesOf (some x400Profile) : C (List (Card Nat))) ∧
    topologyRows (some x400Profile) =
      .ok (x400Profile.networks.entries.map fun d => (shownNetworkRow d.shown : CardRow Nat)) ∧
    factoryRows (some x400Profile) =
      .ok (if x400Profile.diagnosticEndpoints.entries = [] then
          [.status (utf8 "NO FACTORY ROUTES") "state-warning"]
        else .status (utf8 "SOURCE-CORROBORATED X400 ROUTES LOADED") "state-success" ::
          x400Profile.diagnosticEndpoints.entries.map fun d =>
            (shownRouteRow d.shown : CardRow Nat)) ∧
    ((appendModulesOf (some x400Profile) : C (List (Card Nat))) =
        appendModulesOf (some renamedProfile) ↔
      x400Profile.networks.entries.map (·.shown) = renamedProfile.networks.entries.map (·.shown) ∧
      x400Profile.diagnosticEndpoints.entries.map (·.shown) =
        renamedProfile.diagnosticEndpoints.entries.map (·.shown)) :=
  appendModules_lossless x400Profile_isValid renamedProfile_isValid

/-! ## The factory catalogue -/

/-- The last field of a catalogue row. -/
def accessText (accessible : Bool) : Text :=
  utf8 " · " ++ utf8 (if accessible then "generic OBD accessible" else "Jaguar factory/WDS layer")

/-- What a catalogue row prints. -/
def catalogueText (module : Fin 9) (category : Text) (accessible : Bool) : Text :=
  moduleText module ++ (utf8 " · " ++ (category ++ accessText accessible))

/-- The detail of a trouble code tells module, category and access. -/
theorem catalogueText_inj {module module' : Fin 9} {category category' : Text}
    {accessible accessible' : Bool}
    (h : catalogueText module category accessible = catalogueText module' category' accessible') :
    module = module' ∧ category = category' ∧ accessible = accessible' := by
  obtain ⟨hmodule, h⟩ := moduleText_prefixFree.append_inj h
  have htail : category ++ accessText accessible = category' ++ accessText accessible' :=
    List.append_cancel_left h
  -- the two endings differ in the last byte
  have hlast : ∀ (category : Text) accessible, (category ++ accessText accessible).getLast? =
      some (if accessible then ch 'e' else ch 'r') := by
    intro category accessible
    have hending : (accessText accessible).getLast? = some (if accessible then ch 'e' else ch 'r') := by
      revert accessible
      decide
    rw [List.getLast?_append, hending]
    rfl
  have hsame : accessible = accessible' := by
    have heq := congrArg List.getLast? htail
    rw [hlast, hlast, Option.some.injEq] at heq
    exact (show ∀ a a' : Bool, (if a then ch 'e' else ch 'r') = (if a' then ch 'e' else ch 'r') →
      a = a' by decide) _ _ heq
  subst hsame
  exact ⟨hmodule, List.append_cancel_right htail, rfl⟩

/-- A category of at most 88 bytes leaves room for the rest. -/
theorem catalogueText_fits (module : Fin 9) {category : CString} (hfits : category.strlen ≤ 88)
    (accessible : Bool) : (catalogueText module category.bytes accessible).length < 128 ∧
      (0 : UInt8) ∉ catalogueText module category.bytes accessible := by
  have hmodule : ∀ module, (moduleText module).length ≤ 7 ∧ (0 : UInt8) ∉ moduleText module := by
    decide
  have hsep : (utf8 " · ").length = 4 ∧ (0 : UInt8) ∉ utf8 " · " := by decide
  have haccess : ∀ accessible, (accessText accessible).length ≤ 28 ∧
      (0 : UInt8) ∉ accessText accessible := by decide
  have hcategory : category.bytes.length ≤ 88 := hfits
  constructor
  · have := (hmodule module).1
    have := (haccess accessible).1
    simp only [catalogueText, List.length_append, hsep.1]
    omega
  · simp [catalogueText, (hmodule module).2, hsep.2, (haccess accessible).2, category.nul_free]

/-- The members a catalogue row is made of. -/
structure ShownDtc where
  code : Option CString
  module : CEnum
  category : Option CString
  genericObd2Accessible : Bool

/-- The members the row of a trouble code is made of. -/
def JaguarFactoryDtcDefinition.shown (dtc : JaguarFactoryDtcDefinition) : ShownDtc where
  code := dtc.code
  module := dtc.module
  category := dtc.category
  genericObd2Accessible := dtc.genericObd2Accessible

/-- The category leaves room for the rest of the row. -/
def JaguarFactoryDtcDefinition.Fits (dtc : JaguarFactoryDtcDefinition) : Prop :=
  ∀ category, dtc.category = some category → category.strlen ≤ 88

/-- What a catalogue row of an accepted profile prints. -/
theorem JaguarFactoryDtcDefinition.WellFormed.detail {d : JaguarFactoryDtcDefinition}
    (h : d.WellFormed) (hfits : d.Fits) :
    ∃ module category, d.module = (module.val : Int) ∧ d.category = some category ∧
      factoryDtcDetail d = .ok (catalogueText module category.bytes d.genericObd2Accessible) := by
  obtain ⟨module, hmodule⟩ := exists_fin (n := 9) h.module.1 (Int.lt_add_one_of_le h.module.2)
  obtain ⟨category, hcategory, -⟩ := h.category
  obtain ⟨hlength, hnul⟩ := catalogueText_fits module (hfits category hcategory)
    d.genericObd2Accessible
  refine ⟨module, category, hmodule, hcategory, ?_⟩
  rw [factoryDtcDetail, printed, hcategory, hmodule, ← formatted_fits hlength hnul, catalogueText,
    moduleText, accessText]
  simp only [List.append_assoc]
  rfl

/-- The row of a catalogue entry, from what it shows. -/
def shownDtcRow (dtc : ShownDtc) : CardRow Reading :=
  namedRow dtc.code (utf8 (jaguarModuleKindName dtc.module) ++ (utf8 " · " ++
    ((dtc.category.map (·.bytes)).getD [] ++ accessText dtc.genericObd2Accessible)))

/-- The row of a well-formed code that fits is printed whole. -/
theorem factoryDtcRow_eq {d : JaguarFactoryDtcDefinition} (h : d.WellFormed) (hfits : d.Fits) :
    (factoryDtcRow d : C (CardRow Reading)) = .ok (shownDtcRow d.shown) := by
  obtain ⟨module, category, hmodule, hcategory, hdetail⟩ := h.detail hfits
  obtain ⟨code, hcode, -⟩ := h.code
  rw [factoryDtcRow, hdetail, ok_bind, printed, hcode, shownDtcRow, JaguarFactoryDtcDefinition.shown,
    hcode, hcategory, hmodule]
  rfl

/-- The row tells all it is made of. -/
theorem shownDtcRow_inj {d d' : JaguarFactoryDtcDefinition} (h : d.WellFormed) (hfits : d.Fits)
    (h' : d'.WellFormed) (hfits' : d'.Fits)
    (heq : (shownDtcRow d.shown : CardRow Reading) = shownDtcRow d'.shown) : d.shown = d'.shown := by
  obtain ⟨module, category, hmodule, hcategory, -⟩ := h.detail hfits
  obtain ⟨module', category', hmodule', hcategory', -⟩ := h'.detail hfits'
  obtain ⟨code, hcode, -⟩ := h.code
  obtain ⟨code', hcode', -⟩ := h'.code
  rw [JaguarFactoryDtcDefinition.shown, JaguarFactoryDtcDefinition.shown, hcode, hcode', hmodule,
    hmodule', hcategory, hcategory'] at heq ⊢
  obtain ⟨hbytes, htext⟩ : code.bytes = code'.bytes ∧
      catalogueText module category.bytes d.genericObd2Accessible =
        catalogueText module' category'.bytes d'.genericObd2Accessible := by
    simpa [shownDtcRow, namedRow, catalogueText, moduleText] using heq
  obtain ⟨rfl, hsame, haccess⟩ := catalogueText_inj htext
  rw [CString.ext hbytes, CString.ext hsame, haccess]

/-- **The catalogue tells everything it is made of**, on every accepted profile whose categories
    leave room for the rest of a row: it is printed without a fault, one row for each code in order,
    and two such profiles print the same catalogue exactly if their codes agree in code, module,
    category and accessibility. -/
theorem appendFactoryCatalogue_lossless
    (hvalid : jaguarVehicleProfileIsValid (some p) = .ok true)
    (hvalid' : jaguarVehicleProfileIsValid (some p') = .ok true)
    (hfits : ∀ d ∈ p.factoryDtcs.entries, d.Fits) (hfits' : ∀ d ∈ p'.factoryDtcs.entries, d.Fits) :
    appendFactoryCatalogue (some p) =
      .ok (p.factoryDtcs.entries.map fun d => (shownDtcRow d.shown : CardRow Reading)) ∧
    ((appendFactoryCatalogue (some p) : C (List (CardRow Reading))) =
        appendFactoryCatalogue (some p') ↔
      p.factoryDtcs.entries.map (·.shown) = p'.factoryDtcs.entries.map (·.shown)) := by
  have hprinted : ∀ {q : JaguarVehicleProfile}, jaguarVehicleProfileIsValid (some q) = .ok true →
      (∀ d ∈ q.factoryDtcs.entries, d.Fits) → appendFactoryCatalogue (some q) =
        .ok (q.factoryDtcs.entries.map fun d => (shownDtcRow d.shown : CardRow Reading)) := by
    intro q hq hqfits
    have hwell := (isValid_iff_wellFormed q).mp hq
    exact collect_get hwell.dtcsPresent fun d hd => factoryDtcRow_eq (hwell.dtcs d hd) (hqfits d hd)
  refine ⟨hprinted hvalid hfits, ?_⟩
  have h := (isValid_iff_wellFormed p).mp hvalid
  have h' := (isValid_iff_wellFormed p').mp hvalid'
  rw [hprinted hvalid hfits, hprinted hvalid' hfits', Except.ok.injEq]
  refine map_eq_map_iff fun d hd d' hd' => ⟨fun heq => ?_, fun hshown => by rw [hshown]⟩
  exact shownDtcRow_inj (h.dtcs d hd) (hfits d hd) (h'.dtcs d' hd') (hfits' d' hd') heq

/-- The built-in categories are short. -/
theorem appendFactoryCatalogue_lossless_renamed :
    appendFactoryCatalogue (some x400Profile) =
      .ok (x400Profile.factoryDtcs.entries.map fun d => (shownDtcRow d.shown : CardRow Nat)) ∧
    ((appendFactoryCatalogue (some x400Profile) : C (List (CardRow Nat))) =
        appendFactoryCatalogue (some renamedProfile) ↔
      x400Profile.factoryDtcs.entries.map (·.shown) =
        renamedProfile.factoryDtcs.entries.map (·.shown)) := by
  have hshort : (x400FactoryDtcs.all fun d => d.category.all fun c => c.strlen ≤ 88) = true := by
    decide
  have hfits : ∀ d ∈ x400FactoryDtcs, d.Fits := by
    intro d hd category hcategory
    have hall := List.all_eq_true.mp hshort d hd
    rw [hcategory] at hall
    exact of_decide_eq_true hall
  exact appendFactoryCatalogue_lossless x400Profile_isValid renamedProfile_isValid hfits hfits

end Jaglink
