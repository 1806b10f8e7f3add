/-
  The network list of the Apple face (`loadJaguarProfile` of `ConnectionViewModel.swift`).

  1. **Program** — it goes over the same records as the Linux topology card, but skips a network
     without a key, gives each row the key for an identity and reads C strings as Swift does, which
     repairs bytes that are not UTF-8 (`stringFrom`).

  2. **Specification** — every network of an accepted profile is listed, in order; no two rows have
     the same identity, which SwiftUI needs of a list; the topology card can be written from the
     list, row by row; and the network of every factory route is in the list once.

  3. **Result (`networks_listed`)** — so it is for profiles with names in UTF-8 and keys in ASCII
     (`SpeltAscii`).  ASCII is needed: the validator compares keys by `strcmp`, Swift compares
     identities up to canonical equivalence (`sameText`), and the two can differ on other letters.

  4. **The crux (`listedNetwork_ids`)** — identities are the keys as texts, and UTF-8 tells texts
     apart (`Spelt.inj`), so the distinct keys of an accepted profile are distinct identities.
-/
import Jaglink.FactoryCards
import Jaglink.ViewModel

namespace Jaglink

open CLib

variable {Reading : Type}

/-! ## The list -/

/-- A row of the list.  Two rows have the same identity if Swift's `==` says so of their keys. -/
structure JaguarNetworkInfo where
  id : String
  name : String
  kind : String
  role : String
  nominalBaud : UInt32
  status : String
  provenance : String
  deriving DecidableEq

/-- The two published fields `loadJaguarProfile` writes. -/
structure LoadedProfile where
  profileDisplayName : String
  jaguarNetworks : List JaguarNetworkInfo

section Load

-- What `String(cString:)` makes of bytes that are not UTF-8.
variable (repaired : List UInt8 → String)

/-- One round of the loop: a row, unless the key is empty. -/
def networkInfo (network : JaguarNetworkDefinition) : Option JaguarNetworkInfo :=
  let key := stringFrom repaired network.key
  if key.isEmpty then none
  else some {
    id := key
    name := stringFrom repaired network.name
    kind := stringFrom repaired (text (jaguarNetworkKindName network.kind))
    role := stringFrom repaired (text (jaguarNetworkRoleName network.role))
    nominalBaud := network.nominalBaud
    status := stringFrom repaired (text (jaguarDefinitionStatusName network.status))
    provenance := stringFrom repaired network.provenance }

/-- `loadJaguarProfile`; without a profile, or without networks, the list stays as it is. -/
def loadJaguarProfile (profile : Option JaguarVehicleProfile) (loaded : LoadedProfile) :
    C LoadedProfile :=
  match profile with
  | none => pure loaded
  | some profile =>
    let loaded := { loaded with profileDisplayName := stringFrom repaired profile.displayName }
    match profile.networks.data with
    | none => pure loaded
    | some _ => do
      let result ← collect (fun index => do
        return networkInfo repaired (← profile.networks.get index)) profile.networks.count
      return { loaded with jaguarNetworks := result.reduceOption }

end Load

variable {repaired : List UInt8 → String}

/-! ## Texts -/

/-- A text member that is UTF-8. -/
def Spelt (s : Option CString) : Prop := ∃ t : String, s.map (·.bytes) = some (utf8 t)

/-- A text member that is ASCII. -/
def SpeltAscii (s : Option CString) : Prop :=
  ∃ t : String, Ascii t ∧ s.map (·.bytes) = some (utf8 t)

/-- ASCII bytes are UTF-8. -/
theorem SpeltAscii.spelt {s : Option CString} (h : SpeltAscii s) : Spelt s := by
  obtain ⟨t, -, ht⟩ := h
  exact ⟨t, ht⟩

/-- UTF-8 bytes are read as the text they spell, and nothing is repaired. -/
theorem stringFrom_of_bytes {s : Option CString} {t : String} (h : s.map (·.bytes) = some (utf8 t)) :
    stringFrom repaired s = t := by
  obtain ⟨value, rfl, hbytes⟩ := Option.map_eq_some_iff.mp h
  rw [stringFrom, fromUTF8?_utf8 hbytes, Option.getD_some]

/-- What an ASCII member spells is ASCII. -/
theorem SpeltAscii.ascii {s : Option CString} (h : SpeltAscii s) : Ascii (stringFrom repaired s) := by
  obtain ⟨t, hascii, ht⟩ := h
  rwa [stringFrom_of_bytes ht]

/-- What a UTF-8 member spells is its bytes. -/
theorem Spelt.bytes {s : Option CString} (h : Spelt s) :
    s.map (·.bytes) = some (utf8 (stringFrom repaired s)) := by
  obtain ⟨t, ht⟩ := h
  rw [stringFrom_of_bytes ht, ht]

/-- A literal without a NUL is shown as it is written. -/
theorem stringFrom_text {t : String} (h : (0 : UInt8) ∉ utf8 t) :
    stringFrom repaired (text t) = t :=
  stringFrom_of_bytes (congrArg some (read_utf8 h))

/-- Different UTF-8 members are read as different texts. -/
theorem Spelt.inj {s s' : Option CString} (h : Spelt s) (h' : Spelt s')
    (heq : stringFrom repaired s = stringFrom repaired s') : s = s' := by
  have hbytes : s.map (·.bytes) = s'.map (·.bytes) := by
    rw [@Spelt.bytes repaired _ h, @Spelt.bytes repaired _ h', heq]
  obtain ⟨t, ht⟩ := h
  obtain ⟨value, rfl, -⟩ := Option.map_eq_some_iff.mp ht
  obtain ⟨value', rfl, hvalue⟩ := Option.map_eq_some_iff.mp hbytes.symm
  rw [CString.ext hvalue]

/-! ## Rows -/

/-- The row of an accepted network. -/
def listedNetwork (repaired : List UInt8 → String) (network : JaguarNetworkDefinition) :
    JaguarNetworkInfo where
  id := stringFrom repaired network.key
  name := stringFrom repaired network.name
  kind := jaguarNetworkKindName network.kind
  role := jaguarNetworkRoleName network.role
  nominalBaud := network.nominalBaud
  status := jaguarDefinitionStatusName network.status
  provenance := stringFrom repaired network.provenance

/-- A network with a key that is UTF-8 is not skipped. -/
theorem networkInfo_eq {d : JaguarNetworkDefinition} (h : d.WellFormed) (hkey : Spelt d.key) :
    networkInfo repaired d = some (listedNetwork repaired d) := by
  have hempty : ¬(stringFrom repaired d.key).isEmpty = true := by
    intro hempty
    obtain ⟨key, hpresent, hbytes⟩ := h.key
    have hspelt := @Spelt.bytes repaired _ hkey
    rw [String.isEmpty_iff.mp hempty, hpresent] at hspelt
    exact hbytes (Option.some.inj hspelt)
  obtain ⟨kind, hkind⟩ := exists_fin (n := 4) h.kind.1 (Int.lt_add_one_of_le h.kind.2)
  obtain ⟨role, hrole⟩ := exists_fin (n := 4) h.role.1 (Int.lt_add_one_of_le h.role.2)
  obtain ⟨status, hstatus⟩ := exists_fin (n := 3) h.status.1 (Int.lt_add_one_of_le h.status.2)
  have hkinds : ∀ kind : Fin 4, (0 : UInt8) ∉ utf8 (jaguarNetworkKindName kind.val) := by decide
  have hroles : ∀ role : Fin 4, (0 : UInt8) ∉ utf8 (jaguarNetworkRoleName role.val) := by decide
  have hstatuses : ∀ status : Fin 3, (0 : UInt8) ∉ utf8 (jaguarDefinitionStatusName status.val) := by
    decide
  rw [networkInfo, if_neg hempty, listedNetwork, hkind, hrole, hstatus, stringFrom_text (hkinds kind),
    stringFrom_text (hroles role), stringFrom_text (hstatuses status)]

/-- The row of the topology card, from a row of the list. -/
def JaguarNetworkInfo.topologyRow (info : JaguarNetworkInfo) : CardRow Reading :=
  .detail (utf8 info.name) (.text (utf8 info.kind ++ utf8 " · " ++ utf8 info.role ++ utf8 " · " ++
    decimal info.nominalBaud.toNat ++ utf8 " bit/s · " ++ utf8 info.status))

/-- The row of a listed network is the one the Linux card has of it. -/
theorem topologyRow_listed {d : JaguarNetworkDefinition} (h : d.WellFormed) (hname : Spelt d.name) :
    (namedRow d.name (networkDetail d) : CardRow Reading) =
      (listedNetwork repaired d).topologyRow := by
  obtain ⟨kind, role, status, hkind, hrole, hstatus, hdetail⟩ := h.detail
  have hunit : ch ' ' :: utf8 "bit/s · " = utf8 " bit/s · " := by decide
  rw [namedRow, hdetail, networkText, ← List.cons_append, hunit, JaguarNetworkInfo.topologyRow,
    listedNetwork, @Spelt.bytes repaired _ hname, hkind, hrole, hstatus]
  simp only [kindText, roleText, statusText, List.append_assoc, Option.getD_some]

/-! ## Accepted profiles -/

variable {p : JaguarVehicleProfile}

/-- On an accepted profile the loop lists every network, in order. -/
theorem loadJaguarProfile_eq (h : p.WellFormed) (hkeys : ∀ d ∈ p.networks.entries, Spelt d.key)
    (loaded : LoadedProfile) : loadJaguarProfile repaired (some p) loaded =
      .ok ⟨stringFrom repaired p.displayName, p.networks.entries.map (listedNetwork repaired)⟩ := by
  obtain ⟨networks, hnetworks⟩ := Option.ne_none_iff_exists'.mp h.someNetwork.1
  have hrows : collect (fun index => do return networkInfo repaired (← p.networks.get index))
      p.networks.count = .ok (p.networks.entries.map fun d => some (listedNetwork repaired d)) :=
    collect_get (fun _ => h.someNetwork.1) fun d hd =>
      congrArg Except.ok (networkInfo_eq (h.networks d hd) (hkeys d hd))
  have hreduce : (p.networks.entries.map fun d => some (listedNetwork repaired d)).reduceOption =
      p.networks.entries.map (listedNetwork repaired) := by
    show List.filterMap id _ = _
    rw [List.filterMap_map]
    exact congrFun List.filterMap_eq_map' _
  rw [loadJaguarProfile, hnetworks]
  dsimp only
  rw [hrows, ok_bind, hreduce]
  rfl

/-- The rows of an accepted profile with UTF-8 keys have distinct keys. -/
theorem listedNetwork_ids (h : p.WellFormed) (hkeys : ∀ d ∈ p.networks.entries, Spelt d.key) :
    ((p.networks.entries.map (listedNetwork repaired)).map (·.id)).Nodup := by
  rw [List.map_map]
  refine (List.Nodup.of_map _ h.distinctKeys).map_on fun d hd d' hd' hid => ?_
  exact List.inj_on_of_nodup_map h.distinctKeys hd hd' ((hkeys d hd).inj (hkeys d' hd') hid)

/-- **The list of an accepted profile.**  With keys in ASCII and names in UTF-8 every network is
    listed, in order, and no two rows have the same identity in the sense of Swift's `==`; the Linux
    topology card has, row by row, what the list has; and the network of every factory route is in
    the list exactly once. -/
theorem networks_listed (api : AppleApi) (hvalid : jaguarVehicleProfileIsValid (some p) = .ok true)
    (hspelt : ∀ d ∈ p.networks.entries, SpeltAscii d.key ∧ Spelt d.name) (loaded : LoadedProfile) :
    ∃ infos, loadJaguarProfile api.repaired (some p) loaded =
        .ok ⟨stringFrom api.repaired p.displayName, infos⟩ ∧
      infos.Pairwise (fun info other => api.sameText info.id other.id = false) ∧
      topologyRows (some p) = .ok (infos.map fun info => (info.topologyRow : CardRow Reading)) ∧
      ∀ e ∈ p.diagnosticEndpoints.entries,
        ∃! info, info ∈ infos ∧ e.networkKey.map (·.bytes) = some (utf8 info.id) := by
  have h := (isValid_iff_wellFormed p).mp hvalid
  have hkeys : ∀ d ∈ p.networks.entries, Spelt d.key := fun d hd => (hspelt d hd).1.spelt
  -- distinct keys are read as distinct texts, since they are UTF-8
  have hids := @listedNetwork_ids api.repaired p h hkeys
  refine ⟨_, loadJaguarProfile_eq h hkeys loaded, ?_, ?_, ?_⟩
  · -- and `==` tells distinct ASCII texts apart
    refine (List.pairwise_map.mp hids).imp_of_mem fun hinfo hother hne => ?_
    obtain ⟨d, hd, rfl⟩ := List.mem_map.mp hinfo
    obtain ⟨d', hd', rfl⟩ := List.mem_map.mp hother
    refine Bool.eq_false_iff.mpr fun hsame => hne ?_
    exact (api.sameText_ascii _ _ (hspelt d hd).1.ascii (hspelt d' hd').1.ascii).mp hsame
  · rw [topologyRows_eq h, List.map_map]
    refine congrArg Except.ok (List.map_congr_left fun d hd => ?_)
    exact topologyRow_listed (h.networks d hd) (hspelt d hd).2
  · intro e he
    obtain ⟨n, hn, hkey⟩ := h.resolved e he
    refine ⟨listedNetwork api.repaired n, ⟨List.mem_map_of_mem hn, ?_⟩, ?_⟩
    · rw [← hkey]
      exact (hkeys n hn).bytes
    · rintro info ⟨hinfo, hbytes⟩
      refine List.inj_on_of_nodup_map hids hinfo (List.mem_map_of_mem hn) (utf8_inj ?_)
      rw [← hkey, @Spelt.bytes api.repaired _ (hkeys n hn)] at hbytes
      exact (Option.some.inj hbytes).symm

/-- An ASCII literal is spelt so. -/
theorem speltAscii_text {t : String} (hascii : Ascii t) (h : (0 : UInt8) ∉ utf8 t) :
    SpeltAscii (text t) :=
  ⟨t, hascii, congrArg some (read_utf8 h)⟩

/-- The built-in profile. -/
theorem networks_listed_x400 :
    ∃ infos, loadJaguarProfile AppleApi.memory.repaired (some x400Profile) ⟨"Jaguar vehicle", []⟩ =
        .ok ⟨stringFrom AppleApi.memory.repaired x400Profile.displayName, infos⟩ ∧
      infos.Pairwise (fun info other => AppleApi.memory.sameText info.id other.id = false) ∧
      topologyRows (some x400Profile) =
        .ok (infos.map fun info => (info.topologyRow : CardRow Nat)) ∧
      ∀ e ∈ x400Profile.diagnosticEndpoints.entries,
        ∃! info, info ∈ infos ∧ e.networkKey.map (·.bytes) = some (utf8 info.id) := by
  refine networks_listed AppleApi.memory x400Profile_isValid ?_ _
  intro d hd
  have hd : d ∈ x400Networks := hd
  have hname : ∀ {t : String}, (0 : UInt8) ∉ utf8 t → Spelt (text t) :=
    fun h => ⟨_, congrArg some (read_utf8 h)⟩
  simp only [x400Networks, List.mem_cons, List.not_mem_nil, or_false] at hd
  rcases hd with rfl | rfl | rfl | rfl
  · exact ⟨speltAscii_text (by decide) (by decide), hname (by decide)⟩
  · exact ⟨speltAscii_text (by decide) (by decide), hname (by decide)⟩
  · exact ⟨speltAscii_text (by decide) (by decide), hname (by decide)⟩
  · exact ⟨speltAscii_text (by decide) (by decide), hname (by decide)⟩

end Jaglink
