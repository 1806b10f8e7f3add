/-
  Saved vehicle profiles: the dictionaries and LINK's store of them.

  1. **Data** — a profile is a dictionary from keys to values of four types, read with casts
     (`Profile.string` and its siblings).  `setAll` is a sequence of assignments; under distinct
     keys each of them is what is read afterwards (`setAll_mem`), and every other key is as it was
     (`setAll_other`).

  2. **A store with its laws** — `LinkVehicleProfileStore` is not part of this repository.
     `VehicleProfileStore` lists the calls JAGLINK makes and, as fields, what it relies on:
     recording a live VIN selects it and creates at most an empty profile, saving writes one entry,
     selecting moves the selection only, and the listing shows every saved profile under its VIN.
     Everything proved about the view model holds for any such store.

  3. `memoryStore` is one, over a list of VINs that carries its own well-formedness: every VIN with
     a profile is on the list.
-/
import Jaglink.AppleController

namespace Jaglink

/-! ## Profiles -/

/-- A value of a profile dictionary. -/
inductive ProfileValue
  | string (value : String)
  | strings (value : List String)
  | number (doubleBits : UInt64)
  | responders (value : List ResponderProfile)
  deriving DecidableEq

/-- `[AnyHashable: Any]`, with string keys. -/
abbrev Profile := String → Option ProfileValue

namespace Profile

/-- `[:]`. -/
def empty : Profile := fun _ => none

/-- `profile[key] = value`. -/
def set (profile : Profile) (key : String) (value : ProfileValue) : Profile :=
  fun k => if k = key then some value else profile k

/-- A sequence of assignments. -/
def setAll (profile : Profile) (entries : List (String × ProfileValue)) : Profile :=
  entries.foldl (fun p entry => p.set entry.1 entry.2) profile

/-- `profile[key] as? String`. -/
def string (profile : Profile) (key : String) : Option String :=
  match profile key with
  | some (.string value) => some value
  | _ => none

/-- `profile[key] as? [String]`. -/
def strings (profile : Profile) (key : String) : Option (List String) :=
  match profile key with
  | some (.strings value) => some value
  | _ => none

/-- `(profile[key] as? NSNumber)?.doubleValue`. -/
def number (profile : Profile) (key : String) : Option UInt64 :=
  match profile key with
  | some (.number value) => some value
  | _ => none

/-- The assigned key has the assigned value. -/
theorem set_same (profile : Profile) (key : String) (value : ProfileValue) :
    profile.set key value key = some value := if_pos rfl

/-- An assignment leaves the other keys alone. -/
theorem set_other (profile : Profile) {key k : String} (value : ProfileValue) (h : k ≠ key) :
    profile.set key value k = profile k := if_neg h

/-- A string is read as it was stored. -/
theorem string_eq_some {p : Profile} {key value : String} (h : p key = some (.string value)) :
    p.string key = some value := by
  rw [string, h]

/-- Reading a key depends on nothing else in the dictionary. -/
theorem string_congr {p q : Profile} {key : String} (h : p key = q key) :
    p.string key = q.string key := by
  rw [string, string, h]

/-- Assignments leave the other keys alone. -/
theorem setAll_other {entries : List (String × ProfileValue)} {key : String}
    (h : key ∉ entries.map Prod.fst) (profile : Profile) :
    profile.setAll entries key = profile key := by
  induction entries generalizing profile with
  | nil => rfl
  | cons entry entries ih =>
    rw [List.map_cons, List.mem_cons, not_or] at h
    show (profile.set entry.1 entry.2).setAll entries key = profile key
    rw [ih h.2, set_other profile entry.2 h.1]

/-- Assignments under distinct keys all take effect. -/
theorem setAll_mem {entries : List (String × ProfileValue)} (hkeys : (entries.map Prod.fst).Nodup)
    {key : String} {value : ProfileValue} (h : (key, value) ∈ entries) (profile : Profile) :
    profile.setAll entries key = some value := by
  induction entries generalizing profile with
  | nil => cases h
  | cons entry entries ih =>
    rw [List.map_cons, List.nodup_cons] at hkeys
    show (profile.set entry.1 entry.2).setAll entries key = some value
    rcases List.mem_cons.mp h with rfl | h
    · rw [setAll_other hkeys.1, set_same]
    · exact ih hkeys.2 h _

end Profile

/-! ## The store -/

/-- The store as JAGLINK calls it, with the laws it relies on. -/
structure VehicleProfileStore where
  State : Type
  empty : State
  profile : State → String → Option Profile
  savedProfiles : State → List Profile
  selectedVehicleVIN : State → Option String
  associatedAdapterIdentifier : State → String → Option String
  recordLiveVIN : State → String → State
  saveProfile : State → Profile → String → State
  selectOfflineVehicle : State → String → Bool × State
  empty_profile : ∀ v, profile empty v = none
  empty_selected : selectedVehicleVIN empty = none
  record_selected : ∀ s v, selectedVehicleVIN (recordLiveVIN s v) = some v
  record_self : ∀ s v, profile (recordLiveVIN s v) v = profile s v ∨
    (profile s v = none ∧ profile (recordLiveVIN s v) v = some Profile.empty)
  record_other : ∀ s v w, w ≠ v → profile (recordLiveVIN s v) w = profile s w
  save_selected : ∀ s p v, selectedVehicleVIN (saveProfile s p v) = selectedVehicleVIN s
  save_self : ∀ s p v, profile (saveProfile s p v) v = some p
  save_other : ∀ s p v w, w ≠ v → profile (saveProfile s p v) w = profile s w
  select_profile : ∀ s v w, profile (selectOfflineVehicle s v).2 w = profile s w
  select_accepted : ∀ s v, (selectOfflineVehicle s v).1 = true →
    selectedVehicleVIN (selectOfflineVehicle s v).2 = some v
  select_refused : ∀ s v, (selectOfflineVehicle s v).1 = false →
    selectedVehicleVIN (selectOfflineVehicle s v).2 = selectedVehicleVIN s
  listed_of_saved : ∀ s v p, profile s v = some p →
    ∃ d ∈ savedProfiles s, d.string "vin" = some v ∧ d.string "displayName" = p.string "displayName"
  saved_of_listed : ∀ s d v, d ∈ savedProfiles s → d.string "vin" = some v →
    ∃ p, profile s v = some p ∧ d.string "displayName" = p.string "displayName"

/-- Recording a live VIN changes no value a profile already has. -/
theorem VehicleProfileStore.record_string (store : VehicleProfileStore) {s : store.State}
    {v w : String} {p : Profile} (h : store.profile s w = some p) :
    store.profile (store.recordLiveVIN s v) w = some p := by
  by_cases hw : w = v
  · subst hw
    rcases store.record_self s w with hsame | ⟨hnone, -⟩
    · rw [hsame, h]
    · rw [h] at hnone
      cases hnone
  · rw [store.record_other s v w hw, h]

/-! ## A store in memory -/

/-- Profiles by VIN, with the list of the VINs that have one. -/
structure MemoryStore where
  vins : List String
  profiles : String → Option Profile
  selected : Option String
  listed : ∀ v, v ∈ vins ↔ profiles v ≠ none

namespace MemoryStore

/-- One entry is written, and listed from then on. -/
def saveProfile (s : MemoryStore) (p : Profile) (v : String) : MemoryStore where
  vins := if v ∈ s.vins then s.vins else s.vins ++ [v]
  profiles := fun w => if w = v then some p else s.profiles w
  selected := s.selected
  listed := by
    intro w
    by_cases hw : w = v
    · subst hw
      by_cases hmem : w ∈ s.vins
      · simp [hmem]
      · simp [hmem]
    · have := s.listed w
      by_cases hmem : v ∈ s.vins
      · simp [hmem, hw, this]
      · simp [hmem, hw, this]

/-- The VIN is selected; a new one gets an empty profile. -/
def recordLiveVIN (s : MemoryStore) (v : String) : MemoryStore :=
  { (if s.profiles v = none then s.saveProfile Profile.empty v else s) with selected := some v }

/-- Only a saved vehicle can be selected. -/
def selectOfflineVehicle (s : MemoryStore) (v : String) : Bool × MemoryStore :=
  if v ∈ s.vins then (true, { s with selected := some v }) else (false, s)

/-- The saved profiles, each with its VIN. -/
def savedProfiles (s : MemoryStore) : List Profile :=
  s.vins.filterMap fun v => (s.profiles v).map fun p => p.set "vin" (.string v)

/-- Each saved profile is listed with its VIN, and nothing else is. -/
theorem mem_savedProfiles {s : MemoryStore} {d : Profile} :
    d ∈ s.savedProfiles ↔ ∃ v p, s.profiles v = some p ∧ d = p.set "vin" (.string v) := by
  rw [savedProfiles, List.mem_filterMap]
  constructor
  · rintro ⟨v, -, hd⟩
    obtain ⟨p, hp, rfl⟩ := Option.map_eq_some_iff.mp hd
    exact ⟨v, p, hp, rfl⟩
  · rintro ⟨v, p, hp, rfl⟩
    exact ⟨v, (s.listed v).mpr (by simp [hp]), by simp [hp]⟩

/-- Recording writes the entry of a new VIN only. -/
theorem recordLiveVIN_profiles (s : MemoryStore) (v w : String) :
    (s.recordLiveVIN v).profiles w =
      if w = v ∧ s.profiles v = none then some Profile.empty else s.profiles w := by
  rw [recordLiveVIN]
  by_cases hnone : s.profiles v = none
  · by_cases hw : w = v <;> simp [hnone, hw, saveProfile]
  · simp [hnone]

end MemoryStore

/-- A store in memory, which has all the laws. -/
def memoryStore : VehicleProfileStore where
  State := MemoryStore
  empty := { vins := [], profiles := fun _ => none, selected := none, listed := by simp }
  profile := MemoryStore.profiles
  savedProfiles := MemoryStore.savedProfiles
  selectedVehicleVIN := MemoryStore.selected
  associatedAdapterIdentifier := fun _ _ => none
  recordLiveVIN := MemoryStore.recordLiveVIN
  saveProfile := MemoryStore.saveProfile
  selectOfflineVehicle := MemoryStore.selectOfflineVehicle
  empty_profile := fun _ => rfl
  empty_selected := rfl
  record_selected := fun _ _ => rfl
  record_self := by
    intro s v
    rw [MemoryStore.recordLiveVIN_profiles]
    by_cases hnone : s.profiles v = none <;> simp [hnone]
  record_other := by
    intro s v w hw
    rw [MemoryStore.recordLiveVIN_profiles]
    simp [hw]
  save_selected := fun _ _ _ => rfl
  save_self := fun _ _ _ => if_pos rfl
  save_other := fun _ _ _ _ hw => if_neg hw
  select_profile := by
    intro s v w
    rw [MemoryStore.selectOfflineVehicle]
    split <;> rfl
  select_accepted := by
    intro s v h
    rw [MemoryStore.selectOfflineVehicle] at h ⊢
    split at h
    · rename_i hmem
      rw [if_pos hmem]
    · cases h
  select_refused := by
    intro s v h
    rw [MemoryStore.selectOfflineVehicle] at h ⊢
    split at h
    · cases h
    · rename_i hmem
      rw [if_neg hmem]
  listed_of_saved := by
    intro s v p hp
    refine ⟨_, MemoryStore.mem_savedProfiles.mpr ⟨v, p, hp, rfl⟩, ?_, ?_⟩
    · exact Profile.string_eq_some (Profile.set_same ..)
    · exact Profile.string_congr (Profile.set_other p _ (by decide))
  saved_of_listed := by
    intro s d v hd hv
    obtain ⟨w, p, hp, rfl⟩ := MemoryStore.mem_savedProfiles.mp hd
    rw [Profile.string_eq_some (Profile.set_same ..), Option.some.injEq] at hv
    subst hv
    exact ⟨p, hp, Profile.string_congr (Profile.set_other p _ (by decide))⟩

end Jaglink
