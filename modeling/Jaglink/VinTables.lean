/-
  The X400 VIN code tables of `vin.c` and the searches over them.

  1. **Data** — the five tables, row by row as in the source.  They are static and never written, so
     a pointer into one of them is an index of it (`Fin table.length`) and NULL is `none`.  Text
     members are literals; `utf8` gives the bytes behind the `const char *`.  `unsigned int` members
     are catalogue constants.

  2. **Program** — five searches, the name functions and the two character functions.  Four of the
     searches fold the case of the code they are given; the body search wants two characters and
     compares them as they are, which is right behind a decoder that has folded them already.

  3. **Specification** — every table is keyed by its code, and no code occurs twice
     (`x400Markets_unique` and its siblings), so a search is `lookup` over distinct keys; the body
     search is one on two-character codes (`jaguarX400Body_of_two`).  `VinChar` says which bytes a
     decoded VIN is made of, and `vinCharValid_iff` that these are the ones let through.

  4. **Model years** — `x400_model_year` is arithmetic on one digit.  It is injective where it knows
     the year (`x400ModelYear_inj`), which is all the summary and the vehicle of a VIN need of it.
-/
import Jaglink.Lib.CString
import Jaglink.Lib.FirstMatch

namespace Jaglink

open CLib FirstMatch

/-! ## The definitions of `jaguar_vin.h` -/

/-- `JaglinkJaguarDrivetrain`: which wheels are driven. -/
inductive JaguarDrivetrain
  | unknown | fwd | awd
  deriving DecidableEq, Repr

/-- `JaglinkJaguarTransmission`. -/
inductive JaguarTransmission
  | unknown | manual | automatic
  deriving DecidableEq, Repr

/-- `JaglinkJaguarSteering`: the side the wheel is on. -/
inductive JaguarSteering
  | unknown | lhd | rhd
  deriving DecidableEq, Repr

/-- `JaglinkJaguarBodyStyle`. -/
inductive JaguarBodyStyle
  | unknown | saloon | estate
  deriving DecidableEq, Repr

/-- `JaglinkJaguarFuelType`. -/
inductive JaguarFuelType
  | unknown | petrol | diesel
  deriving DecidableEq, Repr

/-- A row of the market table, VIN position 4. -/
structure JaguarMarketDefinition where
  code : UInt8
  market : String
  airbagSpecification : String
  deriving DecidableEq

/-- A row of the table of VIN position 5, which codes three things at once. -/
structure JaguarTransmissionSteeringDefinition where
  code : UInt8
  drivetrain : JaguarDrivetrain
  transmission : JaguarTransmission
  steering : JaguarSteering
  deriving DecidableEq

/-- A row of the body table, VIN positions 6 and 7. -/
structure JaguarBodyDefinition where
  code : String
  bodyStyle : JaguarBodyStyle
  seriesClass : String
  description : String
  deriving DecidableEq

/-- A row of the emission table, VIN position 8.  An X400 may have a code without a row. -/
structure JaguarEmissionDefinition where
  code : UInt8
  ecsNumber : Nat
  deriving DecidableEq

/-- A row of the table of VIN position 11: the plant, and the engine line built there. -/
structure JaguarPlantEngineDefinition where
  code : UInt8
  assemblyPlant : String
  assemblyCountry : String
  engineDescription : String
  engineFamily : String
  fuel : JaguarFuelType
  displacementCc : Nat
  ratedPowerKw : Nat
  deriving DecidableEq

/-- `JAGLINK_JAGUAR_VIN_LENGTH`. -/
def jaguarVinLength : Nat := 17

/-! ## The tables -/

/-- Position 4: the market, by its airbag specification. -/
def x400Markets : List JaguarMarketDefinition := [
  ⟨ch 'A', "Rest of World", "Jaguar X400 global airbag specification A"⟩,
  ⟨ch 'E', "United States", "Jaguar X400 US airbag specification 1"⟩,
  ⟨ch 'G', "Canada", "Jaguar X400 Canada airbag specification 1"⟩,
  ⟨ch 'K', "Japan", "Jaguar X400 Japan airbag specification"⟩,
  ⟨ch 'T', "Mexico", "Jaguar X400 Mexico airbag specification 1"⟩,
  ⟨ch 'W', "United States", "Jaguar X400 US airbag specification 2"⟩,
  ⟨ch 'X', "Canada", "Jaguar X400 Canada airbag specification 2"⟩,
  ⟨ch 'Y', "Mexico", "Jaguar X400 Mexico airbag specification 2"⟩]

/-- Position 5: every combination of drivetrain, transmission and steering has a code. -/
def x400TransmissionSteering : List JaguarTransmissionSteeringDefinition := [
  ⟨ch 'A', .awd, .automatic, .lhd⟩,
  ⟨ch 'B', .awd, .manual, .lhd⟩,
  ⟨ch 'C', .awd, .automatic, .rhd⟩,
  ⟨ch 'D', .awd, .manual, .rhd⟩,
  ⟨ch 'E', .fwd, .automatic, .lhd⟩,
  ⟨ch 'F', .fwd, .manual, .lhd⟩,
  ⟨ch 'G', .fwd, .automatic, .rhd⟩,
  ⟨ch 'H', .fwd, .manual, .rhd⟩]

/-- Positions 6 and 7: body style and series. -/
def x400Bodies : List JaguarBodyDefinition := [
  ⟨"51", .saloon, "High Series", "X-TYPE 4-door High Series saloon"⟩,
  ⟨"52", .saloon, "Entry Series", "X-TYPE 4-door Entry Series saloon"⟩,
  ⟨"53", .saloon, "Sport Series", "X-TYPE 4-door Sport Series saloon"⟩,
  ⟨"54", .estate, "High Series", "X-TYPE 4-door High Series estate"⟩,
  ⟨"55", .estate, "Entry Series", "X-TYPE 4-door Entry Series estate"⟩,
  ⟨"56", .estate, "Sport Series", "X-TYPE 4-door Sport Series estate"⟩]

/-- Jaguar Cars Ltd 2005 X400 global VIN table. -/
def x400Emissions : List JaguarEmissionDefinition := [
  ⟨ch 'B', 2⟩, ⟨ch 'C', 3⟩, ⟨ch 'D', 4⟩, ⟨ch 'E', 5⟩, ⟨ch 'F', 6⟩, ⟨ch 'G', 7⟩,
  ⟨ch 'K', 10⟩, ⟨ch 'N', 13⟩, ⟨ch 'P', 14⟩, ⟨ch 'R', 15⟩, ⟨ch 'S', 16⟩, ⟨ch 'T', 17⟩,
  ⟨ch 'U', 18⟩, ⟨ch 'V', 19⟩, ⟨ch 'W', 20⟩, ⟨ch 'X', 21⟩, ⟨ch 'Y', 22⟩,
  ⟨ch '1', 23⟩, ⟨ch '2', 24⟩, ⟨ch '3', 25⟩, ⟨ch '4', 26⟩]

/-- Position 11 is explicitly both assembly-plant and engine-line information for X400. -/
def x400PlantEngines : List JaguarPlantEngineDefinition := [
  ⟨ch 'W', "Halewood", "United Kingdom", "3.0 V6 petrol", "AJ-V6 3.0", .petrol, 2967, 169⟩,
  ⟨ch 'X', "Halewood", "United Kingdom", "2.5 V6 petrol", "AJ-V6 2.5", .petrol, 2497, 144⟩,
  ⟨ch 'Y', "Halewood", "United Kingdom", "2.0 V6 petrol", "AJ-V6 2.0", .petrol, 2099, 115⟩,
  ⟨ch '6', "Halewood", "United Kingdom", "2.0 inline-4 diesel", "2.0 diesel", .diesel, 1998, 96⟩,
  ⟨ch 'B', "Halewood", "United Kingdom", "2.2 TDCi inline-4 diesel", "2.2 TDCi", .diesel, 2198,
    114⟩]

/-- No market code occurs twice, so a search finds THE row of a code; likewise below. -/
theorem x400Markets_unique : UniqueKeys (·.code) x400Markets := by decide

theorem x400TransmissionSteering_unique : UniqueKeys (·.code) x400TransmissionSteering := by decide

/-- The body codes are compared as bytes. -/
theorem x400Bodies_unique : UniqueKeys (fun row => utf8 row.code) x400Bodies := by decide

theorem x400Emissions_unique : UniqueKeys (·.code) x400Emissions := by decide

theorem x400PlantEngines_unique : UniqueKeys (·.code) x400PlantEngines := by decide

/-! ## Names -/

/-- `jaglink_jaguar_drivetrain_name`, and likewise the names below. -/
def jaguarDrivetrainName : JaguarDrivetrain → String
  | .unknown => "unknown"
  | .fwd => "front-wheel drive"
  | .awd => "all-wheel drive"

def jaguarTransmissionName : JaguarTransmission → String
  | .unknown => "unknown"
  | .manual => "manual"
  | .automatic => "automatic"

def jaguarSteeringName : JaguarSteering → String
  | .unknown => "unknown"
  | .lhd => "left-hand drive"
  | .rhd => "right-hand drive"

def jaguarBodyStyleName : JaguarBodyStyle → String
  | .unknown => "unknown"
  | .saloon => "saloon"
  | .estate => "estate"

def jaguarFuelTypeName : JaguarFuelType → String
  | .unknown => "unknown"
  | .petrol => "petrol"
  | .diesel => "diesel"

/-! ## Characters -/

/-- `vin_char_valid`: a letter or a digit, but none of `I`, `O` and `Q`. -/
def vinCharValid (value : UInt8) : Bool :=
  let c := toupper value
  if !isalnum c then false
  else c != ch 'I' && c != ch 'O' && c != ch 'Q'

/-- `upper_char`. -/
def upperChar (value : UInt8) : UInt8 := toupper value

/-- The characters a decoded VIN is made of: an upper-case ASCII letter or digit other than
    `I`, `O` and `Q`. -/
def VinChar (c : UInt8) : Prop :=
  (isdigit c = true ∨ isupper c = true) ∧ c ≠ ch 'I' ∧ c ≠ ch 'O' ∧ c ≠ ch 'Q'

instance (c : UInt8) : Decidable (VinChar c) :=
  inferInstanceAs
    (Decidable ((isdigit c = true ∨ isupper c = true) ∧ c ≠ ch 'I' ∧ c ≠ ch 'O' ∧ c ≠ ch 'Q'))

/-- The decoder takes a character exactly if folding its case makes a VIN character of it. -/
theorem vinCharValid_iff (c : UInt8) : vinCharValid c = true ↔ VinChar (upperChar c) := by
  simp only [vinCharValid, VinChar, upperChar, isalnum_toupper]
  cases isdigit (toupper c) <;> cases isupper (toupper c) <;> simp [and_assoc]

/-- VIN characters are capitals already. -/
theorem VinChar.upperChar {c : UInt8} (h : VinChar c) : upperChar c = c :=
  toupper_of_isdigit_or_isupper h.1

/-- No VIN character ends a C string. -/
theorem VinChar.ne_zero {c : UInt8} (h : VinChar c) : c ≠ 0 := by
  rintro rfl
  exact absurd h (by decide)

/-- A byte that folds to a VIN character is an ASCII letter or digit. -/
theorem toNat_of_vinChar {c : UInt8} (h : VinChar (upperChar c)) : 48 ≤ c.toNat ∧ c.toNat ≤ 122 := by
  by_cases hlower : islower c = true
  · simp only [islower, Bool.and_eq_true, decide_eq_true_eq, UInt8.le_iff_toNat_le] at hlower
    have ha : (ch 'a').toNat = 97 := rfl
    have hz : (ch 'z').toNat = 122 := rfl
    omega
  · rw [show upperChar c = c from if_neg hlower] at h
    have hcodes : (ch '0').toNat = 48 ∧ (ch '9').toNat = 57 ∧ (ch 'A').toNat = 65 ∧
        (ch 'Z').toNat = 90 := ⟨rfl, rfl, rfl, rfl⟩
    rcases h.1 with hdigit | hupper
    · simp only [isdigit, Bool.and_eq_true, decide_eq_true_eq, UInt8.le_iff_toNat_le] at hdigit
      omega
    · simp only [isupper, Bool.and_eq_true, decide_eq_true_eq, UInt8.le_iff_toNat_le] at hupper
      omega

/-! ## The searches -/

/-- `jaglink_jaguar_x400_market`. -/
def jaguarX400Market (code : UInt8) : Option (Fin x400Markets.length) :=
  lookup (·.code) x400Markets (upperChar code)

/-- `jaglink_jaguar_x400_transmission_steering`. -/
def jaguarX400TransmissionSteering (code : UInt8) : Option (Fin x400TransmissionSteering.length) :=
  lookup (·.code) x400TransmissionSteering (upperChar code)

/-- The body search wants exactly two characters and compares them as they are. -/
def jaguarX400Body (code : Option CString) : Option (Fin x400Bodies.length) :=
  match code with
  | none => none
  | some code =>
    if code.charAt 0 = 0 ∨ code.charAt 1 = 0 ∨ code.charAt 2 ≠ 0 then none
    else x400Bodies.findFinIdx? fun row => strncmp code.bytes (utf8 row.code) 2 == 0

/-- `jaglink_jaguar_x400_emission`. -/
def jaguarX400Emission (code : UInt8) : Option (Fin x400Emissions.length) :=
  lookup (·.code) x400Emissions (upperChar code)

/-- `jaglink_jaguar_x400_plant_engine`. -/
def jaguarX400PlantEngine (code : UInt8) : Option (Fin x400PlantEngines.length) :=
  lookup (·.code) x400PlantEngines (upperChar code)

/-- Every body code is two characters long. -/
theorem x400Bodies_code : ∀ row ∈ x400Bodies,
    (utf8 row.code).length = 2 ∧ (0 : UInt8) ∉ utf8 row.code := by decide

/-- On a two-character code the body search is a search for that code. -/
theorem jaguarX400Body_of_two {code : CString} (h : code.strlen = 2) :
    jaguarX400Body (some code) = lookup (fun row => utf8 row.code) x400Bodies code.bytes := by
  have h0 : code.charAt 0 ≠ 0 := code.charAt_ne_zero (by omega)
  have h1 : code.charAt 1 ≠ 0 := code.charAt_ne_zero (by omega)
  have h2 : code.charAt 2 = 0 := h ▸ code.charAt_strlen
  rw [jaguarX400Body, if_neg (by simp [h0, h1, h2])]
  apply findFinIdx?_eq_lookup
  intro row hrow
  obtain ⟨hlen, hnul⟩ := x400Bodies_code row hrow
  rw [strncmp, List.take_of_length_le (Nat.le_of_eq h), List.take_of_length_le (Nat.le_of_eq hlen)]
  have hcmp := strcmp_eq_zero code.nul_free hnul
  rw [Bool.eq_iff_iff, beq_iff_eq, decide_eq_true_eq, hcmp]
  exact eq_comm

/-! ## Model years -/

/-- `x400_model_year`: 2001 to 2009 by their last digit, 0 for any other code. -/
def x400ModelYear (code : UInt8) : UInt16 :=
  if ch '1' ≤ code && code ≤ ch '9' then 2000 + (code - ch '0').toUInt16 else 0

/-- A known model year gives its code back. -/
theorem code_of_x400ModelYear {c : UInt8} (h : x400ModelYear c ≠ 0) :
    c = ch '0' + (x400ModelYear c - 2000).toUInt8 :=
  forall_byte
    (p := fun c => x400ModelYear c ≠ 0 → c = ch '0' + (x400ModelYear c - 2000).toUInt8)
    (by decide +kernel) c h

/-- No two codes share a known model year. -/
theorem x400ModelYear_inj {c c' : UInt8} (h : x400ModelYear c ≠ 0)
    (he : x400ModelYear c = x400ModelYear c') : c = c' := by
  have hc := code_of_x400ModelYear h
  have hc' := code_of_x400ModelYear (he ▸ h)
  rw [hc, he, ← hc']

end Jaglink
