/-
  `jaglink_jaguar_vin_decode` (`vin.c`): cutting a VIN into its X400 fields.

  1. **Program** — `jaguarVinDecode` follows the source exit by exit: a NULL destination, a NULL or
     wrongly sized text, an illegal character, a foreign manufacturer, and the full record.  The
     destination is state: what it held before goes in, what it holds after comes out, char arrays
     byte for byte with their NULs.

  2. **Data that carries its invariant** — `Vin` is the type of well-formed folded VINs; its two
     invariants (17 characters, all legal) are fields, so the lemmas about positions have no
     hypotheses.  `Vin.parse` takes a text there if it can be taken.

  3. **The crux (`jaguarVinDecode_eq`)** says once what the decoder does: parse, then look at the
     manufacturer.  Everything else in this file is read off that equation.

  4. **Results** — what is accepted, and which rows the record points at
     (`jaguarVinDecode_accepts`); that the record keeps the folded VIN and nothing of the text's
     case (`jaguarVinDecode_lossless`); and what each failing exit leaves behind, whatever was there
     before (`jaguarVinDecode_total`).
-/
import Jaglink.VinTables
import Jaglink.Profile

namespace Jaglink

open CLib FirstMatch

/-! ## The decoder -/

/-- `JaglinkJaguarVinDecode`; `vin`, `wmi`, `body_code` and `production_serial` are the char arrays
    of 18, 4, 3 and 7 bytes. -/
structure JaguarVinDecode where
  valid : Bool
  jaguarWmi : Bool
  x400 : Bool
  vin : List UInt8
  wmi : List UInt8
  marketCode : UInt8
  market : Option (Fin x400Markets.length)
  transmissionSteeringCode : UInt8
  transmissionSteering : Option (Fin x400TransmissionSteering.length)
  bodyCode : List UInt8
  body : Option (Fin x400Bodies.length)
  emissionCode : UInt8
  emission : Option (Fin x400Emissions.length)
  checkDigit : UInt8
  modelYearCode : UInt8
  modelYear : UInt16
  plantEngineCode : UInt8
  plantEngine : Option (Fin x400PlantEngines.length)
  productionSerial : List UInt8
  deriving DecidableEq

/-- `memset(decoded, 0, sizeof(*decoded))`. -/
def JaguarVinDecode.zero : JaguarVinDecode where
  valid := false
  jaguarWmi := false
  x400 := false
  vin := List.replicate (jaguarVinLength + 1) 0
  wmi := List.replicate 4 0
  marketCode := 0
  market := none
  transmissionSteeringCode := 0
  transmissionSteering := none
  bodyCode := List.replicate 3 0
  body := none
  emissionCode := 0
  emission := none
  checkDigit := 0
  modelYearCode := 0
  modelYear := 0
  plantEngineCode := 0
  plantEngine := none
  productionSerial := List.replicate 7 0

/-- `jaglink_jaguar_vin_decode`: the answer, and what is left in the caller's record. -/
def jaguarVinDecode (vin : Option CString) (decoded : Option JaguarVinDecode) :
    Bool × Option JaguarVinDecode :=
  match decoded with
  | none => (false, none)
  | some _ =>
    let decoded := JaguarVinDecode.zero
    match vin with
    | none => (false, some decoded)
    | some vin =>
      if vin.strlen ≠ jaguarVinLength then (false, some decoded)
      else if !(List.range jaguarVinLength).all fun index => vinCharValid (vin.charAt index) then
        (false, some decoded)
      else
        let decoded := { decoded with
          vin := ((List.range jaguarVinLength).map fun index => upperChar (vin.charAt index)) ++ [0] }
        let decoded := { decoded with wmi := decoded.vin.take 3 ++ [0] }
        let decoded := { decoded with
          jaguarWmi := strcmp (CString.read decoded.wmi).bytes (utf8 "SAJ") == 0 }
        if !decoded.jaguarWmi then (false, some decoded)
        else
          let decoded := { decoded with marketCode := decoded.vin.getD 3 0 }
          let decoded := { decoded with market := jaguarX400Market decoded.marketCode }
          let decoded := { decoded with transmissionSteeringCode := decoded.vin.getD 4 0 }
          let decoded := { decoded with
            transmissionSteering :=
              jaguarX400TransmissionSteering decoded.transmissionSteeringCode }
          let decoded := { decoded with
            bodyCode := [decoded.vin.getD 5 0, decoded.vin.getD 6 0, 0] }
          let decoded := { decoded with
            body := jaguarX400Body (some (CString.read decoded.bodyCode)) }
          let decoded := { decoded with emissionCode := decoded.vin.getD 7 0 }
          let decoded := { decoded with emission := jaguarX400Emission decoded.emissionCode }
          let decoded := { decoded with checkDigit := decoded.vin.getD 8 0 }
          let decoded := { decoded with modelYearCode := decoded.vin.getD 9 0 }
          let decoded := { decoded with modelYear := x400ModelYear decoded.modelYearCode }
          let decoded := { decoded with plantEngineCode := decoded.vin.getD 10 0 }
          let decoded := { decoded with
            plantEngine := jaguarX400PlantEngine decoded.plantEngineCode }
          let decoded := { decoded with
            productionSerial := (decoded.vin.drop 11).take 6 ++ [0] }
          let decoded := { decoded with
            x400 := decoded.market.isSome && decoded.transmissionSteering.isSome &&
              decoded.body.isSome && 2001 ≤ decoded.modelYear && decoded.modelYear ≤ 2009 &&
              decoded.plantEngine.isSome }
          let decoded := { decoded with valid := true }
          (true, some decoded)

/-! ## Well-formed VINs -/

/-- A folded VIN: 17 legal upper-case characters. -/
structure Vin where
  chars : List UInt8
  length_chars : chars.length = jaguarVinLength
  legal : ∀ c ∈ chars, VinChar c

namespace Vin

/-- The characters make the VIN. -/
theorem ext {v w : Vin} (h : v.chars = w.chars) : v = w := by
  cases v; cases w; cases h; rfl

/-- The character at a position, counted from 1 as VIN tables do. -/
def position (v : Vin) (n : Nat) : UInt8 := v.chars.getD (n - 1) 0

/-- World manufacturer identifier, positions 1-3. -/
def wmi (v : Vin) : List UInt8 := v.chars.take 3

/-- Body code, positions 6-7. -/
def bodyCode (v : Vin) : List UInt8 := [v.position 6, v.position 7]

/-- Production serial, positions 12-17. -/
def serial (v : Vin) : List UInt8 := v.chars.drop 11

/-- The loop of the decoder, on a list. -/
theorem all_legal_iff (s : CString) :
    s.bytes.all (fun c => VinChar (upperChar c)) = true ↔ ∀ c ∈ s.bytes, VinChar (upperChar c) := by
  simp

/-- A text as a VIN, after folding its case. -/
def parse (s : CString) : Option Vin :=
  if h : s.strlen = jaguarVinLength ∧ s.bytes.all (fun c => VinChar (upperChar c)) = true then
    some {
      chars := s.bytes.map upperChar
      length_chars := by rw [List.length_map]; exact h.1
      legal := fun c hc => by
        obtain ⟨b, hb, rfl⟩ := List.mem_map.mp hc
        exact (all_legal_iff s).mp h.2 b hb }
  else none

/-- No character of a VIN ends a C string. -/
theorem nul_free (v : Vin) : (0 : UInt8) ∉ v.chars := fun h => (v.legal 0 h).ne_zero rfl

/-- A VIN as a C string. -/
def toCString (v : Vin) : CString := ⟨v.chars, v.nul_free⟩

/-- Parsing takes seventeen legal characters and folds them. -/
theorem parse_eq_some_iff {s : CString} {v : Vin} :
    parse s = some v ↔ (s.strlen = jaguarVinLength ∧ ∀ c ∈ s.bytes, VinChar (upperChar c)) ∧
      v.chars = s.bytes.map upperChar := by
  unfold parse
  rw [← all_legal_iff]
  split
  · rename_i h
    rw [Option.some.injEq]
    constructor
    · rintro rfl
      exact ⟨h, rfl⟩
    · rintro ⟨-, hv⟩
      exact ext hv.symm
  · rename_i h
    constructor
    · intro hnone
      cases hnone
    · rintro ⟨hs, -⟩
      exact absurd hs h

/-- Folding a VIN changes nothing. -/
theorem map_upperChar (v : Vin) : v.chars.map upperChar = v.chars := by
  have : ∀ c ∈ v.chars, upperChar c = id c := fun c hc => (v.legal c hc).upperChar
  rw [List.map_congr_left this, List.map_id]

/-- A VIN parses as itself. -/
@[simp] theorem parse_toCString (v : Vin) : parse v.toCString = some v := by
  rw [parse_eq_some_iff]
  refine ⟨⟨v.length_chars, fun c hc => ?_⟩, v.map_upperChar.symm⟩
  rw [(v.legal c hc).upperChar]
  exact v.legal c hc

/-- Parsing sees a text only up to case. -/
theorem parse_congr {s t : CString} (h : s.bytes.map upperChar = t.bytes.map upperChar) :
    parse s = parse t := by
  have hlen : s.strlen = t.strlen := by
    have := congrArg List.length h
    rwa [List.length_map, List.length_map] at this
  have hmap : ∀ l : List UInt8,
      (∀ c ∈ l, VinChar (upperChar c)) ↔ ∀ d ∈ l.map upperChar, VinChar d :=
    fun l => List.forall_mem_map.symm
  have hlegal : (∀ c ∈ s.bytes, VinChar (upperChar c)) ↔ ∀ c ∈ t.bytes, VinChar (upperChar c) := by
    rw [hmap, hmap, h]
  apply Option.ext
  intro v
  rw [parse_eq_some_iff, parse_eq_some_iff, hlen, hlegal, h]

/-- The positions of a VIN are its characters. -/
theorem position_mem (v : Vin) {n : Nat} (h1 : 1 ≤ n) (h17 : n ≤ 17) : v.position n ∈ v.chars := by
  have hlt : n - 1 < v.chars.length := by rw [v.length_chars, jaguarVinLength]; omega
  rw [position, List.getD_eq_getElem?_getD, List.getElem?_eq_getElem hlt]
  exact List.getElem_mem hlt

/-- Folding does not change a position of a VIN. -/
@[simp] theorem upperChar_position (v : Vin) (n : Nat) : upperChar (v.position n) = v.position n := by
  rw [position, List.getD_eq_getElem?_getD]
  cases h : v.chars[n - 1]? with
  | none => rfl
  | some c => exact (v.legal c (List.mem_of_getElem? h)).upperChar

/-- The rest of a VIN starts with its next position. -/
theorem drop_eq (v : Vin) {i : Nat} (h : i < 17) :
    v.chars.drop i = v.position (i + 1) :: v.chars.drop (i + 1) := by
  have hlt : i < v.chars.length := by rw [v.length_chars, jaguarVinLength]; exact h
  rw [List.drop_eq_getElem_cons hlt, position, Nat.add_sub_cancel, List.getD_eq_getElem?_getD,
    List.getElem?_eq_getElem hlt]
  rfl

/-- The manufacturer code, character by character. -/
theorem wmi_eq (v : Vin) : v.wmi = [v.position 1, v.position 2, v.position 3] := by
  rw [wmi, ← List.drop_zero (l := v.chars), v.drop_eq (by omega), v.drop_eq (by omega),
    v.drop_eq (by omega)]
  rfl

/-- The serial, character by character. -/
theorem serial_eq (v : Vin) : v.serial = [v.position 12, v.position 13, v.position 14, v.position 15,
    v.position 16, v.position 17] := by
  have hend : v.chars.drop 17 = [] := List.drop_eq_nil_of_le (Nat.le_of_eq v.length_chars)
  rw [serial, v.drop_eq (by omega), v.drop_eq (by omega), v.drop_eq (by omega),
    v.drop_eq (by omega), v.drop_eq (by omega), v.drop_eq (by omega), hend]

/-- **The fields partition the VIN**: cut at the field borders and put back together. -/
theorem chars_eq (v : Vin) : v.chars = v.wmi ++ v.position 4 :: v.position 5 :: (v.bodyCode ++
    v.position 8 :: v.position 9 :: v.position 10 :: v.position 11 :: v.serial) := by
  calc v.chars = v.chars.take 3 ++ v.chars.drop 3 := (List.take_append_drop 3 _).symm
    _ = _ := by
      rw [v.drop_eq (by omega), v.drop_eq (by omega), v.drop_eq (by omega), v.drop_eq (by omega),
        v.drop_eq (by omega), v.drop_eq (by omega), v.drop_eq (by omega), v.drop_eq (by omega)]
      rfl

/-! ## What the decoder leaves behind -/

/-- The record of a VIN of a foreign manufacturer. -/
def rejected (v : Vin) : JaguarVinDecode :=
  { JaguarVinDecode.zero with vin := v.chars ++ [0], wmi := v.wmi ++ [0] }

/-- Recognised as an X400: every code but the emission code is known. -/
def isX400 (v : Vin) : Bool :=
  (lookup (·.code) x400Markets (v.position 4)).isSome &&
  (lookup (·.code) x400TransmissionSteering (v.position 5)).isSome &&
  (lookup (fun row => utf8 row.code) x400Bodies v.bodyCode).isSome &&
  2001 ≤ x400ModelYear (v.position 10) && x400ModelYear (v.position 10) ≤ 2009 &&
  (lookup (·.code) x400PlantEngines (v.position 11)).isSome

/-- The record of a Jaguar VIN. -/
def record (v : Vin) : JaguarVinDecode where
  valid := true
  jaguarWmi := true
  x400 := v.isX400
  vin := v.chars ++ [0]
  wmi := v.wmi ++ [0]
  marketCode := v.position 4
  market := lookup (·.code) x400Markets (v.position 4)
  transmissionSteeringCode := v.position 5
  transmissionSteering := lookup (·.code) x400TransmissionSteering (v.position 5)
  bodyCode := v.bodyCode ++ [0]
  body := lookup (fun row => utf8 row.code) x400Bodies v.bodyCode
  emissionCode := v.position 8
  emission := lookup (·.code) x400Emissions (v.position 8)
  checkDigit := v.position 9
  modelYearCode := v.position 10
  modelYear := x400ModelYear (v.position 10)
  plantEngineCode := v.position 11
  plantEngine := lookup (·.code) x400PlantEngines (v.position 11)
  productionSerial := v.serial ++ [0]

/-- The array of the record holds the characters in their places. -/
theorem getD_array (v : Vin) {i : Nat} (h : i < 17) :
    (v.chars ++ [0]).getD i 0 = v.position (i + 1) := by
  have hlt : i < v.chars.length := by rw [v.length_chars, jaguarVinLength]; exact h
  rw [position, Nat.add_sub_cancel, List.getD_eq_getElem?_getD, List.getD_eq_getElem?_getD,
    List.getElem?_append_left hlt]

/-- The first three characters of a VIN are the manufacturer code. -/
theorem take_array (v : Vin) : (v.chars ++ [0]).take 3 = v.wmi := by
  rw [List.take_append_of_le_length (by rw [v.length_chars, jaguarVinLength]; omega)]
  rfl

/-- The last six characters of a VIN are the serial. -/
theorem serial_array (v : Vin) : ((v.chars ++ [0]).drop 11).take 6 = v.serial := by
  have h11 : 11 ≤ v.chars.length := by rw [v.length_chars, jaguarVinLength]; omega
  have h6 : (v.chars.drop 11).length = 6 := by rw [List.length_drop, v.length_chars]; rfl
  rw [List.drop_append_of_le_length h11, List.take_append_of_le_length (Nat.le_of_eq h6.symm),
    List.take_of_length_le (Nat.le_of_eq h6)]
  rfl

/-- A part of a VIN read back from its NUL-terminated array. -/
theorem read_part {part : List UInt8} (v : Vin) (h : part ⊆ v.chars) :
    (CString.read (part ++ [0])).bytes = part := by
  have hfree : (0 : UInt8) ∉ part := fun h0 => v.nul_free (h h0)
  exact congrArg CString.bytes (CString.read_append_nul ⟨part, hfree⟩ [])

/-- The parts of a VIN are made of its characters. -/
theorem wmi_subset (v : Vin) : v.wmi ⊆ v.chars := List.take_subset 3 _

theorem serial_subset (v : Vin) : v.serial ⊆ v.chars := List.drop_subset 11 _

theorem bodyCode_subset (v : Vin) : v.bodyCode ⊆ v.chars := by
  intro c hc
  rcases List.mem_cons.mp hc with rfl | hc
  · exact v.position_mem (by omega) (by omega)
  · rw [List.mem_singleton.mp hc]
    exact v.position_mem (by omega) (by omega)

/-- The manufacturer test of the decoder. -/
theorem strcmp_wmi (v : Vin) :
    (strcmp (CString.read (v.wmi ++ [0])).bytes (utf8 "SAJ") == 0) = decide (v.wmi = utf8 "SAJ") := by
  rw [v.read_part v.wmi_subset, Bool.eq_iff_iff, beq_iff_eq, decide_eq_true_eq]
  exact strcmp_eq_zero (fun h => v.nul_free (v.wmi_subset h)) (by decide)

/-- The body search gets two characters, so it searches for them. -/
theorem jaguarX400Body_bodyCode (v : Vin) :
    jaguarX400Body (some (CString.read (v.bodyCode ++ [0]))) =
      lookup (fun row => utf8 row.code) x400Bodies v.bodyCode := by
  have hread := v.read_part v.bodyCode_subset
  have htwo : (CString.read (v.bodyCode ++ [0])).strlen = 2 := by
    rw [CString.strlen, hread]
    rfl
  rw [jaguarX400Body_of_two htwo, hread]

end Vin

/-- The decoder's character loop is the legality test of `Vin.parse`. -/
theorem all_vinCharValid {vin : CString} (hlen : vin.strlen = jaguarVinLength) :
    ((List.range jaguarVinLength).all fun index => vinCharValid (vin.charAt index)) = true ↔
      ∀ c ∈ vin.bytes, VinChar (upperChar c) := by
  have hall : ((List.range jaguarVinLength).all fun index => vinCharValid (vin.charAt index)) =
      vin.bytes.all vinCharValid := by
    rw [← vin.map_charAt_range, List.all_map, hlen]
    rfl
  rw [hall, List.all_eq_true]
  simp only [vinCharValid_iff]

/-- The decoder's copying loop folds the text. -/
theorem map_upperChar_range {vin : CString} (hlen : vin.strlen = jaguarVinLength) :
    ((List.range jaguarVinLength).map fun index => upperChar (vin.charAt index)) =
      vin.bytes.map upperChar := by
  rw [← vin.map_charAt_range, List.map_map, hlen]
  rfl

/-- The three exits before anything is stored. -/
theorem jaguarVinDecode_of_parse_none {vin : CString} (h : Vin.parse vin = none)
    (prior : JaguarVinDecode) :
    jaguarVinDecode (some vin) (some prior) = (false, some JaguarVinDecode.zero) := by
  simp only [jaguarVinDecode]
  by_cases hlen : vin.strlen = jaguarVinLength
  · rw [if_neg (not_not_intro hlen), if_pos]
    have hbad : ¬ ∀ c ∈ vin.bytes, VinChar (upperChar c) := by
      intro hlegal
      rw [Vin.parse, dif_pos ⟨hlen, (Vin.all_legal_iff vin).mpr hlegal⟩] at h
      cases h
    rw [← all_vinCharValid hlen] at hbad
    simpa using hbad
  · rw [if_pos hlen]

/-- The two exits after the text has been stored. -/
theorem jaguarVinDecode_of_parse_some {vin : CString} {v : Vin} (h : Vin.parse vin = some v)
    (prior : JaguarVinDecode) :
    jaguarVinDecode (some vin) (some prior) =
      if v.wmi = utf8 "SAJ" then (true, some v.record) else (false, some v.rejected) := by
  obtain ⟨⟨hlen, hlegal⟩, hchars⟩ := Vin.parse_eq_some_iff.mp h
  have hall := (all_vinCharValid hlen).mpr hlegal
  have hcopy : ((List.range jaguarVinLength).map fun index => upperChar (vin.charAt index)) =
      v.chars := (map_upperChar_range hlen).trans hchars.symm
  simp only [jaguarVinDecode, hlen, hall, hcopy, v.take_array, v.strcmp_wmi, ne_eq, not_true,
    if_false, Bool.not_true, Bool.false_eq_true]
  by_cases hsaj : v.wmi = utf8 "SAJ"
  · have hbody := v.jaguarX400Body_bodyCode
    rw [show v.bodyCode ++ [0] = [v.position 6, v.position 7, 0] from rfl] at hbody
    simp only [hsaj, decide_true, Bool.not_true, Bool.false_eq_true, if_false, if_true]
    simp only [v.getD_array (show 3 < 17 by omega), v.getD_array (show 4 < 17 by omega),
      v.getD_array (show 5 < 17 by omega), v.getD_array (show 6 < 17 by omega),
      v.getD_array (show 7 < 17 by omega), v.getD_array (show 8 < 17 by omega),
      v.getD_array (show 9 < 17 by omega), v.getD_array (show 10 < 17 by omega),
      v.serial_array, hbody, jaguarX400Market, jaguarX400TransmissionSteering, jaguarX400Emission,
      jaguarX400PlantEngine, v.upperChar_position]
    rw [Vin.record, hsaj]
    rfl
  · simp only [hsaj, decide_false, Bool.not_false, if_true, if_false]
    rfl

/-- **The decoder**: parse the text, then look at the manufacturer. -/
theorem jaguarVinDecode_eq (vin : Option CString) (prior : JaguarVinDecode) :
    jaguarVinDecode vin (some prior) = match vin.bind Vin.parse with
      | none => (false, some JaguarVinDecode.zero)
      | some v => if v.wmi = utf8 "SAJ" then (true, some v.record) else (false, some v.rejected) := by
  cases vin with
  | none => rfl
  | some vin =>
    cases h : Vin.parse vin with
    | none =>
      rw [jaguarVinDecode_of_parse_none h]
      simp only [Option.bind_some, h]
    | some v =>
      rw [jaguarVinDecode_of_parse_some h]
      simp only [Option.bind_some, h]

/-- A VIN is accepted exactly when it parses and names Jaguar, and then its record is the
    canonical one. -/
theorem jaguarVinDecode_eq_true_iff {vin : Option CString} {prior d : JaguarVinDecode} :
    jaguarVinDecode vin (some prior) = (true, some d) ↔
      ∃ v, vin.bind Vin.parse = some v ∧ v.wmi = utf8 "SAJ" ∧ d = v.record := by
  rw [jaguarVinDecode_eq]
  cases h : vin.bind Vin.parse with
  | none => simp
  | some v =>
    by_cases hsaj : v.wmi = utf8 "SAJ"
    · simp [hsaj, eq_comm]
    · simp [hsaj]

/-- The caller's idiom `if (jaglink_jaguar_vin_decode(vin, &decoded))`: the record, if there is one.
    `stack` is what the uninitialised local record holds. -/
def decodedVin (stack : JaguarVinDecode) (vin : Option CString) : Option JaguarVinDecode :=
  match jaguarVinDecode vin (some stack) with
  | (true, some decoded) => some decoded
  | _ => none

/-- What the local record held does not matter. -/
theorem decodedVin_stack (stack stack' : JaguarVinDecode) (vin : Option CString) :
    decodedVin stack vin = decodedVin stack' vin := by
  rw [decodedVin, decodedVin, jaguarVinDecode_eq, jaguarVinDecode_eq]

/-- The caller's idiom is decoding with success. -/
theorem decodedVin_eq_some {stack d : JaguarVinDecode} {vin : Option CString} :
    decodedVin stack vin = some d ↔ jaguarVinDecode vin (some stack) = (true, some d) := by
  rw [decodedVin]
  constructor
  · intro h
    split at h
    · rename_i decoded hdecode
      rw [hdecode, Option.some.inj h]
    · cases h
  · intro h
    rw [h]

/-- The caller's idiom has a record exactly if the decoder says so. -/
theorem decodedVin_isSome {stack : JaguarVinDecode} {vin : Option CString} :
    (decodedVin stack vin).isSome = (jaguarVinDecode vin (some stack)).1 := by
  rw [decodedVin, jaguarVinDecode_eq]
  cases vin.bind Vin.parse with
  | none => rfl
  | some v => by_cases hsaj : v.wmi = utf8 "SAJ" <;> simp [hsaj]

/-! ## Which texts are accepted -/

/-- The upper-cased code at a position of a text, counted from 1. -/
def vinCode (vin : CString) (position : Nat) : UInt8 := upperChar (vin.charAt (position - 1))

/-- 17 characters, each of them legal after folding. -/
def VinText (vin : CString) : Prop :=
  vin.strlen = 17 ∧ ∀ i, i < 17 → VinChar (upperChar (vin.charAt i))

/-- A loop over the characters of a string is one over its bytes. -/
theorem forall_charAt_iff {s : CString} {P : UInt8 → Prop} :
    (∀ i, i < s.strlen → P (s.charAt i)) ↔ ∀ c ∈ s.bytes, P c := by
  conv_rhs => rw [← s.map_charAt_range]
  simp

/-- What is parsed is what looks like a VIN. -/
theorem Vin.parse_ne_none_iff {s : CString} : Vin.parse s ≠ none ↔ VinText s := by
  rw [Option.ne_none_iff_exists']
  constructor
  · rintro ⟨v, hv⟩
    obtain ⟨⟨hlen, hlegal⟩, -⟩ := Vin.parse_eq_some_iff.mp hv
    refine ⟨hlen, fun i hi => ?_⟩
    exact forall_charAt_iff (P := fun c => VinChar (upperChar c)).mpr hlegal i (by rw [hlen]; exact hi)
  · rintro ⟨hlen, hlegal⟩
    have hbytes : ∀ c ∈ s.bytes, VinChar (upperChar c) :=
      forall_charAt_iff.mp fun i hi => hlegal i (hlen ▸ hi)
    exact ⟨_, dif_pos ⟨hlen, (Vin.all_legal_iff s).mpr hbytes⟩⟩

/-- The positions of the parsed VIN are the folded ones of the text. -/
theorem Vin.position_of_parse {s : CString} {v : Vin} (h : Vin.parse s = some v) (n : Nat) :
    v.position n = vinCode s n := by
  have hchars := (Vin.parse_eq_some_iff.mp h).2
  rw [Vin.position, vinCode, CString.charAt, hchars, List.getD_eq_getElem?_getD,
    List.getD_eq_getElem?_getD, List.getElem?_map]
  cases s.bytes[n - 1]? <;> rfl

/-- What the decoder asks of an X400, with the lookups as membership in the tables. -/
theorem Vin.isX400_iff (v : Vin) : v.isX400 = true ↔
    (∃ row ∈ x400Markets, row.code = v.position 4) ∧
    (∃ row ∈ x400TransmissionSteering, row.code = v.position 5) ∧
    (∃ row ∈ x400Bodies, utf8 row.code = v.bodyCode) ∧
    (∃ row ∈ x400PlantEngines, row.code = v.position 11) ∧
    2001 ≤ x400ModelYear (v.position 10) ∧ x400ModelYear (v.position 10) ≤ 2009 := by
  simp only [Vin.isX400, Bool.and_eq_true, decide_eq_true_eq, Option.isSome_iff_ne_none,
    lookup_ne_none_iff]
  constructor
  · rintro ⟨⟨⟨⟨⟨hmarket, hts⟩, hbody⟩, hfirst⟩, hlast⟩, hpe⟩
    exact ⟨hmarket, hts, hbody, hpe, hfirst, hlast⟩
  · rintro ⟨hmarket, hts, hbody, hpe, hfirst, hlast⟩
    exact ⟨⟨⟨⟨⟨hmarket, hts⟩, hbody⟩, hfirst⟩, hlast⟩, hpe⟩

/-- Recognition looks at six positions only. -/
theorem Vin.isX400_congr {v w : Vin} (h : ∀ n ∈ [4, 5, 6, 7, 10, 11], v.position n = w.position n) :
    v.isX400 = w.isX400 := by
  have hbody : v.bodyCode = w.bodyCode := by
    rw [Vin.bodyCode, Vin.bodyCode, h 6 (by simp), h 7 (by simp)]
  rw [Vin.isX400, Vin.isX400, hbody, h 4 (by simp), h 5 (by simp), h 10 (by simp), h 11 (by simp)]

/-- **Acceptance and recognition.**  Exactly the Jaguar VINs are accepted; each table pointer of an
    accepted one is the only row with its code, or NULL if there is none; the X400 verdict asks for
    four known codes and a model year of the built-in profile, and for nothing else. -/
theorem jaguarVinDecode_accepts (vin : CString) (prior : JaguarVinDecode) :
    ((jaguarVinDecode (some vin) (some prior)).1 = true ↔
      VinText vin ∧ [vinCode vin 1, vinCode vin 2, vinCode vin 3] = utf8 "SAJ") ∧
    ∀ d, jaguarVinDecode (some vin) (some prior) = (true, some d) →
      PointsToOnly (·.code) x400Markets (vinCode vin 4) d.market ∧
      PointsToOnly (·.code) x400TransmissionSteering (vinCode vin 5) d.transmissionSteering ∧
      PointsToOnly (fun row => utf8 row.code) x400Bodies [vinCode vin 6, vinCode vin 7] d.body ∧
      PointsToOnly (·.code) x400Emissions (vinCode vin 8) d.emission ∧
      PointsToOnly (·.code) x400PlantEngines (vinCode vin 11) d.plantEngine ∧
      d.modelYear = x400ModelYear (vinCode vin 10) ∧
      (d.x400 = true ↔
        (∃ row ∈ x400Markets, row.code = vinCode vin 4) ∧
        (∃ row ∈ x400TransmissionSteering, row.code = vinCode vin 5) ∧
        (∃ row ∈ x400Bodies, utf8 row.code = [vinCode vin 6, vinCode vin 7]) ∧
        (∃ row ∈ x400PlantEngines, row.code = vinCode vin 11) ∧
        x400Profile.firstModelYear ≤ d.modelYear ∧ d.modelYear ≤ x400Profile.lastModelYear) ∧
      ∀ vin' prior' d', jaguarVinDecode (some vin') (some prior') = (true, some d') →
        (∀ n ∈ [4, 5, 6, 7, 10, 11], vinCode vin' n = vinCode vin n) → d'.x400 = d.x400 := by
  constructor
  · rw [jaguarVinDecode_eq, Option.bind_some, ← Vin.parse_ne_none_iff]
    cases h : Vin.parse vin with
    | none => simp
    | some v =>
      have hcode : [vinCode vin 1, vinCode vin 2, vinCode vin 3] = v.wmi := by
        simp only [v.wmi_eq, Vin.position_of_parse h]
      rw [hcode]
      by_cases hsaj : v.wmi = utf8 "SAJ" <;> simp [hsaj]
  · intro d hd
    obtain ⟨v, hv, -, rfl⟩ := jaguarVinDecode_eq_true_iff.mp hd
    have hcode := fun n => (Vin.position_of_parse hv n).symm
    have hbody : [vinCode vin 6, vinCode vin 7] = v.bodyCode := by rw [hcode, hcode]; rfl
    rw [hbody]
    simp only [hcode]
    refine ⟨lookup_pointsToOnly x400Markets_unique _,
      lookup_pointsToOnly x400TransmissionSteering_unique _,
      lookup_pointsToOnly x400Bodies_unique _, lookup_pointsToOnly x400Emissions_unique _,
      lookup_pointsToOnly x400PlantEngines_unique _, rfl, v.isX400_iff, ?_⟩
    intro vin' prior' d' hd' hagree
    obtain ⟨w, hw, -, rfl⟩ := jaguarVinDecode_eq_true_iff.mp hd'
    exact Vin.isX400_congr fun n hn => (Vin.position_of_parse hw n).trans (hagree n hn)

/-! ## Nothing of the VIN is lost -/

/-- The texts of a canonical record, concatenated in the order of the positions. -/
theorem Vin.record_concat (v : Vin) :
    (CString.read v.record.wmi).bytes ++ [v.record.marketCode, v.record.transmissionSteeringCode] ++
      (CString.read v.record.bodyCode).bytes ++
      [v.record.emissionCode, v.record.checkDigit, v.record.modelYearCode, v.record.plantEngineCode] ++
      (CString.read v.record.productionSerial).bytes = v.chars := by
  have hwmi : (CString.read v.record.wmi).bytes = v.wmi := v.read_part v.wmi_subset
  have hbody : (CString.read v.record.bodyCode).bytes = v.bodyCode := v.read_part v.bodyCode_subset
  have hserial : (CString.read v.record.productionSerial).bytes = v.serial :=
    v.read_part v.serial_subset
  rw [hwmi, hbody, hserial]
  conv_rhs => rw [v.chars_eq]
  simp [Vin.record]

/-- The VIN member of the record is the VIN. -/
theorem Vin.read_record_vin (v : Vin) : CString.read v.record.vin = v.toCString :=
  CString.read_append_nul v.toCString []

/-- **Decoding is lossless and stable.**  The stored codes put together are the stored VIN, which
    is the folded input; decoding the stored VIN gives the record back; and records distinguish
    texts exactly up to case. -/
theorem jaguarVinDecode_lossless :
    (∀ vin prior d, jaguarVinDecode (some vin) (some prior) = (true, some d) →
      (CString.read d.wmi).bytes ++ [d.marketCode, d.transmissionSteeringCode] ++
          (CString.read d.bodyCode).bytes ++
          [d.emissionCode, d.checkDigit, d.modelYearCode, d.plantEngineCode] ++
          (CString.read d.productionSerial).bytes = (CString.read d.vin).bytes ∧
      (CString.read d.vin).bytes = vin.bytes.map upperChar ∧
      ∀ other, jaguarVinDecode (some (CString.read d.vin)) (some other) = (true, some d)) ∧
    (∀ vin vin' prior prior', vin.bytes.map upperChar = vin'.bytes.map upperChar →
      jaguarVinDecode (some vin) (some prior) = jaguarVinDecode (some vin') (some prior')) ∧
    (∀ vin vin' prior prior' d, jaguarVinDecode (some vin) (some prior) = (true, some d) →
      jaguarVinDecode (some vin') (some prior') = (true, some d) →
      vin.bytes.map upperChar = vin'.bytes.map upperChar) := by
  refine ⟨?_, ?_, ?_⟩
  · intro vin prior d hd
    obtain ⟨v, hv, hsaj, rfl⟩ := jaguarVinDecode_eq_true_iff.mp hd
    have hchars := (Vin.parse_eq_some_iff.mp hv).2
    rw [v.record_concat, v.read_record_vin]
    refine ⟨rfl, hchars, fun other => ?_⟩
    exact jaguarVinDecode_eq_true_iff.mpr ⟨v, v.parse_toCString, hsaj, rfl⟩
  · intro vin vin' prior prior' hfold
    rw [jaguarVinDecode_eq, jaguarVinDecode_eq, Option.bind_some, Option.bind_some,
      Vin.parse_congr hfold]
  · intro vin vin' prior prior' d hd hd'
    obtain ⟨v, hv, -, rfl⟩ := jaguarVinDecode_eq_true_iff.mp hd
    obtain ⟨w, hw, -, heq⟩ := jaguarVinDecode_eq_true_iff.mp hd'
    have hchars : v.chars = w.chars := by
      rw [← v.record_concat, heq, w.record_concat]
    rw [← (Vin.parse_eq_some_iff.mp hv).2, ← (Vin.parse_eq_some_iff.mp hw).2, hchars]

/-- A VIN in small letters.  Its codes put together are its capitals, which are read, over whatever
    record, as the same vehicle. -/
theorem jaguarVinDecode_lossless_lowerCase :
    ∃ vin vin' d, vin.bytes = utf8 "sajac54k76xe00001" ∧ vin'.bytes = utf8 "SAJAC54K76XE00001" ∧
      jaguarVinDecode (some vin) (some JaguarVinDecode.zero) = (true, some d) ∧
      (CString.read d.wmi).bytes ++ [d.marketCode, d.transmissionSteeringCode] ++
          (CString.read d.bodyCode).bytes ++
          [d.emissionCode, d.checkDigit, d.modelYearCode, d.plantEngineCode] ++
          (CString.read d.productionSerial).bytes = vin'.bytes ∧
      (∀ other, jaguarVinDecode (some (CString.read d.vin)) (some other) = (true, some d)) ∧
      jaguarVinDecode (some vin') (some d) = (true, some d) := by
  let vin : CString := ⟨utf8 "sajac54k76xe00001", by decide⟩
  let vin' : CString := ⟨utf8 "SAJAC54K76XE00001", by decide⟩
  have hfold : vin.bytes.map upperChar = vin'.bytes ∧
      vin'.bytes.map upperChar = vin'.bytes := by decide
  obtain ⟨d, hd⟩ : ∃ d, jaguarVinDecode (some vin) (some JaguarVinDecode.zero) = (true, some d) :=
    ⟨((jaguarVinDecode (some vin) (some JaguarVinDecode.zero)).2).getD JaguarVinDecode.zero, by decide⟩
  obtain ⟨hlossless, hcase, -⟩ := jaguarVinDecode_lossless
  obtain ⟨hparts, hbytes, hstable⟩ := hlossless vin _ d hd
  refine ⟨vin, vin', d, rfl, rfl, hd, ?_, hstable, ?_⟩
  · rw [hparts, hbytes, hfold.1]
  · rw [← hcase vin vin' JaguarVinDecode.zero d (hfold.1.trans hfold.2.symm), hd]

/-! ## What a failure leaves behind -/

/-- Nothing but, possibly, the VIN text and the manufacturer is left of a failed decode. -/
structure JaguarVinDecode.Blank (d : JaguarVinDecode) : Prop where
  x400 : d.x400 = false
  market : d.market = none
  transmissionSteering : d.transmissionSteering = none
  body : d.body = none
  emission : d.emission = none
  plantEngine : d.plantEngine = none
  modelYear : d.modelYear = 0
  marketCode : d.marketCode = 0
  transmissionSteeringCode : d.transmissionSteeringCode = 0
  bodyCode : (CString.read d.bodyCode).bytes = []
  emissionCode : d.emissionCode = 0
  checkDigit : d.checkDigit = 0
  modelYearCode : d.modelYearCode = 0
  plantEngineCode : d.plantEngineCode = 0
  productionSerial : (CString.read d.productionSerial).bytes = []

/-- A cleared record tells nothing. -/
theorem JaguarVinDecode.zero_blank : JaguarVinDecode.zero.Blank := by
  constructor <;> rfl

/-- Nor does what is left of a VIN of another manufacturer. -/
theorem Vin.rejected_blank (v : Vin) : v.rejected.Blank := by
  constructor <;> rfl

/-- **Every exit leaves a determined record.**  The three verdicts agree, and a failed decode hides
    everything except a legal foreign VIN and its manufacturer. -/
theorem jaguarVinDecode_total (vin : Option CString) (prior : JaguarVinDecode) :
    ∃ result d, jaguarVinDecode vin (some prior) = (result, some d) ∧
      (∀ other, jaguarVinDecode vin (some other) = (result, some d)) ∧
      d.valid = result ∧ d.jaguarWmi = result ∧ (d.x400 = true → result = true) ∧
      (result = false → d.Blank ∧
        (∀ s, vin = some s → VinText s →
          (CString.read d.vin).bytes = s.bytes.map upperChar ∧
          (CString.read d.wmi).bytes = (s.bytes.map upperChar).take 3 ∧
          (CString.read d.wmi).bytes ≠ utf8 "SAJ") ∧
        ((¬∃ s, vin = some s ∧ VinText s) →
          (CString.read d.vin).bytes = [] ∧ (CString.read d.wmi).bytes = [])) := by
  have heq := jaguarVinDecode_eq vin
  cases hparse : vin.bind Vin.parse with
  | none =>
    simp only [hparse] at heq
    refine ⟨false, JaguarVinDecode.zero, heq prior, heq, rfl, rfl, ?_, fun _ => ?_⟩
    · intro hx400
      cases hx400
    refine ⟨JaguarVinDecode.zero_blank, ?_, fun _ => ⟨rfl, rfl⟩⟩
    rintro s rfl hs
    exact absurd hparse (Vin.parse_ne_none_iff.mpr hs)
  | some v =>
    simp only [hparse] at heq
    by_cases hsaj : v.wmi = utf8 "SAJ"
    · simp only [hsaj, if_true] at heq
      refine ⟨true, v.record, heq prior, heq, rfl, rfl, fun _ => rfl, ?_⟩
      intro hfalse
      cases hfalse
    · simp only [hsaj, if_false] at heq
      have hwmi : (CString.read v.rejected.wmi).bytes = v.wmi := v.read_part v.wmi_subset
      refine ⟨false, v.rejected, heq prior, heq, rfl, rfl, ?_, fun _ => ⟨v.rejected_blank, ?_, ?_⟩⟩
      · intro hx400
        cases hx400
      · rintro s rfl -
        have hchars := (Vin.parse_eq_some_iff.mp hparse).2
        rw [hwmi, ← hchars]
        exact ⟨v.read_part (List.Subset.refl _), rfl, hsaj⟩
      · -- a parsed text is a legal one
        intro hnone
        obtain ⟨s, rfl, hs⟩ := Option.bind_eq_some_iff.mp hparse
        exact absurd ⟨s, rfl, Vin.parse_ne_none_iff.mp (hs ▸ Option.some_ne_none v)⟩ hnone

end Jaglink
