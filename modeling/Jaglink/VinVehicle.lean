/-
  X400 VINs as vehicles.

  1. **Program** — `jaglink_jaguar_vin_decode` of `vin.c` on a fresh or a used record, as
     `jaguarVinDecode`.

  2. **Specification** — `X400Vehicle` is what an X400 VIN may say, in terms of the tables alone:
       - a row of each of the FOUR tables a VIN is refused for missing: market, transmission with
         steering, body, and plant with engine;
       - a model year of `x400Years`;
       - an emission code and a check digit, which may be any legal characters: the decoder looks
         the former up in `x400Emissions` but accepts a code without a row, and never computes the
         latter;
       - a serial of six legal characters.

     `ReadFrom x d` says that the record `d` has all of it, and that its emission row is the one
     under the vehicle's code, if there is one.

  3. **Result (`x400Vehicle_roundTrip`)** — every vehicle has a VIN, put together from the codes of
     its rows (`X400Vehicle.vin`); the decoder takes that VIN and reads the same vehicle from it,
     and every VIN it calls an X400 is the VIN of the one vehicle it reads.  So between them the
     four tables have neither a row that no VIN reaches nor two rows one VIN could mean.

  4. **The crux (`vin_fields`)** — cut at the borders of the decoder, the VIN put together falls
     into the codes it was put together from.  `exists_vin` is the converse, by
     `code_of_x400ModelYear` and by the lookups having found the rows of these very codes.
-/
import Jaglink.VinSummary

namespace Jaglink

open CLib FirstMatch

/-- What an X400 VIN says.  A VIN may have an emission code without a row, so here it is a character
    like the check digit. -/
structure X400Vehicle where
  market : Fin x400Markets.length
  rows : X400Rows
  emissionCode : UInt8
  checkDigit : UInt8
  serial : List UInt8
  length_serial : serial.length = 6
  emissionCode_legal : VinChar emissionCode
  checkDigit_legal : VinChar checkDigit
  serial_legal : ∀ c ∈ serial, VinChar c

namespace X400Vehicle

/-- The fields make the vehicle; the rest is what they satisfy. -/
theorem ext {x y : X400Vehicle} (hmarket : x.market = y.market) (hrows : x.rows = y.rows)
    (hemission : x.emissionCode = y.emissionCode) (hcheck : x.checkDigit = y.checkDigit)
    (hserial : x.serial = y.serial) : x = y := by
  cases x; cases y; cases hmarket; cases hrows; cases hemission; cases hcheck; cases hserial; rfl

/-! ## The VIN of a vehicle -/

/-- The code of a model year. -/
def yearCode (y : Fin x400Years.length) : UInt8 := ch '0' + (x400Years.get y - 2000).toUInt8

/-- The code of a year is read as that year. -/
theorem x400ModelYear_yearCode : ∀ y, x400ModelYear (yearCode y) = x400Years.get y := by
  decide

/-- The characters of a vehicle's VIN. -/
def chars (x : X400Vehicle) : List UInt8 :=
  utf8 "SAJ" ++ (x400Markets.get x.market).code :: (x400TransmissionSteering.get x.rows.1.2).code ::
    (utf8 (x400Bodies.get x.rows.1.1.2).code ++ x.emissionCode :: x.checkDigit ::
      yearCode x.rows.1.1.1 :: (x400PlantEngines.get x.rows.2).code :: x.serial)

/-- A closed text is checked at once. -/
theorem vinChar_of_all {l : List UInt8} (h : l.all (VinChar ·) = true) : ∀ c ∈ l, VinChar c :=
  fun c hc => of_decide_eq_true (List.all_eq_true.mp h c hc)

/-- Every code of the tables may stand in a VIN. -/
theorem codes_legal (x : X400Vehicle) : VinChar (x400Markets.get x.market).code ∧
    VinChar (x400TransmissionSteering.get x.rows.1.2).code ∧
    (∀ c ∈ utf8 (x400Bodies.get x.rows.1.1.2).code, VinChar c) ∧
    VinChar (yearCode x.rows.1.1.1) ∧ VinChar (x400PlantEngines.get x.rows.2).code := by
  have hmarket : ∀ i, VinChar (x400Markets.get i).code := by decide
  have hts : ∀ i, VinChar (x400TransmissionSteering.get i).code := by decide
  have hbody : ∀ i, (utf8 (x400Bodies.get i).code).all (VinChar ·) = true := by decide
  have hyear : ∀ y, VinChar (yearCode y) := by decide
  have hpe : ∀ i, VinChar (x400PlantEngines.get i).code := by decide
  exact ⟨hmarket _, hts _, vinChar_of_all (hbody _), hyear _, hpe _⟩

/-- A body code is two characters long. -/
theorem length_bodyCode (x : X400Vehicle) : (utf8 (x400Bodies.get x.rows.1.1.2).code).length = 2 :=
  (x400Bodies_code _ (List.get_mem _ _)).1

/-- The VIN of a vehicle: seventeen characters that may stand in one. -/
def vin (x : X400Vehicle) : Vin where
  chars := x.chars
  length_chars := by
    have hwmi : (utf8 "SAJ").length = 3 := by decide
    simp only [chars, List.length_append, List.length_cons, hwmi, x.length_bodyCode,
      x.length_serial, jaguarVinLength]
  legal := by
    obtain ⟨hmarket, hts, hbody, hyear, hpe⟩ := x.codes_legal
    have hwmi : (utf8 "SAJ").all (VinChar ·) = true := by decide
    intro c hc
    simp only [chars, List.mem_append, List.mem_cons] at hc
    rcases hc with hc | rfl | rfl | hc | rfl | rfl | rfl | rfl | hc
    · exact vinChar_of_all hwmi c hc
    · exact hmarket
    · exact hts
    · exact hbody c hc
    · exact x.emissionCode_legal
    · exact x.checkDigit_legal
    · exact hyear
    · exact hpe
    · exact x.serial_legal c hc

/-- The vehicle's VIN, cut at the field borders. -/
theorem vin_fields (x : X400Vehicle) :
    x.vin.wmi = utf8 "SAJ" ∧ x.vin.position 4 = (x400Markets.get x.market).code ∧
    x.vin.position 5 = (x400TransmissionSteering.get x.rows.1.2).code ∧
    x.vin.bodyCode = utf8 (x400Bodies.get x.rows.1.1.2).code ∧
    x.vin.position 8 = x.emissionCode ∧ x.vin.position 9 = x.checkDigit ∧
    x.vin.position 10 = yearCode x.rows.1.1.1 ∧
    x.vin.position 11 = (x400PlantEngines.get x.rows.2).code ∧ x.vin.serial = x.serial := by
  obtain ⟨c, c', hbody⟩ := List.length_eq_two.mp x.length_bodyCode
  have hwmi : utf8 "SAJ" = [ch 'S', ch 'A', ch 'J'] := by decide
  have hchars : x.vin.chars = ch 'S' :: ch 'A' :: ch 'J' :: (x400Markets.get x.market).code ::
      (x400TransmissionSteering.get x.rows.1.2).code :: c :: c' :: x.emissionCode ::
      x.checkDigit :: yearCode x.rows.1.1.1 :: (x400PlantEngines.get x.rows.2).code :: x.serial := by
    show x.chars = _
    rw [chars, hwmi, hbody]
    rfl
  simp only [Vin.wmi, Vin.position, Vin.bodyCode, Vin.serial, hchars, hwmi, hbody]
  exact ⟨rfl, rfl, rfl, rfl, rfl, rfl, rfl, rfl, rfl⟩

/-! ## What the decoder reads -/

/-- The record is the one of this vehicle. -/
structure ReadFrom (x : X400Vehicle) (d : JaguarVinDecode) : Prop where
  market : d.market = some x.market
  modelYear : d.modelYear = x400Years.get x.rows.1.1.1
  body : d.body = some x.rows.1.1.2
  transmissionSteering : d.transmissionSteering = some x.rows.1.2
  plantEngine : d.plantEngine = some x.rows.2
  emission : d.emission = jaguarX400Emission x.emissionCode
  emissionCode : d.emissionCode = x.emissionCode
  checkDigit : d.checkDigit = x.checkDigit
  productionSerial : d.productionSerial = x.serial ++ [0]

/-- The record of a vehicle's VIN is read from it, table by table. -/
theorem readFrom_record (x : X400Vehicle) : x.ReadFrom x.vin.record := by
  obtain ⟨-, hmarket, hts, hbody, hemission, hcheck, hyear, hpe, hserial⟩ := x.vin_fields
  constructor
  case market =>
    show lookup (·.code) x400Markets (x.vin.position 4) = _
    rw [hmarket]
    exact lookup_self x400Markets_unique _
  case modelYear =>
    show x400ModelYear (x.vin.position 10) = _
    rw [hyear]
    exact x400ModelYear_yearCode _
  case body =>
    show lookup (fun row => utf8 row.code) x400Bodies x.vin.bodyCode = _
    rw [hbody]
    exact lookup_self x400Bodies_unique _
  case transmissionSteering =>
    show lookup (·.code) x400TransmissionSteering (x.vin.position 5) = _
    rw [hts]
    exact lookup_self x400TransmissionSteering_unique _
  case plantEngine =>
    show lookup (·.code) x400PlantEngines (x.vin.position 11) = _
    rw [hpe]
    exact lookup_self x400PlantEngines_unique _
  case emission =>
    show lookup (·.code) x400Emissions (x.vin.position 8) = _
    rw [hemission, jaguarX400Emission, x.emissionCode_legal.upperChar]
  case emissionCode => exact hemission
  case checkDigit => exact hcheck
  case productionSerial => exact congrArg (· ++ [0]) hserial

/-- A vehicle's VIN has all the decoder asks of an X400. -/
theorem isX400_vin (x : X400Vehicle) : x.vin.isX400 = true := by
  have hyears : ∀ y, 2001 ≤ x400Years.get y ∧ x400Years.get y ≤ 2009 := by decide
  obtain ⟨hfirst, hlast⟩ := hyears x.rows.1.1.1
  have hread := x.readFrom_record
  have hmarket : lookup (·.code) x400Markets (x.vin.position 4) = some x.market := hread.market
  have hts : lookup (·.code) x400TransmissionSteering (x.vin.position 5) = some x.rows.1.2 :=
    hread.transmissionSteering
  have hbody : lookup (fun row => utf8 row.code) x400Bodies x.vin.bodyCode = some x.rows.1.1.2 :=
    hread.body
  have hpe : lookup (·.code) x400PlantEngines (x.vin.position 11) = some x.rows.2 :=
    hread.plantEngine
  have hyear : x400ModelYear (x.vin.position 10) = x400Years.get x.rows.1.1.1 := hread.modelYear
  rw [Vin.isX400, hmarket, hts, hbody, hpe, hyear]
  simp only [Option.isSome_some, hfirst, hlast, decide_true, Bool.and_true]

/-- A record is that of one vehicle at most. -/
theorem ReadFrom.unique {x y : X400Vehicle} {d : JaguarVinDecode} (hx : x.ReadFrom d)
    (hy : y.ReadFrom d) : x = y := by
  have hyears : ∀ i j : Fin x400Years.length, x400Years.get i = x400Years.get j → i = j := by
    decide
  have hyear := hyears _ _ (hx.modelYear.symm.trans hy.modelYear)
  have hbody := Option.some.inj (hx.body.symm.trans hy.body)
  have hts := Option.some.inj (hx.transmissionSteering.symm.trans hy.transmissionSteering)
  have hpe := Option.some.inj (hx.plantEngine.symm.trans hy.plantEngine)
  refine ext (Option.some.inj (hx.market.symm.trans hy.market)) ?_
    (hx.emissionCode.symm.trans hy.emissionCode) (hx.checkDigit.symm.trans hy.checkDigit)
    (List.append_cancel_right (hx.productionSerial.symm.trans hy.productionSerial))
  exact Prod.ext (Prod.ext (Prod.ext hyear hbody) hts) hpe

/-- Every X400 VIN is the VIN of a vehicle. -/
theorem exists_vin {v : Vin} (hwmi : v.wmi = utf8 "SAJ") (h : v.isX400 = true) :
    ∃ x : X400Vehicle, x.vin = v := by
  obtain ⟨hmarket, -⟩ := v.isX400_iff.mp h
  obtain ⟨market, hm⟩ := Option.ne_none_iff_exists'.mp (lookup_ne_none_iff.mpr hmarket)
  obtain ⟨rows, hrows⟩ := v.exists_rows h
  have hlegal : ∀ n, 1 ≤ n → n ≤ 17 → VinChar (v.position n) :=
    fun n h1 h17 => v.legal _ (v.position_mem h1 h17)
  refine ⟨{
    market := market
    rows := rows
    emissionCode := v.position 8
    checkDigit := v.position 9
    serial := v.serial
    length_serial := congrArg List.length v.serial_eq
    emissionCode_legal := hlegal 8 (by omega) (by omega)
    checkDigit_legal := hlegal 9 (by omega) (by omega)
    serial_legal := fun c hc => v.legal c (v.serial_subset hc) }, Vin.ext ?_⟩
  -- a known code is the code of its row
  have hyear : yearCode rows.1.1.1 = v.position 10 := by
    have hknown : x400ModelYear (v.position 10) ≠ 0 := by
      rw [hrows.year]
      exact (show ∀ i : Fin x400Years.length, x400Years.get i ≠ 0 by decide) _
    rw [code_of_x400ModelYear hknown, hrows.year]
    rfl
  have hts : (x400TransmissionSteering.get rows.1.2).code = v.position 5 :=
    (lookup_eq_some_iff.mp hrows.transmissionSteering).1
  have hbody : utf8 (x400Bodies.get rows.1.1.2).code = v.bodyCode :=
    (lookup_eq_some_iff.mp hrows.body).1
  have hpe : (x400PlantEngines.get rows.2).code = v.position 11 :=
    (lookup_eq_some_iff.mp hrows.plantEngine).1
  have hmarketcode : (x400Markets.get market).code = v.position 4 := (lookup_eq_some_iff.mp hm).1
  refine Eq.trans ?_ v.chars_eq.symm
  show chars _ = _
  simp only [chars, hyear, hts, hbody, hpe, hmarketcode, hwmi]

/-- **The decoder reads vehicles.**  A vehicle is a row of each of the four required tables, a model
    year, any legal emission code and check digit, and a serial.  Every vehicle's VIN is accepted as
    an X400 and read as that vehicle, with the emission row of its code if there is one; every text
    accepted as an X400 is, up to case, the VIN of the vehicle read from it, and no other vehicle is
    read from it. -/
theorem x400Vehicle_roundTrip (prior : JaguarVinDecode) :
    (∀ x : X400Vehicle, ∃ d, jaguarVinDecode (some x.vin.toCString) (some prior) = (true, some d) ∧
      d.x400 = true ∧ x.ReadFrom d) ∧
    ∀ vin d, jaguarVinDecode (some vin) (some prior) = (true, some d) → d.x400 = true →
      ∃ x : X400Vehicle, x.ReadFrom d ∧ x.vin.chars = vin.bytes.map upperChar ∧
        ∀ y : X400Vehicle, y.ReadFrom d → y = x := by
  constructor
  · intro x
    refine ⟨x.vin.record, ?_, x.isX400_vin, x.readFrom_record⟩
    exact jaguarVinDecode_eq_true_iff.mpr ⟨x.vin, Vin.parse_toCString _, x.vin_fields.1, rfl⟩
  · intro vin d hdecode hx400
    obtain ⟨v, hparse, hwmi, rfl⟩ := jaguarVinDecode_eq_true_iff.mp hdecode
    obtain ⟨x, rfl⟩ := exists_vin hwmi hx400
    have hparse : Vin.parse vin = some x.vin := hparse
    exact ⟨x, x.readFrom_record, (Vin.parse_eq_some_iff.mp hparse).2,
      fun y hy => hy.unique x.readFrom_record⟩

end X400Vehicle

end Jaglink
