/-
  What the two faces say about a decoded VIN.

  1. **Programs** — the Linux face prints a decoded VIN one row a field, the Apple face as four
     texts. Both read the same record.

  2. **Specification** — the rows are enough to write the texts: `Card.platformText` and its three
     siblings put the Apple texts together from the values of the Linux card, found by their labels
     (`Card.value`).

  3. **Result (`identity_of_card`)** — for every accepted VIN, whether or not its codes are known,
     these are the Apple texts; and none depends on what the card's local record held.

  4. **The crux (`value_appendVehicleIdentity`)** — a label occurs once on the card, so the value
     under it is that of its field, and a field without a row has no value.  The texts of the tables
     fit the 160 bytes of the card's buffer (`bodyTexts`, `plantEngineTexts`, `assemblyTexts`) and
     pass whole through Apple's C strings (`utf8_serial`).
-/
import Jaglink.FaceAgreement

namespace Jaglink

open CLib FirstMatch

variable {Reading : Type} {link : LinkApi}

/-! ## Texts of the Apple face -/

/-- VIN characters are ASCII. -/
theorem VinChar.toNat_lt {c : UInt8} (h : VinChar c) : c.toNat < 128 := by
  obtain ⟨hletter | hletter, -⟩ := h
  · simp only [isdigit, Bool.and_eq_true, decide_eq_true_eq] at hletter
    exact Nat.lt_of_le_of_lt (UInt8.le_iff_toNat_le.mp hletter.2) (by decide)
  · simp only [isupper, Bool.and_eq_true, decide_eq_true_eq] at hletter
    exact Nat.lt_of_le_of_lt (UInt8.le_iff_toNat_le.mp hletter.2) (by decide)

/-- The serial is ASCII, so both faces have the same bytes of it. -/
theorem utf8_serial (v : Vin) :
    utf8 (jagLinkStringFromCString (some (CString.read v.record.productionSerial))) = v.serial := by
  have hread : (CString.read v.record.productionSerial).bytes = v.serial :=
    v.read_part v.serial_subset
  rw [utf8_jagLinkStringFromCString_ascii, hread]
  intro b hb
  rw [hread] at hb
  exact (v.legal b (v.serial_subset hb)).toNat_lt

/-! ## Values of a card -/

/-- The value a row shows under a label. -/
def CardRow.value (label : String) : CardRow Reading → Option Text
  | .detail l (.text t) => if l = utf8 label then some t else none
  | _ => none

/-- The value a card shows under a label. -/
def Card.value (label : String) (card : Card Reading) : Option Text :=
  card.rows.findSome? (CardRow.value label)

/-- A value under one label. -/
def offer (label l : String) (t : Text) : Option Text := if l = label then some t else none

/-- A row has a value under its own label. -/
@[simp] theorem value_textDetail (label l : String) (t : Text) :
    (textDetail l t : CardRow Reading).value label = offer label l t := by
  by_cases h : l = label
  · subst h
    simp [textDetail, CardRow.value, offer]
  · have hne : utf8 l ≠ utf8 label := fun he => h (utf8_inj he)
    simp [textDetail, CardRow.value, offer, h, hne]

/-- Reading a value passes over the rows with other labels. -/
theorem findSome?_rows (label l : String) (t : Text) (rows : List (CardRow Reading)) :
    (textDetail l t :: rows).findSome? (CardRow.value label) =
      (offer label l t).or (rows.findSome? (CardRow.value label)) := by
  rw [List.findSome?_cons, value_textDetail]
  cases offer label l t <;> rfl

/-! ## The four texts -/

/-- What stands between the parts of a text. -/
def separator : Text := utf8 " · "

/-- The platform, with the model year of a confirmed X400, from the rows of the card. -/
def Card.platformText (card : Card Reading) : Text :=
  if card.value "Platform" = some (utf8 "X400 · X-TYPE") then
    utf8 "Jaguar X-TYPE · X400 · " ++ (card.value "Model year").getD []
  else utf8 "Jaguar VIN decoded · X400 profile not confirmed"

/-- Body, drivetrain, transmission and steering, as far as the card has them. -/
def Card.configurationText (card : Card Reading) : Text :=
  match card.value "Body", card.value "Drivetrain", card.value "Transmission",
    card.value "Steering" with
  | some body, some drivetrain, some transmission, some steering =>
    body ++ separator ++ drivetrain ++ separator ++ transmission ++ separator ++ steering
  | _, _, _, _ => utf8 "X400 configuration codes not fully recognised"

/-- Engine, fuel, displacement and power. -/
def Card.powertrainText (card : Card Reading) : Text :=
  match card.value "Engine", card.value "Fuel", card.value "Displacement",
    card.value "Catalogue power" with
  | some engine, some fuel, some displacement, some power =>
    engine ++ separator ++ fuel ++ separator ++ displacement ++ separator ++ power
  | _, _, _, _ => utf8 "Engine-line code not yet catalogued"

/-- Assembly, if the card has it, and serial. -/
def Card.buildText (card : Card Reading) : Text :=
  let serial := (card.value "Production serial").getD []
  match card.value "Assembly" with
  | some assembly => assembly ++ utf8 " · serial " ++ serial
  | none => utf8 "Production serial " ++ serial

/-! ## The rows of a decoded VIN -/

/-- A value of a row that is left out without `p`. -/
def offerIf (p : Prop) [Decidable p] (label l : String) (t : Text) : Option Text :=
  if p then offer label l t else none

/-- A row that may be missing has no value under another label. -/
theorem offerIf_other {p : Prop} [Decidable p] {label l : String} (h : l ≠ label) (t : Text) :
    offerIf p label l t = none := by
  rw [offerIf, offer, if_neg h, ite_self]

/-- A search passes over it, or finds it. -/
theorem findSome?_rowIf {p : Prop} [Decidable p] (label l : String) (t : Text) :
    (if p then [textDetail l t] else [] : List (CardRow Reading)).findSome? (CardRow.value label) =
      offerIf p label l t := by
  rw [offerIf]
  split <;> simp

/-- What the code rows show under a label, group by group. -/
theorem value_decodedCodeRows (d : JaguarVinDecode) (label : String) :
    (decodedCodeRows d : List (CardRow Reading)).findSome? (CardRow.value label) =
      (d.market.elim none fun market =>
        offer label "Market / restraint" (utf8 (x400Markets.get market).market)).or
      ((d.body.elim (offer label "Body code" (CString.read d.bodyCode).bytes) fun body =>
        offer label "Body"
          (formatted 160 (utf8 (jaguarBodyStyleName (x400Bodies.get body).bodyStyle) ++
            utf8 " · " ++ utf8 (x400Bodies.get body).seriesClass))).or
      ((offerIf (d.modelYear ≠ 0) label "Model year"
        (formatted 160 (decimal d.modelYear.toNat))).or
      ((d.transmissionSteering.elim none fun ts =>
        (offer label "Drivetrain"
          (utf8 (jaguarDrivetrainName (x400TransmissionSteering.get ts).drivetrain))).or
        ((offer label "Transmission"
          (utf8 (jaguarTransmissionName (x400TransmissionSteering.get ts).transmission))).or
        (offer label "Steering"
          (utf8 (jaguarSteeringName (x400TransmissionSteering.get ts).steering))))).or
      ((d.plantEngine.elim
        (offer label "Plant / engine-line code" (CString.read [d.plantEngineCode, 0]).bytes) fun pe =>
        (offer label "Engine" (utf8 (x400PlantEngines.get pe).engineDescription)).or
        ((offer label "Engine family" (utf8 (x400PlantEngines.get pe).engineFamily)).or
        ((offer label "Fuel" (utf8 (jaguarFuelTypeName (x400PlantEngines.get pe).fuel))).or
        ((offer label "Displacement"
          (formatted 160 (decimal (x400PlantEngines.get pe).displacementCc ++ utf8 " cc"))).or
        ((offerIf ((x400PlantEngines.get pe).ratedPowerKw ≠ 0) label "Catalogue power"
          (formatted 160 (decimal (x400PlantEngines.get pe).ratedPowerKw ++ utf8 " kW"))).or
        (offer label "Assembly" (formatted 160 (utf8 (x400PlantEngines.get pe).assemblyPlant ++
          utf8 ", " ++ utf8 (x400PlantEngines.get pe).assemblyCountry)))))))).or
      ((d.emission.elim (offer label "Emissions code" (CString.read [d.emissionCode, 0]).bytes)
        fun emission => offer label "Emissions"
          (formatted 160 (utf8 "ECS " ++ decimal (x400Emissions.get emission).ecsNumber))).or
      (offer label "Production serial" (CString.read d.productionSerial).bytes)))))) := by
  rw [decodedCodeRows]
  simp only [List.findSome?_append, Option.or_assoc]
  refine congrArg₂ _ ?market (congrArg₂ _ ?body (congrArg₂ _ ?year (congrArg₂ _
    ?transmissionSteering (congrArg₂ _ ?plantEngine (congrArg₂ _ ?emission ?serial)))))
  case market => cases d.market <;> simp
  case body => cases d.body <;> simp
  case year => exact findSome?_rowIf label _ _
  case transmissionSteering => cases d.transmissionSteering <;> simp [findSome?_rows]
  case plantEngine =>
    cases d.plantEngine with
    | none => simp
    | some pe =>
      simp only [List.findSome?_append, findSome?_rows, findSome?_rowIf, List.findSome?_nil,
        Option.or_none, Option.or_assoc, Option.elim_some]
  case emission => cases d.emission <;> simp
  case serial => simp

/-! ## The card of a decoded VIN -/

section Card

variable {stack : JaguarVinDecode} {context : JaglinkLinuxContext link} {d : JaguarVinDecode}

/-- What the identity card shows under a label. -/
theorem value_appendVehicleIdentity (hd : decodedVin stack (vehicleVin context) = some d) :
    ∃ knowledge, ∀ label, (appendVehicleIdentity stack context).value label =
      (offer label "VIN" (CString.read d.vin).bytes).or
      ((offer label "Manufacturer"
        (if d.jaguarWmi then utf8 "Jaguar · SAJ" else (CString.read d.wmi).bytes)).or
      ((offer label "Platform"
        (if d.x400 then utf8 "X400 · X-TYPE" else utf8 "Jaguar VIN · X400 not confirmed")).or
      (((decodedCodeRows d : List (CardRow link.Reading)).findSome? (CardRow.value label)).or
      (offer label "X400 knowledge" knowledge)))) := by
  simp only [Card.value, appendVehicleIdentity, hd, decodedVinRows, jaguarX400Profile,
    List.findSome?_append, findSome?_rows, List.findSome?_nil, Option.or_none, Option.or_assoc]
  exact ⟨_, fun _ => rfl⟩

/-- An optional row without the label offers nothing. -/
theorem elim_none {α β : Type} (o : Option α) : (o.elim none fun _ => (none : Option β)) = none := by
  cases o <;> rfl

/-- An optional row with the label offers its text. -/
theorem elim_some {α β : Type} (o : Option α) (f : α → β) :
    (o.elim none fun a => some (f a)) = o.map f := by
  cases o <;> rfl

/-- A label that only code rows have. -/
theorem value_code (hd : decodedVin stack (vehicleVin context) = some d) {label : String}
    (h : label ∉ ["VIN", "Manufacturer", "Platform", "X400 knowledge"]) :
    (appendVehicleIdentity stack context).value label =
      (decodedCodeRows d : List (CardRow link.Reading)).findSome? (CardRow.value label) := by
  obtain ⟨knowledge, hvalue⟩ := value_appendVehicleIdentity hd
  have hother : ∀ l ∈ ["VIN", "Manufacturer", "Platform", "X400 knowledge"], ∀ t,
      offer label l t = none := by
    intro l hl t
    refine if_neg fun he => h ?_
    rwa [← he]
  rw [hvalue, hother "VIN" (by simp), hother "Manufacturer" (by simp), hother "Platform" (by simp),
    hother "X400 knowledge" (by simp)]
  simp

/-- The card has the platform of every decoded VIN. -/
theorem value_platform (hd : decodedVin stack (vehicleVin context) = some d) :
    (appendVehicleIdentity stack context).value "Platform" = some
      (if d.x400 then utf8 "X400 · X-TYPE" else utf8 "Jaguar VIN · X400 not confirmed") := by
  obtain ⟨knowledge, hvalue⟩ := value_appendVehicleIdentity hd
  rw [hvalue]
  simp only [offer, String.reduceEq, reduceIte, Option.none_or, Option.some_or]

/-- The card has the model year where that is known. -/
theorem value_modelYear (hd : decodedVin stack (vehicleVin context) = some d) :
    (appendVehicleIdentity stack context).value "Model year" =
      offerIf (d.modelYear ≠ 0) "Model year" "Model year"
        (formatted 160 (decimal d.modelYear.toNat)) := by
  rw [value_code hd (by decide), value_decodedCodeRows]
  simp only [offer, String.reduceEq, reduceIte, offerIf_other, ne_eq, not_false_eq_true]
  simp only [Option.or_none, Option.none_or, elim_none]

/-- The card has the parts of the configuration where the decoder found their rows. -/
theorem value_configuration (hd : decodedVin stack (vehicleVin context) = some d) :
    (appendVehicleIdentity stack context).value "Body" = (d.body.map fun body =>
      formatted 160 (utf8 (jaguarBodyStyleName (x400Bodies.get body).bodyStyle) ++
        utf8 " · " ++ utf8 (x400Bodies.get body).seriesClass)) ∧
    (appendVehicleIdentity stack context).value "Drivetrain" = (d.transmissionSteering.map fun ts =>
      utf8 (jaguarDrivetrainName (x400TransmissionSteering.get ts).drivetrain)) ∧
    (appendVehicleIdentity stack context).value "Transmission" = (d.transmissionSteering.map fun ts =>
      utf8 (jaguarTransmissionName (x400TransmissionSteering.get ts).transmission)) ∧
    (appendVehicleIdentity stack context).value "Steering" = (d.transmissionSteering.map fun ts =>
      utf8 (jaguarSteeringName (x400TransmissionSteering.get ts).steering)) := by
  refine ⟨?_, ?_, ?_, ?_⟩
  all_goals
    rw [value_code hd (by decide), value_decodedCodeRows]
    simp only [offer, String.reduceEq, reduceIte, offerIf_other, ne_eq, not_false_eq_true]
    simp only [Option.or_none, Option.none_or, elim_none, elim_some]

/-- The card has the parts of the powertrain where the decoder found the engine. -/
theorem value_powertrain (hd : decodedVin stack (vehicleVin context) = some d) :
    (appendVehicleIdentity stack context).value "Engine" = (d.plantEngine.map fun pe =>
      utf8 (x400PlantEngines.get pe).engineDescription) ∧
    (appendVehicleIdentity stack context).value "Fuel" = (d.plantEngine.map fun pe =>
      utf8 (jaguarFuelTypeName (x400PlantEngines.get pe).fuel)) ∧
    (appendVehicleIdentity stack context).value "Displacement" = (d.plantEngine.map fun pe =>
      formatted 160 (decimal (x400PlantEngines.get pe).displacementCc ++ utf8 " cc")) ∧
    (appendVehicleIdentity stack context).value "Catalogue power" = (d.plantEngine.elim none fun pe =>
      offerIf ((x400PlantEngines.get pe).ratedPowerKw ≠ 0) "Catalogue power" "Catalogue power"
        (formatted 160 (decimal (x400PlantEngines.get pe).ratedPowerKw ++ utf8 " kW"))) := by
  refine ⟨?_, ?_, ?_, ?_⟩
  all_goals
    rw [value_code hd (by decide), value_decodedCodeRows]
    simp only [offer, String.reduceEq, reduceIte, offerIf_other, ne_eq, not_false_eq_true]
    simp only [Option.or_none, Option.none_or, elim_none, elim_some]

/-- The card has the assembly where the decoder found the plant, and always the serial. -/
theorem value_build (hd : decodedVin stack (vehicleVin context) = some d) :
    (appendVehicleIdentity stack context).value "Assembly" = (d.plantEngine.map fun pe =>
      formatted 160 (utf8 (x400PlantEngines.get pe).assemblyPlant ++ utf8 ", " ++
        utf8 (x400PlantEngines.get pe).assemblyCountry)) ∧
    (appendVehicleIdentity stack context).value "Production serial" =
      some (CString.read d.productionSerial).bytes := by
  refine ⟨?_, ?_⟩
  all_goals
    rw [value_code hd (by decide), value_decodedCodeRows]
    simp only [offer, String.reduceEq, reduceIte, offerIf_other, ne_eq, not_false_eq_true]
    simp only [Option.or_none, Option.none_or, elim_none, elim_some]

/-! ## The texts of a decoded VIN -/

/-- Apple's platform text is the one read from the card. -/
theorem platformText_eq (hd : decodedVin stack (vehicleVin context) = some d)
    (hyear : d.x400 = true → d.modelYear ≠ 0) :
    utf8 (decodedIdentity d).platform = (appendVehicleIdentity stack context).platformText := by
  have hother : utf8 "Jaguar VIN · X400 not confirmed" ≠ utf8 "X400 · X-TYPE" := by decide
  rw [Card.platformText, value_platform hd, value_modelYear hd]
  cases hx400 : d.x400 with
  | false => simp [decodedIdentity, hx400, hother]
  | true =>
    have hfits : formatted 160 (decimal d.modelYear.toNat) = decimal d.modelYear.toNat := by
      refine formatted_fits (Nat.lt_of_le_of_lt (length_decimal_le (k := 5) (by decide) ?_) (by decide))
        (decimal_nul_free _)
      exact Nat.lt_trans d.modelYear.toNat_lt (by decide)
    have htext : (decodedIdentity d).platform =
        "Jaguar X-TYPE · X400 · " ++ toString d.modelYear.toNat := by
      rw [decodedIdentity, hx400, if_pos rfl]
    rw [htext, utf8_append, utf8_toString]
    simp [offerIf, offer, hyear hx400, hfits]

/-- Nothing of a body row is cut off. -/
theorem bodyTexts : ∀ i, formatted 160 (utf8 (jaguarBodyStyleName (x400Bodies.get i).bodyStyle) ++
      utf8 " · " ++ utf8 (x400Bodies.get i).seriesClass) =
        utf8 (jaguarBodyStyleName (x400Bodies.get i).bodyStyle) ++ utf8 " · " ++
          utf8 (x400Bodies.get i).seriesClass ∧
    (0 : UInt8) ∉ utf8 (jaguarBodyStyleName (x400Bodies.get i).bodyStyle) ∧
    (0 : UInt8) ∉ utf8 (x400Bodies.get i).seriesClass := by
  decide

/-- The texts of a drivetrain row pass through a C string whole. -/
theorem transmissionSteeringTexts : ∀ i,
    (0 : UInt8) ∉ utf8 (jaguarDrivetrainName (x400TransmissionSteering.get i).drivetrain) ∧
    (0 : UInt8) ∉ utf8 (jaguarTransmissionName (x400TransmissionSteering.get i).transmission) ∧
    (0 : UInt8) ∉ utf8 (jaguarSteeringName (x400TransmissionSteering.get i).steering) := by
  decide

/-- Apple's configuration text is the one read from the card. -/
theorem configurationText_eq (hd : decodedVin stack (vehicleVin context) = some d) :
    utf8 (decodedIdentity d).configuration =
      (appendVehicleIdentity stack context).configurationText := by
  obtain ⟨hbody, hdrivetrain, htransmission, hsteering⟩ := value_configuration hd
  rw [Card.configurationText, hbody, hdrivetrain, htransmission, hsteering, decodedIdentity]
  cases d.body with
  | none => rfl
  | some body =>
    cases d.transmissionSteering with
    | none => rfl
    | some ts =>
      obtain ⟨hwhole, hstyle, hseries⟩ := bodyTexts body
      obtain ⟨hdrive, htrans, hsteer⟩ := transmissionSteeringTexts ts
      simp only [Option.map_some, hwhole, utf8_append, utf8_jagLinkStringFromCString_text hstyle,
        utf8_jagLinkStringFromCString_text hseries, utf8_jagLinkStringFromCString_text hdrive,
        utf8_jagLinkStringFromCString_text htrans, utf8_jagLinkStringFromCString_text hsteer, separator]

/-- Nothing of an engine row is cut off, and every engine has a rated power. -/
theorem plantEngineTexts : ∀ i,
    (0 : UInt8) ∉ utf8 (x400PlantEngines.get i).engineDescription ∧
    (0 : UInt8) ∉ utf8 (jaguarFuelTypeName (x400PlantEngines.get i).fuel) ∧
    formatted 160 (decimal (x400PlantEngines.get i).displacementCc ++ utf8 " cc") =
      decimal (x400PlantEngines.get i).displacementCc ++ utf8 " cc" ∧
    (x400PlantEngines.get i).ratedPowerKw ≠ 0 ∧
    formatted 160 (decimal (x400PlantEngines.get i).ratedPowerKw ++ utf8 " kW") =
      decimal (x400PlantEngines.get i).ratedPowerKw ++ utf8 " kW" := by
  decide

/-- Apple's powertrain text is the one read from the card. -/
theorem powertrainText_eq (hd : decodedVin stack (vehicleVin context) = some d) :
    utf8 (decodedIdentity d).powertrain = (appendVehicleIdentity stack context).powertrainText := by
  obtain ⟨hengine, hfuel, hdisplacement, hpower⟩ := value_powertrain hd
  rw [Card.powertrainText, hengine, hfuel, hdisplacement, hpower, decodedIdentity]
  cases d.plantEngine with
  | none => rfl
  | some pe =>
    obtain ⟨hdescription, hkind, hcc, hrated, hkw⟩ := plantEngineTexts pe
    have hunits : utf8 " cc · " = utf8 " cc" ++ utf8 " · " := by decide
    have hoffer : offerIf ((x400PlantEngines.get pe).ratedPowerKw ≠ 0) "Catalogue power"
        "Catalogue power" (formatted 160 (decimal (x400PlantEngines.get pe).ratedPowerKw ++
          utf8 " kW")) = some (decimal (x400PlantEngines.get pe).ratedPowerKw ++ utf8 " kW") := by
      rw [offerIf, if_pos hrated, offer, if_pos rfl, hkw]
    simp only [Option.map_some, Option.elim_some, hoffer, hcc, utf8_append, utf8_toString,
      utf8_jagLinkStringFromCString_text hdescription, utf8_jagLinkStringFromCString_text hkind,
      separator, hunits, List.append_assoc]

/-- The assembly of every engine row fits the buffer and passes through a C string whole. -/
theorem assemblyTexts : ∀ i, formatted 160 (utf8 (x400PlantEngines.get i).assemblyPlant ++
      utf8 ", " ++ utf8 (x400PlantEngines.get i).assemblyCountry) =
        utf8 (x400PlantEngines.get i).assemblyPlant ++ utf8 ", " ++
          utf8 (x400PlantEngines.get i).assemblyCountry ∧
    (0 : UInt8) ∉ utf8 (x400PlantEngines.get i).assemblyPlant ∧
    (0 : UInt8) ∉ utf8 (x400PlantEngines.get i).assemblyCountry := by
  decide

/-- Apple's build text is the one read from the card. -/
theorem buildText_eq (hd : decodedVin stack (vehicleVin context) = some d)
    (hserial : utf8 (jagLinkStringFromCString (some (CString.read d.productionSerial))) =
      (CString.read d.productionSerial).bytes) :
    utf8 (decodedIdentity d).build = (appendVehicleIdentity stack context).buildText := by
  obtain ⟨hassembly, hvalue⟩ := value_build hd
  rw [Card.buildText, hassembly, hvalue, decodedIdentity]
  cases d.plantEngine with
  | none => simp only [Option.map_none, Option.getD_some, utf8_append, hserial]
  | some pe =>
    obtain ⟨hwhole, hplant, hcountry⟩ := assemblyTexts pe
    simp only [Option.map_some, Option.getD_some, hwhole, utf8_append, hserial,
      utf8_jagLinkStringFromCString_text hplant, utf8_jagLinkStringFromCString_text hcountry]

end Card

/-- The texts are put together from the values of the card. -/
structure Card.Tells (card : Card link.Reading) (identity : VehicleIdentity) : Prop where
  platform : utf8 identity.platform = card.platformText
  configuration : utf8 identity.configuration = card.configurationText
  powertrain : utf8 identity.powertrain = card.powertrainText
  build : utf8 identity.build = card.buildText

/-- The card of a VIN that decodes tells the texts of its record. -/
theorem tells_decodedIdentity {stack d : JaguarVinDecode} {context : JaglinkLinuxContext link}
    (hd : decodedVin stack (vehicleVin context) = some d) :
    (appendVehicleIdentity stack context).Tells (decodedIdentity d) := by
  obtain ⟨v, -, -, hrecord⟩ := jaguarVinDecode_eq_true_iff.mp (decodedVin_eq_some.mp hd)
  have hyear : d.x400 = true → d.modelYear ≠ 0 := by
    rw [hrecord]
    intro hx400 hzero
    obtain ⟨-, -, -, -, hfirst, -⟩ := v.isX400_iff.mp hx400
    have hyear : x400ModelYear (v.position 10) = 0 := hzero
    rw [hyear] at hfirst
    exact absurd hfirst (by decide)
  have hserial : utf8 (jagLinkStringFromCString (some (CString.read d.productionSerial))) =
      (CString.read d.productionSerial).bytes := by
    rw [hrecord]
    exact (utf8_serial v).trans (v.read_part v.serial_subset).symm
  exact ⟨platformText_eq hd hyear, configurationText_eq hd, powertrainText_eq hd,
    buildText_eq hd hserial⟩

/-- **The Linux card determines the Apple texts.**  For every accepted VIN, recognised or not, the
    four texts of the Apple face are put together from the values of the Linux identity card; what
    the card's local record held before and what either face showed before do not matter. -/
theorem identity_of_card (stack : JaguarVinDecode) (context : JaglinkLinuxContext link)
    (controller : JagLinkDiagnosticsController) {vin : CString} {d : JaguarVinDecode}
    (hvin : vehicleVin context = some vin)
    (hd : jaguarVinDecode (some vin) (some stack) = (true, some d)) :
    utf8 (controller.didReceiveFlowEvent (some (.standardVin true (some vin) :
        LinkDiagnosticFlowEvent Reading))).identity.platform =
      (appendVehicleIdentity stack context).platformText ∧
    utf8 (controller.didReceiveFlowEvent (some (.standardVin true (some vin) :
        LinkDiagnosticFlowEvent Reading))).identity.configuration =
      (appendVehicleIdentity stack context).configurationText ∧
    utf8 (controller.didReceiveFlowEvent (some (.standardVin true (some vin) :
        LinkDiagnosticFlowEvent Reading))).identity.powertrain =
      (appendVehicleIdentity stack context).powertrainText ∧
    utf8 (controller.didReceiveFlowEvent (some (.standardVin true (some vin) :
        LinkDiagnosticFlowEvent Reading))).identity.build =
      (appendVehicleIdentity stack context).buildText := by
  have hdecoded : decodedVin stack (some vin) = some d := decodedVin_eq_some.mpr hd
  have hidentity : (controller.didReceiveFlowEvent (some (.standardVin true (some vin) :
      LinkDiagnosticFlowEvent Reading))).identity = decodedIdentity d := by
    show vinIdentity vin = _
    rw [vinIdentity, decodedVin_stack _ stack, hdecoded]
  have htells := tells_decodedIdentity (hvin ▸ hdecoded : decodedVin stack (vehicleVin context) = some d)
  rw [hidentity]
  exact ⟨htells.platform, htells.configuration, htells.powertrain, htells.build⟩

/-- Both faces on the VIN of one car. -/
theorem identity_of_card_estate :
    utf8 (receivedIdentity (text "sajac54k76xe00001")).configuration =
      (appendVehicleIdentity JaguarVinDecode.zero
        (attemptedContext (text "sajac54k76xe00001"))).configurationText := by
  have hd : jaguarVinDecode (text "sajac54k76xe00001") (some JaguarVinDecode.zero) =
      (true, some ((jaguarVinDecode (text "sajac54k76xe00001") (some JaguarVinDecode.zero)).2.getD
        JaguarVinDecode.zero)) := by
    decide
  exact (identity_of_card JaguarVinDecode.zero (attemptedContext (text "sajac54k76xe00001"))
    (JagLinkDiagnosticsController.initial LinkDiagnosticsController.idle) rfl hd).2.1

end Jaglink
