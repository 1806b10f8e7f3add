/-
  `jaglink_jaguar_vin_format_summary` (`vin.c`): the one-line identity of an X400.

  1. **Program** — `jaguarVinFormatSummary` decodes into a local record, refuses a VIN that is no
     X400, and prints the summary into the caller's buffer, which it clears again if the text did
     not fit.

  2. **The call is all-or-nothing** (`jaguarVinFormatSummary_allOrNothing`): the buffer ends up with
     the whole summary or with the empty text, and which of the two depends only on the VIN and on
     whether the summary fits.

  3. **The summary identifies the vehicle** (`jaguarVinFormatSummary_identifies`): two summaries are
     equal exactly when the VINs agree on drivetrain, body, model year, engine and serial.

  4. **The crux (`summaryOf_inj`)** — the format is uniquely splittable.  Year, body, drivetrain and
     engine texts, each taken together with the separators behind it, are prefix-free families over
     the rows of their tables, so their product is prefix free too and the serial is what remains.
     `Vin.HasRows` is the bridge from the pointers of a record to those rows.
-/
import Jaglink.VinDecode
import Jaglink.Lib.PrefixCode

namespace Jaglink

open CLib FirstMatch PrefixCode

/-! ## The formatter -/

/-- The text of the format string. -/
def x400Summary (modelYear : UInt16) (body : JaguarBodyDefinition)
    (transmissionSteering : JaguarTransmissionSteeringDefinition)
    (plantEngine : JaguarPlantEngineDefinition) (productionSerial : List UInt8) : List UInt8 :=
  utf8 "Jaguar X-TYPE X400 · " ++ decimal modelYear.toNat ++
  utf8 " · " ++ utf8 (jaguarBodyStyleName body.bodyStyle) ++
  utf8 " " ++ utf8 body.seriesClass ++
  utf8 " · " ++ utf8 (jaguarDrivetrainName transmissionSteering.drivetrain) ++
  utf8 " · " ++ utf8 (jaguarTransmissionName transmissionSteering.transmission) ++
  utf8 " · " ++ utf8 (jaguarSteeringName transmissionSteering.steering) ++
  utf8 " · " ++ utf8 plantEngine.engineDescription ++
  utf8 " · " ++ utf8 plantEngine.assemblyPlant ++
  utf8 ", " ++ utf8 plantEngine.assemblyCountry ++
  utf8 " · serial " ++ productionSerial

/-- The full summary of a decoded VIN; none where the formatter has a table pointer to refuse. -/
def JaguarVinDecode.summary (decoded : JaguarVinDecode) : Option (List UInt8) :=
  match decoded.body, decoded.transmissionSteering, decoded.plantEngine with
  | some body, some transmissionSteering, some plantEngine =>
    some (x400Summary decoded.modelYear (x400Bodies.get body)
      (x400TransmissionSteering.get transmissionSteering) (x400PlantEngines.get plantEngine)
      (CString.read decoded.productionSerial).bytes)
  | _, _, _ => none

/-- `stack` is what the uninitialised local record holds when the decoder is handed it. -/
def jaguarVinFormatSummary (stack : JaguarVinDecode) (vin : Option CString)
    (buffer : Option (List UInt8)) (capacity : Nat) : Int × Option (List UInt8) :=
  match buffer with
  | none => (0, none)
  | some buffer =>
    if capacity = 0 then (0, some buffer)
    else
      let buffer := buffer.set 0 0
      match jaguarVinDecode vin (some stack) with
      | (true, some decoded) =>
        if !decoded.x400 then (0, some buffer)
        else
          match decoded.summary with
          | none => (0, some buffer)
          | some text =>
            let (written, buffer) := snprintf buffer capacity text
            if written < 0 || capacity ≤ written.toNat then (0, some (buffer.set 0 0))
            else (1, some buffer)
      | _ => (0, some buffer)

/-! ## Fields of the format -/

/-- The model years of the built-in profile. -/
def x400Years : List UInt16 := [2001, 2002, 2003, 2004, 2005, 2006, 2007, 2008, 2009]

/-- The year field of the summary. -/
def yearText (y : Fin x400Years.length) : List UInt8 := decimal (x400Years.get y).toNat

/-- The body field. -/
def bodyText (b : Fin x400Bodies.length) : List UInt8 :=
  utf8 " · " ++ utf8 (jaguarBodyStyleName (x400Bodies.get b).bodyStyle) ++
  utf8 " " ++ utf8 (x400Bodies.get b).seriesClass

/-- The field of drivetrain, transmission and steering. -/
def transmissionSteeringText (t : Fin x400TransmissionSteering.length) : List UInt8 :=
  utf8 " · " ++ utf8 (jaguarDrivetrainName (x400TransmissionSteering.get t).drivetrain) ++
  utf8 " · " ++ utf8 (jaguarTransmissionName (x400TransmissionSteering.get t).transmission) ++
  utf8 " · " ++ utf8 (jaguarSteeringName (x400TransmissionSteering.get t).steering)

/-- The engine field. -/
def plantEngineText (p : Fin x400PlantEngines.length) : List UInt8 :=
  utf8 " · " ++ utf8 (x400PlantEngines.get p).engineDescription ++
  utf8 " · " ++ utf8 (x400PlantEngines.get p).assemblyPlant ++
  utf8 ", " ++ utf8 (x400PlantEngines.get p).assemblyCountry

/-- The rows an X400 VIN points at. -/
abbrev X400Rows := ((Fin x400Years.length × Fin x400Bodies.length) ×
  Fin x400TransmissionSteering.length) × Fin x400PlantEngines.length

/-- The vehicle part of a summary. -/
def vehicleText (rows : X400Rows) : List UInt8 :=
  ((yearText rows.1.1.1 ++ bodyText rows.1.1.2) ++ transmissionSteeringText rows.1.2) ++
    plantEngineText rows.2

/-- **No vehicle text starts another one.** -/
theorem vehicleText_prefixFree : PrefixFree vehicleText := by
  have hyear : PrefixFree yearText := by decide +kernel
  have hbody : PrefixFree bodyText := by decide +kernel
  have hts : PrefixFree transmissionSteeringText := by decide +kernel
  have hpe : PrefixFree plantEngineText := by decide +kernel
  exact ((hyear.prod hbody).prod hts).prod hpe

/-- No field holds a NUL. -/
theorem vehicleText_nul_free (rows : X400Rows) : (0 : UInt8) ∉ vehicleText rows := by
  have hyear : ∀ y, (0 : UInt8) ∉ yearText y := by decide +kernel
  have hbody : ∀ b, (0 : UInt8) ∉ bodyText b := by decide +kernel
  have hts : ∀ t, (0 : UInt8) ∉ transmissionSteeringText t := by decide +kernel
  have hpe : ∀ p, (0 : UInt8) ∉ plantEngineText p := by decide +kernel
  simp [vehicleText, hyear, hbody, hts, hpe]

/-! ## The summary of an X400 VIN -/

/-- The summary of a vehicle and a serial. -/
def summaryOf (rows : X400Rows) (serial : List UInt8) : List UInt8 :=
  utf8 "Jaguar X-TYPE X400 · " ++ (vehicleText rows ++ (utf8 " · serial " ++ serial))

/-- The format string of the source, as its fields. -/
theorem x400Summary_eq (rows : X400Rows) (serial : List UInt8) :
    x400Summary (x400Years.get rows.1.1.1) (x400Bodies.get rows.1.1.2)
      (x400TransmissionSteering.get rows.1.2) (x400PlantEngines.get rows.2) serial =
      summaryOf rows serial := by
  unfold summaryOf vehicleText yearText bodyText transmissionSteeringText plantEngineText x400Summary
  -- the texts are the same; only the brackets differ
  generalize x400Years.get rows.1.1.1 = year, x400Bodies.get rows.1.1.2 = body,
    x400TransmissionSteering.get rows.1.2 = ts, x400PlantEngines.get rows.2 = pe
  simp only [List.append_assoc]

/-- The fields can be read back, each ending where the next begins. -/
theorem summaryOf_inj {rows rows' : X400Rows} {serial serial' : List UInt8} :
    summaryOf rows serial = summaryOf rows' serial' ↔ rows = rows' ∧ serial = serial' := by
  constructor
  · intro h
    obtain ⟨hrows, hrest⟩ := vehicleText_prefixFree.append_inj (List.append_cancel_left h)
    exact ⟨hrows, List.append_cancel_left hrest⟩
  · rintro ⟨rfl, rfl⟩
    rfl

/-- A summary is a C string. -/
theorem summaryOf_nul_free (rows : X400Rows) (v : Vin) : (0 : UInt8) ∉ summaryOf rows v.serial := by
  have hhead : (0 : UInt8) ∉ utf8 "Jaguar X-TYPE X400 · " := by decide
  have hsep : (0 : UInt8) ∉ utf8 " · serial " := by decide
  have hserial : (0 : UInt8) ∉ v.serial := fun h => v.nul_free (v.serial_subset h)
  simp [summaryOf, hhead, hsep, hserial, vehicleText_nul_free]

/-- The rows a VIN's codes stand for. -/
structure Vin.HasRows (v : Vin) (rows : X400Rows) : Prop where
  year : x400ModelYear (v.position 10) = x400Years.get rows.1.1.1
  body : lookup (fun row => utf8 row.code) x400Bodies v.bodyCode = some rows.1.1.2
  transmissionSteering :
    lookup (·.code) x400TransmissionSteering (v.position 5) = some rows.1.2
  plantEngine : lookup (·.code) x400PlantEngines (v.position 11) = some rows.2

/-- The years from the first to the last model year are the listed ones. -/
theorem exists_x400Year {y : UInt16} (hfirst : 2001 ≤ y) (hlast : y ≤ 2009) :
    ∃ i : Fin x400Years.length, y = x400Years.get i := by
  have hmem : y ∈ x400Years := by
    rw [UInt16.le_iff_toNat_le] at hfirst hlast
    simp only [x400Years, List.mem_cons, List.not_mem_nil, or_false, ← UInt16.toNat_inj]
    simp at hfirst hlast ⊢
    omega
  obtain ⟨i, hi, rfl⟩ := List.getElem_of_mem hmem
  exact ⟨⟨i, hi⟩, rfl⟩

/-- Every X400 has its rows. -/
theorem Vin.exists_rows {v : Vin} (h : v.isX400 = true) : ∃ rows, v.HasRows rows := by
  obtain ⟨-, hts, hbody, hpe, hfirst, hlast⟩ := v.isX400_iff.mp h
  obtain ⟨y, hy⟩ := exists_x400Year hfirst hlast
  obtain ⟨b, hb⟩ := Option.ne_none_iff_exists'.mp (lookup_ne_none_iff.mpr hbody)
  obtain ⟨t, ht⟩ := Option.ne_none_iff_exists'.mp (lookup_ne_none_iff.mpr hts)
  obtain ⟨p, hp⟩ := Option.ne_none_iff_exists'.mp (lookup_ne_none_iff.mpr hpe)
  exact ⟨(((y, b), t), p), hy, hb, ht, hp⟩

/-- **Rows and codes determine each other.** -/
theorem Vin.HasRows.eq_iff {v w : Vin} {rows rows' : X400Rows} (hv : v.HasRows rows)
    (hw : w.HasRows rows') : rows = rows' ↔ v.position 5 = w.position 5 ∧
      v.bodyCode = w.bodyCode ∧ v.position 10 = w.position 10 ∧ v.position 11 = w.position 11 := by
  constructor
  · rintro rfl
    have hcode : ∀ {ρ κ : Type} [DecidableEq κ] {key : ρ → κ} {table : List ρ} {c c' : κ}
        {i : Fin table.length}, lookup key table c = some i → lookup key table c' = some i → c = c' :=
      fun h h' => (lookup_eq_some_iff.mp h).1.symm.trans (lookup_eq_some_iff.mp h').1
    refine ⟨hcode hv.transmissionSteering hw.transmissionSteering, hcode hv.body hw.body, ?_,
      hcode hv.plantEngine hw.plantEngine⟩
    refine x400ModelYear_inj ?_ (hv.year.trans hw.year.symm)
    rw [hv.year]
    exact (show ∀ i : Fin x400Years.length, x400Years.get i ≠ 0 by decide) _
  · rintro ⟨hts, hbody, hyear, hpe⟩
    have hy : x400Years.get rows.1.1.1 = x400Years.get rows'.1.1.1 := by
      rw [← hv.year, ← hw.year, hyear]
    have h1 : rows.1.1.1 = rows'.1.1.1 :=
      (show ∀ i j : Fin x400Years.length, x400Years.get i = x400Years.get j → i = j by decide) _ _ hy
    have h2 : rows.1.1.2 = rows'.1.1.2 := Option.some.inj (by rw [← hv.body, ← hw.body, hbody])
    have h3 : rows.1.2 = rows'.1.2 :=
      Option.some.inj (by rw [← hv.transmissionSteering, ← hw.transmissionSteering, hts])
    have h4 : rows.2 = rows'.2 := Option.some.inj (by rw [← hv.plantEngine, ← hw.plantEngine, hpe])
    exact Prod.ext (Prod.ext (Prod.ext h1 h2) h3) h4

/-- The summary of a VIN whose rows are found is made of these rows. -/
theorem Vin.HasRows.summary {v : Vin} {rows : X400Rows} (h : v.HasRows rows) :
    v.record.summary = some (summaryOf rows v.serial) := by
  have hserial : (CString.read v.record.productionSerial).bytes = v.serial :=
    v.read_part v.serial_subset
  rw [JaguarVinDecode.summary, hserial]
  simp only [Vin.record, h.body, h.transmissionSteering, h.plantEngine, h.year]
  rw [x400Summary_eq]

/-! ## What a call does -/

/-- The VINs the formatter has a summary for, with that summary. -/
def HasSummary (vin : Option CString) (text : List UInt8) : Prop :=
  ∃ v rows, vin.bind Vin.parse = some v ∧ v.wmi = utf8 "SAJ" ∧ v.isX400 = true ∧
    v.HasRows rows ∧ text = summaryOf rows v.serial

/-- In terms of the decoder. -/
theorem hasSummary_iff {vin : Option CString} {text : List UInt8} (prior : JaguarVinDecode) :
    HasSummary vin text ↔ ∃ d, jaguarVinDecode vin (some prior) = (true, some d) ∧
      d.x400 = true ∧ d.summary = some text := by
  constructor
  · rintro ⟨v, rows, hv, hsaj, hx400, hrows, rfl⟩
    exact ⟨v.record, jaguarVinDecode_eq_true_iff.mpr ⟨v, hv, hsaj, rfl⟩, hx400, hrows.summary⟩
  · rintro ⟨d, hd, hx400, htext⟩
    obtain ⟨v, hv, hsaj, rfl⟩ := jaguarVinDecode_eq_true_iff.mp hd
    obtain ⟨rows, hrows⟩ := Vin.exists_rows hx400
    rw [hrows.summary, Option.some.injEq] at htext
    exact ⟨v, rows, hv, hsaj, hx400, hrows, htext.symm⟩

/-- A fitting summary, in the same terms. -/
theorem fittingSummary_iff {vin : Option CString} {capacity : Nat} (prior : JaguarVinDecode) :
    (∃ text, HasSummary vin text ∧ text.length < capacity) ↔
      ∃ d text, jaguarVinDecode vin (some prior) = (true, some d) ∧ d.x400 = true ∧
        d.summary = some text ∧ text.length < capacity := by
  constructor
  · rintro ⟨text, htext, hfit⟩
    obtain ⟨d, hd, hx400, hsum⟩ := (hasSummary_iff prior).mp htext
    exact ⟨d, text, hd, hx400, hsum, hfit⟩
  · rintro ⟨d, text, hd, hx400, hsum, hfit⟩
    exact ⟨text, (hasSummary_iff prior).mpr ⟨d, hd, hx400, hsum⟩, hfit⟩

/-- No summary holds a NUL. -/
theorem HasSummary.nul_free {vin : Option CString} {text : List UInt8} (h : HasSummary vin text) :
    (0 : UInt8) ∉ text := by
  obtain ⟨v, rows, -, -, -, -, rfl⟩ := h
  exact summaryOf_nul_free rows v

/-- A VIN has one summary at most. -/
theorem HasSummary.unique {vin : Option CString} {text text' : List UInt8} (h : HasSummary vin text)
    (h' : HasSummary vin text') : text = text' := by
  obtain ⟨d, hd, -, ht⟩ := (hasSummary_iff JaguarVinDecode.zero).mp h
  obtain ⟨d', hd', -, ht'⟩ := (hasSummary_iff JaguarVinDecode.zero).mp h'
  rw [hd, Prod.mk.injEq, Option.some.injEq] at hd'
  rw [hd'.2, ht'] at ht
  exact (Option.some.inj ht).symm

/-- A buffer that begins with NUL reads as the empty text. -/
theorem read_set_zero (buffer : List UInt8) : (CString.read (buffer.set 0 0)).bytes = [] := by
  cases buffer with
  | nil => rfl
  | cons b rest => exact CString.read_cons_nul rest

section Call

variable (stack : JaguarVinDecode) (buffer : List UInt8)
variable {vin : Option CString} {text : List UInt8} {capacity : Nat}

/-- The summary fits: it is stored. -/
theorem jaguarVinFormatSummary_fits (h : HasSummary vin text) (hfit : text.length < capacity) :
    jaguarVinFormatSummary stack vin (some buffer) capacity =
      (1, some (text ++ 0 :: (buffer.set 0 0).drop (text.length + 1))) := by
  obtain ⟨d, hd, hx400, htext⟩ := (hasSummary_iff stack).mp h
  have hstored : (snprintf (buffer.set 0 0) capacity text).2 = _ := snprintf_fits hfit
  rw [snprintf] at hstored
  simp only [jaguarVinFormatSummary, if_neg (show ¬capacity = 0 by omega), hd, hx400, htext, snprintf]
  simp only [Bool.not_true, Bool.false_eq_true, if_false, Int.toNat_natCast]
  rw [if_neg (by simp; omega)]
  simp only [if_neg (show ¬capacity = 0 by omega)] at hstored
  rw [hstored]

/-- The summary does not fit: the prefix `snprintf` has written is hidden again. -/
theorem jaguarVinFormatSummary_truncated (h : HasSummary vin text) (hcap : 0 < capacity)
    (hfit : capacity ≤ text.length) :
    ∃ after, jaguarVinFormatSummary stack vin (some buffer) capacity = (0, some after) ∧
      (CString.read after).bytes = [] ∧ after.drop capacity = buffer.drop capacity := by
  obtain ⟨d, hd, hx400, htext⟩ := (hasSummary_iff stack).mp h
  refine ⟨(snprintf (buffer.set 0 0) capacity text).2.set 0 0, ?_, read_set_zero _, ?_⟩
  · simp only [jaguarVinFormatSummary, if_neg (show ¬capacity = 0 by omega), hd, hx400, htext,
      snprintf]
    simp [hfit]
  · rw [List.drop_set_of_lt hcap, drop_snprintf, List.drop_set_of_lt hcap]

/-- There is no summary to write. -/
theorem jaguarVinFormatSummary_none (h : ∀ text, ¬HasSummary vin text) (hcap : 0 < capacity) :
    jaguarVinFormatSummary stack vin (some buffer) capacity = (0, some (buffer.set 0 0)) := by
  simp only [jaguarVinFormatSummary, if_neg (show ¬capacity = 0 by omega)]
  split
  · rename_i d hd
    split
    · rfl
    · rename_i hx400
      split
      · rfl
      · rename_i text htext
        exact absurd ((hasSummary_iff stack).mpr ⟨d, hd, by simpa using hx400, htext⟩) (h text)
  · rfl

/-- Without a fitting summary the call fails, whatever the reason. -/
theorem jaguarVinFormatSummary_fails (hcap : 0 < capacity)
    (h : ¬∃ text, HasSummary vin text ∧ text.length < capacity) :
    ∃ after, jaguarVinFormatSummary stack vin (some buffer) capacity = (0, some after) ∧
      (CString.read after).bytes = [] ∧ after.drop capacity = buffer.drop capacity := by
  by_cases hsome : ∃ text, HasSummary vin text
  · obtain ⟨text, htext⟩ := hsome
    have hlong : capacity ≤ text.length := Nat.not_lt.mp fun hfit => h ⟨text, htext, hfit⟩
    exact jaguarVinFormatSummary_truncated stack buffer htext hcap hlong
  · have hnone := jaguarVinFormatSummary_none stack buffer (fun text h => hsome ⟨text, h⟩) hcap
    exact ⟨_, hnone, read_set_zero buffer, List.drop_set_of_lt hcap⟩

/-- **Nothing behind the stated capacity is written**, whatever the outcome. -/
theorem jaguarVinFormatSummary_frame : ∃ result after,
    jaguarVinFormatSummary stack vin (some buffer) capacity = (result, some after) ∧
      after.drop capacity = buffer.drop capacity := by
  rcases Nat.eq_zero_or_pos capacity with rfl | hpos
  · exact ⟨0, buffer, rfl, rfl⟩
  by_cases hfits : ∃ text, HasSummary vin text ∧ text.length < capacity
  · obtain ⟨text, htext, hfit⟩ := hfits
    refine ⟨1, _, jaguarVinFormatSummary_fits _ _ htext hfit, ?_⟩
    rw [← snprintf_fits hfit, drop_snprintf, List.drop_set_of_lt hpos]
  · obtain ⟨after, hafter, -, hframe⟩ := jaguarVinFormatSummary_fails stack buffer hpos hfits
    exact ⟨0, after, hafter, hframe⟩

variable {stack} {buffer}

/-- **Success means a fitting summary.** -/
theorem jaguarVinFormatSummary_eq_one_iff :
    (jaguarVinFormatSummary stack vin (some buffer) capacity).1 = 1 ↔
      ∃ text, HasSummary vin text ∧ text.length < capacity := by
  constructor
  · intro hone
    by_contra hno
    rcases Nat.eq_zero_or_pos capacity with rfl | hpos
    · cases hone
    · obtain ⟨after, hafter, -⟩ := jaguarVinFormatSummary_fails stack buffer hpos hno
      rw [hafter] at hone
      cases hone
  · rintro ⟨text, htext, hfit⟩
    rw [jaguarVinFormatSummary_fits _ _ htext hfit]

/-- What a successful call leaves in the buffer. -/
theorem read_of_success {after : List UInt8}
    (h : jaguarVinFormatSummary stack vin (some buffer) capacity = (1, some after)) :
    HasSummary vin (CString.read after).bytes := by
  obtain ⟨text, htext, hfit⟩ := jaguarVinFormatSummary_eq_one_iff.mp (congrArg Prod.fst h)
  rw [jaguarVinFormatSummary_fits _ _ htext hfit, Prod.mk.injEq, Option.some.injEq] at h
  rw [← h.2, show text ++ 0 :: (buffer.set 0 0).drop (text.length + 1) =
    (⟨text, htext.nul_free⟩ : CString).bytes ++ 0 :: (buffer.set 0 0).drop (text.length + 1) from rfl,
    CString.read_append_nul]
  exact htext

end Call

/-- **The formatter is all-or-nothing.**  Without room nothing is written; otherwise the buffer ends
    up with the whole summary, exactly when the VIN is an X400 and its summary is shorter than the
    capacity, or with the empty text.  So the text does not depend on the capacity, and a larger
    capacity never spoils a success. -/
theorem jaguarVinFormatSummary_allOrNothing (stack : JaguarVinDecode) (vin : Option CString) :
    (∀ capacity, jaguarVinFormatSummary stack vin none capacity = (0, none)) ∧
    (∀ buffer, jaguarVinFormatSummary stack vin (some buffer) 0 = (0, some buffer)) ∧
    (∀ buffer capacity, 0 < capacity → ∃ result after,
      jaguarVinFormatSummary stack vin (some buffer) capacity = (result, some after) ∧
      (result = 0 ∨ result = 1) ∧
      (result = 1 ↔ ∃ d text, jaguarVinDecode vin (some stack) = (true, some d) ∧ d.x400 = true ∧
        d.summary = some text ∧ text.length < capacity) ∧
      (result = 1 → ∃ d, jaguarVinDecode vin (some stack) = (true, some d) ∧
        d.summary = some (CString.read after).bytes) ∧
      (result = 0 → (CString.read after).bytes = [])) ∧
    (∀ stack' buffer buffer' capacity capacity' after after',
      jaguarVinFormatSummary stack vin (some buffer) capacity = (1, some after) →
      jaguarVinFormatSummary stack' vin (some buffer') capacity' = (1, some after') →
      CString.read after = CString.read after') ∧
    (∀ stack' buffer buffer' capacity capacity',
      (jaguarVinFormatSummary stack vin (some buffer) capacity).1 = 1 → capacity ≤ capacity' →
      (jaguarVinFormatSummary stack' vin (some buffer') capacity').1 = 1) := by
  refine ⟨fun _ => rfl, fun _ => rfl, ?_, ?_, ?_⟩
  · intro buffer capacity hcap
    have hiff : (∃ text, HasSummary vin text ∧ text.length < capacity) ↔ _ := fittingSummary_iff stack
    by_cases hfits : ∃ text, HasSummary vin text ∧ text.length < capacity
    · obtain ⟨text, htext, hfit⟩ := hfits
      have hcall := jaguarVinFormatSummary_fits stack buffer htext hfit
      obtain ⟨d, hd, -, hsum⟩ := (hasSummary_iff stack).mp (read_of_success hcall)
      refine ⟨1, _, hcall, Or.inr rfl, ⟨fun _ => hiff.mp ⟨text, htext, hfit⟩, fun _ => rfl⟩,
        fun _ => ⟨d, hd, hsum⟩, fun h => ?_⟩
      cases h
    · obtain ⟨after, hcall, hempty, -⟩ := jaguarVinFormatSummary_fails stack buffer hcap hfits
      refine ⟨0, after, hcall, Or.inl rfl, ⟨fun h => ?_, fun h => absurd (hiff.mpr h) hfits⟩,
        fun h => ?_, fun _ => hempty⟩
      · cases h
      · cases h
  · intro stack' buffer buffer' capacity capacity' after after' h h'
    exact CString.ext ((read_of_success h).unique (read_of_success h'))
  · intro stack' buffer buffer' capacity capacity' h hle
    obtain ⟨text, htext, hfit⟩ := jaguarVinFormatSummary_eq_one_iff.mp h
    exact jaguarVinFormatSummary_eq_one_iff.mpr ⟨text, htext, by omega⟩

/-- **The summary identifies the vehicle**: drivetrain code, body code, model year, engine line and
    serial, and nothing else. -/
theorem jaguarVinFormatSummary_identifies {v w : CString} {stack stack' : JaguarVinDecode}
    {buffer buffer' after after' : List UInt8} {capacity capacity' : Nat}
    (hv : jaguarVinFormatSummary stack (some v) (some buffer) capacity = (1, some after))
    (hw : jaguarVinFormatSummary stack' (some w) (some buffer') capacity' = (1, some after')) :
    CString.read after = CString.read after' ↔
      ∀ n ∈ [5, 6, 7, 10, 11, 12, 13, 14, 15, 16, 17], vinCode v n = vinCode w n := by
  obtain ⟨a, rows, ha, -, -, hrows, htext⟩ := read_of_success hv
  obtain ⟨b, rows', hb, -, -, hrows', htext'⟩ := read_of_success hw
  have hread : CString.read after = CString.read after' ↔
      summaryOf rows a.serial = summaryOf rows' b.serial := by
    rw [← htext, ← htext']
    exact ⟨congrArg CString.bytes, CString.ext⟩
  have ha' := fun n => (Vin.position_of_parse ha n).symm
  have hb' := fun n => (Vin.position_of_parse hb n).symm
  rw [hread, summaryOf_inj, hrows.eq_iff hrows', Vin.bodyCode, Vin.bodyCode, a.serial_eq, b.serial_eq]
  simp only [ha', hb', List.forall_mem_cons, List.cons.injEq, List.not_mem_nil, false_implies,
    implies_true, and_true, and_assoc]

/-- Two saloons that differ in market, emission code, check digit and case share their summary. -/
theorem jaguarVinFormatSummary_identifies_saloon :
    ∃ v w : CString, ∃ after after' : List UInt8,
      jaguarVinFormatSummary JaguarVinDecode.zero (some v) (some (List.replicate 256 7)) 256 =
        (1, some after) ∧
      jaguarVinFormatSummary JaguarVinDecode.zero (some w) (some (List.replicate 200 0)) 200 =
        (1, some after') ∧
      v ≠ w ∧ CString.read after = CString.read after' := by
  let v : CString := ⟨utf8 "SAJAA51N76XE00001", by decide⟩
  let w : CString := ⟨utf8 "sajEa51b06xe00001", by decide⟩
  have hv : jaguarVinFormatSummary JaguarVinDecode.zero (some v) (some (List.replicate 256 7)) 256 =
      (1, some ((jaguarVinFormatSummary JaguarVinDecode.zero (some v)
        (some (List.replicate 256 7)) 256).2.getD [])) := by decide +kernel
  have hw : jaguarVinFormatSummary JaguarVinDecode.zero (some w) (some (List.replicate 200 0)) 200 =
      (1, some ((jaguarVinFormatSummary JaguarVinDecode.zero (some w)
        (some (List.replicate 200 0)) 200).2.getD [])) := by decide +kernel
  exact ⟨v, w, _, _, hv, hw, by decide,
    (jaguarVinFormatSummary_identifies hv hw).mpr (by decide +kernel)⟩

end Jaglink
