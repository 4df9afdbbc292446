import DatabusSim.Python

/-!
# The NavSat client

`fetch` keeps the records of the vendor's array that convert and skips those whose
conversion raises an exception of its `except` clause. Values come from `json.loads`,
whose floats have infinities and NaN: the float type and the two conversions that the
client leaves to Python are parameters.
-/

namespace DatabusSim

/-- What `json.loads` makes of a document, over a type of floats. -/
inductive Json (F : Type) where
  | null
  | bool (b : Bool)
  | int (i : Int)
  | float (f : F)
  | str (s : String)
  | list (xs : List (Json F))
  | dict (items : List (String × Json F))

namespace Json

variable {F : Type}

/-- `type(value).__name__`. -/
def typeName : Json F → String
  | .null => "NoneType"
  | .bool _ => "bool"
  | .int _ => "int"
  | .float _ => "float"
  | .str _ => "str"
  | .list _ => "list"
  | .dict _ => "dict"

/-- `raw.get(k)` on the items of an object. -/
def getItem? (items : List (String × Json F)) (k : String) : Option (Json F) :=
  Dict.lookupEntry k items

end Json

/-- The conversions of JSON values: those of `float()`, where it does not raise, and
`str()`, which does not. -/
structure Conversions (F : Type) where
  /-- `float(i)` of an integer that rounds to a finite float. -/
  ofInt : Int → F
  /-- `float(s)`, `none` where it raises `ValueError`. -/
  ofStr : String → Option F
  isZero : F → Bool
  str : Json F → String

namespace Conversions

variable {F : Type} (py : Conversions F)

/-- `float(value)`. -/
def float : Json F → Except PyExc F
  | .bool b => .ok (py.ofInt (if b then 1 else 0))
  | .int i =>
      if i.natAbs < floatLimit then .ok (py.ofInt i)
      else .error (.overflowError "int too large to convert to float")
  | .float f => .ok f
  | .str s =>
      match py.ofStr s with
      | some f => .ok f
      | none => .error (.valueError "could not convert string to float: " (some (.str s)))
  | v => .error (.typeError
      ("float() argument must be a string or a real number, not '" ++ v.typeName ++ "'"))

/-- `bool(value)`. -/
def truthy : Json F → Bool
  | .null => false
  | .bool b => b
  | .int i => i ≠ 0
  | .float f => !py.isZero f
  | .str s => s ≠ ""
  | .list xs => !xs.isEmpty
  | .dict items => !items.isEmpty

end Conversions

structure NavSatRecord (F : Type) where
  plateNumber : String
  latitude : F
  longitude : F
  estado : String
  deriving DecidableEq

namespace NavSat

variable {F : Type} (py : Conversions F)

/-- `raw[k]`. -/
def item (raw : List (String × Json F)) (k : String) : Except PyExc (Json F) :=
  match Json.getItem? raw k with
  | some v => .ok v
  | none => .error (.keyError k none)

/-- `str(raw.get("estado") or "")`. -/
def estadoOf (raw : List (String × Json F)) : String :=
  match Json.getItem? raw "estado" with
  | some v => py.str (if py.truthy v then v else .str "")
  | none => py.str (.str "")

/-- `NavSatRecord.from_api`. -/
def fromApi (raw : List (String × Json F)) : Except PyExc (NavSatRecord F) := do
  let plateNumber ← item raw "plateNumber"
  let latitude ← item raw "latitude"
  let latitude ← py.float latitude
  let longitude ← item raw "longitude"
  let longitude ← py.float longitude
  pure { plateNumber := py.str plateNumber, latitude, longitude, estado := estadoOf py raw }

/-- `except (KeyError, TypeError, ValueError)`. -/
def isMalformed : PyExc → Bool
  | .keyError _ _ => true
  | .typeError _ => true
  | .valueError _ _ => true
  | _ => false

/-- The loop of `fetch` over the array, with the records so far. -/
def collect (records : List (NavSatRecord F)) :
    List (Json F) → Except PyExc (List (NavSatRecord F))
  | [] => .ok records
  | .dict raw :: rest =>
      match fromApi py raw with
      | .ok record => collect (records ++ [record]) rest
      | .error exc => if isMalformed exc then collect records rest else .error exc
  | _ :: rest => collect records rest

/-- What the GET and `raise_for_status` came to. `json` is `none` where `response.json()`
raises `ValueError`. -/
inductive Reply (F : Type) where
  /-- `httpx.HTTPError`: a transport failure or a status that is not 2xx. -/
  | httpError (text : String)
  | raised (exc : PyExc)
  | success (status : Nat) (contentType : Option String) (text : String) (json : Option (Json F))

/-- What `fetch` raises. The text of a `NavSatClientError` may end with the `repr` of a
string. -/
inductive FetchExc where
  | navSatClientError (text : String) (body : Option String)
  | other (exc : PyExc)

/-- `NavSatClient.fetch`. -/
def fetch : Reply F → Except FetchExc (List (NavSatRecord F))
  | .httpError text => .error (.navSatClientError ("NavSat API error: " ++ text) none)
  | .raised exc => .error (.other exc)
  | .success status contentType text none =>
      .error (.navSatClientError
        ("NavSat returned non-JSON (status=" ++ toString status ++ ", content-type=" ++
          contentType.getD "?" ++ "): body=") (some (text.take 300).toString))
  | .success _ _ _ (some (.list raws)) =>
      match collect py [] raws with
      | .ok records => .ok records
      | .error exc => .error (.other exc)
  | .success _ _ _ (some payload) =>
      .error (.navSatClientError
        ("NavSat returned " ++ payload.typeName ++ ", expected list") none)

/-! ## Which records are kept -/

/-- The record of an element: of an object with a plate and with two coordinates that
`float` converts. -/
def record? : Json F → Option (NavSatRecord F)
  | .dict raw => do
      let plateNumber ← Json.getItem? raw "plateNumber"
      let latitude ← Json.getItem? raw "latitude" >>= fun v => (py.float v).toOption
      let longitude ← Json.getItem? raw "longitude" >>= fun v => (py.float v).toOption
      pure { plateNumber := py.str plateNumber, latitude, longitude, estado := estadoOf py raw }
  | _ => none

/-- An integer that rounds to no finite float. -/
def TooLarge (v : Json F) : Prop := ∃ i : Int, v = .int i ∧ floatLimit ≤ i.natAbs

/-- The coordinate that `from_api` converts is too large: the latitude, or the longitude of
a latitude that converts. -/
inductive Oversized : Json F → Prop where
  | latitude {raw plate lat} (named : Json.getItem? raw "plateNumber" = some plate)
      (reads : Json.getItem? raw "latitude" = some lat) (large : TooLarge lat) :
      Oversized (.dict raw)
  | longitude {raw plate lat lon f} (named : Json.getItem? raw "plateNumber" = some plate)
      (lat_reads : Json.getItem? raw "latitude" = some lat) (converts : py.float lat = .ok f)
      (lon_reads : Json.getItem? raw "longitude" = some lon) (large : TooLarge lon) :
      Oversized (.dict raw)

/-- `float` has three outcomes: a float, an exception the client catches, and that of a
large integer, which it does not. -/
theorem float_cases (v : Json F) :
    (∃ f, py.float v = .ok f ∧ ¬ TooLarge v) ∨
      (∃ exc, py.float v = .error exc ∧ isMalformed exc = true ∧ ¬ TooLarge v) ∨
      ∃ exc, py.float v = .error exc ∧ isMalformed exc = false ∧ TooLarge v := by
  cases v with
  | int i =>
    by_cases hi : i.natAbs < floatLimit
    · refine .inl ⟨py.ofInt i, by simp [Conversions.float, hi], fun h => ?_⟩
      obtain ⟨j, hj, hlarge⟩ := h
      cases hj
      omega
    · exact .inr (.inr ⟨.overflowError "int too large to convert to float",
        by simp [Conversions.float, hi], rfl, i, rfl, Nat.le_of_not_lt hi⟩)
  | str s =>
    cases hs : py.ofStr s with
    | some f => exact .inl ⟨f, by simp [Conversions.float, hs], by simp [TooLarge]⟩
    | none =>
      exact .inr (.inl
        ⟨.valueError "could not convert string to float: " (some (.str s)),
          by simp [Conversions.float, hs], rfl, by simp [TooLarge]⟩)
  | bool b => exact .inl ⟨_, rfl, by simp [TooLarge]⟩
  | float f => exact .inl ⟨f, rfl, by simp [TooLarge]⟩
  | _ => exact .inr (.inl ⟨_, rfl, rfl, by simp [TooLarge]⟩)

/-- What `from_api` makes of an object: the record, an exception that is caught, or the one
of an oversized coordinate. -/
inductive Converted (raw : List (String × Json F)) : Prop where
  | kept (record) (ok : fromApi py raw = .ok record)
      (wanted : record? py (.dict raw) = some record) (fits : ¬ Oversized py (.dict raw))
  | skipped (exc) (error : fromApi py raw = .error exc) (caught : isMalformed exc = true)
      (unwanted : record? py (.dict raw) = none) (fits : ¬ Oversized py (.dict raw))
  | escaped (exc) (error : fromApi py raw = .error exc) (uncaught : isMalformed exc = false)
      (large : Oversized py (.dict raw))

theorem oversized_iff {raw : List (String × Json F)} {plate lat : Json F}
    (hplate : Json.getItem? raw "plateNumber" = some plate)
    (hlat : Json.getItem? raw "latitude" = some lat) :
    Oversized py (.dict raw) ↔ TooLarge lat ∨
      ∃ f lon, py.float lat = .ok f ∧ Json.getItem? raw "longitude" = some lon ∧ TooLarge lon := by
  constructor
  · intro h
    cases h with
    | latitude _ hlat' hlarge =>
      rw [hlat] at hlat'
      cases hlat'
      exact .inl hlarge
    | longitude _ hlat' hf hlon hlarge =>
      rw [hlat] at hlat'
      cases hlat'
      exact .inr ⟨_, _, hf, hlon, hlarge⟩
  · intro h
    rcases h with hlarge | ⟨f, lon, hf, hlon, hlarge⟩
    · exact .latitude hplate hlat hlarge
    · exact .longitude hplate hlat hf hlon hlarge

theorem not_oversized_of_missing {raw : List (String × Json F)}
    (h : Json.getItem? raw "plateNumber" = none ∨ Json.getItem? raw "latitude" = none) :
    ¬ Oversized py (.dict raw) := by
  intro hlarge
  cases hlarge <;> simp_all

theorem converted (raw : List (String × Json F)) : Converted py raw := by
  cases hplate : Json.getItem? raw "plateNumber" with
  | none =>
    apply Converted.skipped (.keyError "plateNumber" none)
    · simp [fromApi, item, hplate, bind, Except.bind]
    · rfl
    · simp [record?, hplate]
    · exact not_oversized_of_missing py (.inl hplate)
  | some plate =>
  cases hlat : Json.getItem? raw "latitude" with
  | none =>
    apply Converted.skipped (.keyError "latitude" none)
    · simp [fromApi, item, hplate, hlat, bind, Except.bind]
    · rfl
    · simp [record?, hplate, hlat]
    · exact not_oversized_of_missing py (.inr hlat)
  | some lat =>
  have hlarge := oversized_iff py hplate hlat
  rcases float_cases py lat with ⟨f, hf, hfits⟩ | ⟨exc, hf, hcaught, hfits⟩ |
    ⟨exc, hf, hexc, hbig⟩
  · cases hlon : Json.getItem? raw "longitude" with
    | none =>
      apply Converted.skipped (.keyError "longitude" none)
      · simp [fromApi, item, hplate, hlat, hf, hlon, bind, Except.bind]
      · rfl
      · simp [record?, hplate, hlat, hf, hlon]
      · simp [hlarge, hfits, hlon]
    | some lon =>
    rcases float_cases py lon with ⟨g, hg, hfits'⟩ | ⟨exc, hg, hcaught, hfits'⟩ |
      ⟨exc, hg, hexc, hbig⟩
    · apply Converted.kept ⟨py.str plate, f, g, estadoOf py raw⟩
      · simp [fromApi, item, hplate, hlat, hf, hlon, hg, bind, Except.bind, pure, Except.pure]
      · simp [record?, hplate, hlat, hf, hlon, hg, Except.toOption]
      · simp [hlarge, hfits, hlon, hfits']
    · apply Converted.skipped exc
      · simp [fromApi, item, hplate, hlat, hf, hlon, hg, bind, Except.bind]
      · exact hcaught
      · simp [record?, hplate, hlat, hf, hlon, hg, Except.toOption]
      · simp [hlarge, hfits, hlon, hfits']
    · apply Converted.escaped exc
      · simp [fromApi, item, hplate, hlat, hf, hlon, hg, bind, Except.bind]
      · exact hexc
      · exact .longitude hplate hlat hf hlon hbig
  · apply Converted.skipped exc
    · simp [fromApi, item, hplate, hlat, hf, bind, Except.bind]
    · exact hcaught
    · simp [record?, hplate, hlat, hf, Except.toOption]
    · simp [hlarge, hfits, hf]
  · apply Converted.escaped exc
    · simp [fromApi, item, hplate, hlat, hf, bind, Except.bind]
    · exact hexc
    · exact .latitude hplate hlat hbig

/-- The loop keeps the wanted records, in order, unless it meets an oversized coordinate. -/
theorem collect_eq_iff (records : List (NavSatRecord F)) (raws : List (Json F)) :
    collect py records raws = .ok (records ++ raws.filterMap (record? py)) ↔
      ∀ raw ∈ raws, ¬ Oversized py raw := by
  induction raws generalizing records with
  | nil => simp [collect]
  | cons raw rest ih =>
    rw [List.forall_mem_cons]
    cases raw with
    | dict raw =>
      cases converted py raw with
      | kept record hok hwanted hfits =>
        rw [and_iff_right hfits, ← ih (records ++ [record]), collect, hok,
          List.filterMap_cons, hwanted, List.append_assoc, List.singleton_append]
      | skipped exc herror hcaught hunwanted hfits =>
        rw [and_iff_right hfits, ← ih records, collect, herror, List.filterMap_cons, hunwanted]
        simp only [hcaught, if_true]
      | escaped exc herror huncaught hlarge =>
        rw [collect, herror]
        simp [huncaught, hlarge]
    | _ =>
      have hfits : ∀ {v : Json F}, (∀ raw, v ≠ .dict raw) → ¬ Oversized py v := by
        intro v hv h
        cases h <;> exact hv _ rfl
      rw [and_iff_right (hfits (by simp)), ← ih records]
      simp only [collect, List.filterMap_cons, record?]

theorem fetch_keeps_iff (status : Nat) (contentType : Option String) (text : String)
    (raws : List (Json F)) :
    fetch py (.success status contentType text (some (.list raws))) =
        .ok (raws.filterMap (record? py)) ↔
      ∀ raw ∈ raws, ¬ Oversized py raw := by
  rw [← collect_eq_iff py [] raws, List.nil_append, fetch]
  cases collect py [] raws <;> simp

/-- Exact rationals for the floats, decimal integers for the strings. -/
def exact : Conversions ℚ where
  ofInt i := i
  ofStr s := (intOfStr s).map Int.cast
  isZero q := q = 0
  str v :=
    match v with
    | .str s => s
    | v => v.typeName

def vehicle (plate : String) (latitude : Json ℚ) : List (String × Json ℚ) :=
  [("plateNumber", .str plate), ("latitude", latitude), ("longitude", .int (-84)),
    ("estado", .str "detenido")]

def stopped (plate : String) (latitude : ℚ) : NavSatRecord ℚ :=
  { plateNumber := plate, latitude, longitude := -84, estado := "detenido" }

/-- An integer of 310 digits. -/
def digits310 : Int := 10 ^ 309

theorem float_exact_of_lt {i : Int} (h : i.natAbs < floatLimit) :
    exact.float (.int i) = .ok (i : ℚ) := by
  simp only [Conversions.float, if_pos h]
  rfl

theorem float_exact_digits310 : exact.float (.int digits310) =
    .error (.overflowError "int too large to convert to float") := by
  have h : ¬ digits310.natAbs < floatLimit := by
    unfold floatLimit
    decide +kernel
  simp only [Conversions.float, if_neg h]

theorem vehicle_longitude : exact.float (.int (-84)) = .ok (-84) :=
  (float_exact_of_lt (by unfold floatLimit; decide +kernel)).trans (by norm_num)

theorem fromApi_vehicle (plate : String) (lat : Json ℚ) :
    fromApi exact (vehicle plate lat) = exact.float lat >>= fun f => .ok (stopped plate f) := by
  show (exact.float lat >>= fun f => exact.float (.int (-84)) >>= fun g =>
    Except.ok (NavSatRecord.mk plate f g "detenido")) = _
  rw [vehicle_longitude]
  rfl

theorem record?_vehicle (plate : String) (lat : Json ℚ) :
    record? exact (.dict (vehicle plate lat)) = (exact.float lat).toOption.map (stopped plate) := by
  show ((exact.float lat).toOption >>= fun f => (exact.float (.int (-84))).toOption >>= fun g =>
    some (NavSatRecord.mk plate f g "detenido")) = _
  rw [vehicle_longitude]
  cases exact.float lat <;> rfl

/-- The vehicle before one with a latitude of 310 digits is lost with it. -/
theorem fetch_loses_good_record :
    [Json.dict (vehicle "GOOD1" (.int 9)), .dict (vehicle "BAD" (.int digits310))].filterMap
        (record? exact) = [stopped "GOOD1" 9] ∧
      fetch exact (.success 200 none "" (some (.list
          [.dict (vehicle "GOOD1" (.int 9)), .dict (vehicle "BAD" (.int digits310))]))) =
        .error (.other (.overflowError "int too large to convert to float")) := by
  have h9 : exact.float (.int 9) = .ok 9 :=
    float_exact_of_lt (by unfold floatLimit; decide +kernel)
  have hgood : fromApi exact (vehicle "GOOD1" (.int 9)) = .ok (stopped "GOOD1" 9) := by
    rw [fromApi_vehicle, h9]
    rfl
  have hbad : fromApi exact (vehicle "BAD" (.int digits310)) =
      .error (.overflowError "int too large to convert to float") := by
    rw [fromApi_vehicle, float_exact_digits310]
    rfl
  constructor
  · rw [List.filterMap_cons, record?_vehicle, h9, List.filterMap_cons, record?_vehicle,
      float_exact_digits310]
    rfl
  · have hloop : collect exact [] [.dict (vehicle "GOOD1" (.int 9)),
        .dict (vehicle "BAD" (.int digits310))] =
          .error (.overflowError "int too large to convert to float") := by
      simp only [collect, hgood, hbad]
      rfl
    simp only [fetch, hloop]

end NavSat

end DatabusSim
