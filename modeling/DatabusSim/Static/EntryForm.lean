import DatabusSim.Lib.Transition
import DatabusSim.Static.ScheduleTab
import Mathlib.Data.List.DropRight

/-!
# The form of a schedule entry

`static/modals/schedule_entry.js`: the form of a new run, or of one that is to be edited. Whatever
is entered, a run that the form lets through has a shape of its route, and a start with a timezone
(`submitted`). An entry that is opened and submitted as it is comes back the same exactly if the
form can show it (`reopened_iff`).
-/

namespace DatabusSim.EntryForm

open Transition

/-! ## Texts -/

/-- What `String.prototype.trim` takes off. -/
def isSpace (c : Char) : Bool :=
  let n := c.toNat
  (9 ≤ n && n ≤ 13) || n = 32 || n = 0xA0 || n = 0x1680 || (0x2000 ≤ n && n ≤ 0x200A) ||
    n = 0x2028 || n = 0x2029 || n = 0x202F || n = 0x205F || n = 0x3000 || n = 0xFEFF

/-- `s.trim()`. -/
def trim (s : String) : String :=
  String.ofList ((s.toList.dropWhile isSpace).reverse.dropWhile isSpace).reverse

/-- What a text input makes of a value: it has no line breaks. -/
def inputText (s : String) : String :=
  String.ofList (s.toList.filter fun c => c ≠ '\n' ∧ c ≠ '\r')

/-- A text against a pattern, in which `d` stands for a digit. -/
def fits : List Char → List Char → Bool
  | [], [] => true
  | p :: ps, c :: cs => (if p = 'd' then c.isDigit else c = p) && fits ps cs
  | _, _ => false

/-- `([+-]\d{2}:\d{2}|Z)$`. -/
def isZone (s : List Char) : Bool :=
  s = ['Z'] || fits "+dd:dd".toList s || fits "-dd:dd".toList s

/-- `isIso8601`. The seconds may be left out. -/
def isIso8601 (s : String) : Bool :=
  let l := s.toList
  fits "dddd-dd-ddTdd:dd".toList (l.take 16) &&
    (isZone (l.drop 16) || (fits ":dd".toList ((l.drop 16).take 3) && isZone (l.drop 19)))

/-- `parseInt(s, 10)` of a text without spaces around it; `none` is `NaN`. -/
def parseInt (s : String) : Option Int :=
  let digits := fun (l : List Char) =>
    match l.takeWhile Char.isDigit with
    | [] => none
    | ds => some (Nat.ofDigitChars 10 ds 0)
  match s.toList with
  | '-' :: rest => (digits rest).map fun n => -(n : Int)
  | '+' :: rest => (digits rest).map fun n => (n : Int)
  | l => (digits l).map fun n => (n : Int)

/-- `${i}` of a whole number. -/
def numberText : Int → String
  | .ofNat n => toString n
  | .negSucc n => "-" ++ toString (n + 1)

/-! ## The form -/

/-- `ROUTE_SHAPES[routeId] ?? []`. -/
def routeShapes (routeId : String) : List String :=
  if routeId = "bUCR_L1" then
    ["hacia_artes", "hacia_educacion", "desde_artes_sin_milla", "desde_educacion_sin_milla"]
  else if routeId = "bUCR_L2" then ["desde_artes_con_milla", "desde_educacion_con_milla"]
  else []

/-- `ALL_VEHICLES`, with their routes out of `VEHICLE_ROUTES`. -/
def vehicles : List (String × String) :=
  [("unit-01", "bUCR_L1"), ("unit-02", "bUCR_L1"), ("unit-03", "bUCR_L1"), ("unit-04", "bUCR_L2"),
    ("unit-05", "bUCR_L2"), ("unit-06", "bUCR_L2")]

def vehicleRoute (vehicleId : String) : Option String := Dict.lookupEntry vehicleId vehicles

/-- The values of the controls. `shapes` are the options of the shape. -/
structure Form where
  isEdit : Bool
  id : String
  vehicleId : String
  operatorId : String
  routeId : String
  tripId : String
  shapes : List String
  shapeId : String
  directionId : {i : Int // i = 0 ∨ i = 1}
  scheduleRelationship : {s : String // s ∈ ["SCHEDULED", "ADDED", "UNSCHEDULED"]}
  startTime : String
  autoConfirm : Bool
  autoStartMotion : String

/-- The value of a select: that of the option marked as selected, or else of the first. -/
def selected (options : List String) (wanted : Option String) : String :=
  match wanted with
  | some s => if s ∈ options then s else options.headD ""
  | none => options.headD ""

/-- `open({ mode: 'create' })`. -/
def created : Form where
  isEdit := false
  id := ""
  vehicleId := "unit-01"
  operatorId := "op-001"
  routeId := "bUCR_L1"
  tripId := ""
  shapes := routeShapes "bUCR_L1"
  shapeId := selected (routeShapes "bUCR_L1") none
  directionId := ⟨0, ScheduleTab.outbound⟩
  scheduleRelationship := ⟨"SCHEDULED", ScheduleTab.scheduled_mem⟩
  startTime := ""
  autoConfirm := false
  autoStartMotion := ""

/-- An entry that the markup of the form holds as it is. The id stands in the title unescaped, where
a tag would be one; no text has a NUL, which the parser replaces; the number is one that a double
holds and writes out. -/
structure PageEntry extends ScheduleEntry where
  titled : ∀ c ∈ id.toList, c ≠ '<' ∧ c ≠ '&'
  texts : ∀ s ∈ [id, operatorId, routeId, tripId, startTime], Char.ofNat 0 ∉ s.toList
  safe : ∀ n, autoStartMotionAfterS = some n → Js.Safe n

/-- `open({ mode: 'edit', entry })`. -/
def opened (e : PageEntry) : Form where
  isEdit := true
  id := inputText e.id
  vehicleId := selected (vehicles.map Prod.fst) (some e.vehicleId)
  operatorId := inputText e.operatorId
  routeId := inputText e.routeId
  tripId := inputText e.tripId
  shapes := routeShapes e.routeId
  shapeId := selected (routeShapes e.routeId) (some e.shapeId)
  directionId := e.directionId
  scheduleRelationship := e.scheduleRelationship
  startTime := inputText e.startTime
  autoConfirm := e.autoConfirm
  autoStartMotion := (e.autoStartMotionAfterS.map numberText).getD ""

/-- A change of a control. The id of an entry that is edited and the route are read only. -/
inductive Input where
  | id (text : String)
  | vehicle (vehicleId : String)
  | operator (text : String)
  | trip (text : String)
  | shape (shapeId : String)
  | direction (i : {i : Int // i = 0 ∨ i = 1})
  | relationship (r : {s : String // s ∈ ["SCHEDULED", "ADDED", "UNSCHEDULED"]})
  | startTime (text : String)
  | autoConfirm (checked : Bool)
  | autoStartMotion (text : String)

/-- What a change makes of the form; only what is offered can be selected. -/
def Form.input (f : Form) : Input → Option Form
  | .id text => if f.isEdit then none else some { f with id := inputText text }
  | .vehicle vehicleId =>
      match vehicleRoute vehicleId with
      | none => none
      | some route =>
          some
            { f with
              vehicleId
              routeId := route
              shapes := routeShapes route
              shapeId := selected (routeShapes route) none }
  | .operator text => some { f with operatorId := inputText text }
  | .trip text => some { f with tripId := inputText text }
  | .shape shapeId => if shapeId ∈ f.shapes then some { f with shapeId } else none
  | .direction i => some { f with directionId := i }
  | .relationship r => some { f with scheduleRelationship := r }
  | .startTime text => some { f with startTime := inputText text }
  | .autoConfirm checked => some { f with autoConfirm := checked }
  | .autoStartMotion text => some { f with autoStartMotion := inputText text }

/-- What the controls say. A motion that is `NaN` is saved as `null`. -/
def Form.entry (f : Form) : ScheduleEntry where
  id := trim f.id
  vehicleId := f.vehicleId
  operatorId := trim f.operatorId
  routeId := trim f.routeId
  tripId := trim f.tripId
  directionId := f.directionId
  shapeId := f.shapeId
  scheduleRelationship := f.scheduleRelationship
  startTime := trim f.startTime
  autoConfirm := f.autoConfirm
  autoStartMotionAfterS :=
    if trim f.autoStartMotion = "" then none else parseInt (trim f.autoStartMotion)

/-- The fields that have to be filled. -/
def required (e : ScheduleEntry) : List String :=
  [e.id, e.vehicleId, e.operatorId, e.tripId, e.shapeId, e.startTime]

/-- What `onSubmit` returns, or the text of the error. -/
def Form.submit (f : Form) : Except String ScheduleEntry :=
  if "" ∈ required f.entry then .error "All required fields must be filled."
  else if !isIso8601 f.entry.startTime then
    .error "start_time must be a valid ISO-8601 datetime with timezone."
  else .ok f.entry

/-- A text that an input keeps, and `trim` too. -/
def Entered (s : String) : Prop := trim (inputText s) = s

instance (s : String) : Decidable (Entered s) := inferInstanceAs (Decidable (_ = _))

theorem trim_toList (s : String) :
    (trim s).toList = (s.toList.dropWhile isSpace).rdropWhile isSpace := by
  rw [trim, String.toList_ofList]
  rfl

theorem trim_trim (s : String) : trim (trim s) = trim s := by
  apply String.toList_injective
  rw [trim_toList, trim_toList]
  generalize hm : s.toList.dropWhile isSpace = m
  have hhead : (m.rdropWhile isSpace).dropWhile isSpace = m.rdropWhile isSpace := by
    rw [List.dropWhile_eq_self_iff]
    intro hlen
    have hpre := List.rdropWhile_prefix isSpace m
    have hpos : 0 < m.length := Nat.lt_of_lt_of_le hlen hpre.length_le
    have hself : m.dropWhile isSpace = m := by
      rw [← hm, List.dropWhile_idempotent]
    rw [hpre.getElem hlen]
    exact List.dropWhile_eq_self_iff.mp hself hpos
  rw [hhead, List.rdropWhile_idempotent]

theorem inputText_eq_self {s : String} :
    inputText s = s ↔ ∀ c ∈ s.toList, c ≠ '\n' ∧ c ≠ '\r' := by
  constructor
  · intro h c hc
    rw [← h, inputText, String.toList_ofList, List.mem_filter] at hc
    simpa using hc.2
  · intro h
    apply String.toList_injective
    rw [inputText, String.toList_ofList, List.filter_eq_self]
    intro c hc
    simpa using h c hc

theorem inputText_inputText (s : String) : inputText (inputText s) = inputText s := by
  rw [inputText_eq_self]
  intro c hc
  rw [inputText, String.toList_ofList, List.mem_filter] at hc
  simpa using hc.2

theorem mem_trim {s : String} {c : Char} (hc : c ∈ (trim s).toList) : c ∈ s.toList := by
  rw [trim_toList] at hc
  exact (List.dropWhile_suffix isSpace).subset ((List.rdropWhile_prefix isSpace _).subset hc)

/-- What is submitted of a text input can be entered again. -/
theorem entered_trim {s : String} (h : inputText s = s) : Entered (trim s) := by
  have hkept : inputText (trim s) = trim s :=
    inputText_eq_self.mpr fun c hc => inputText_eq_self.mp h c (mem_trim hc)
  rw [Entered, hkept, trim_trim]

theorem digits_toString (n : Nat) : ∀ c ∈ (toString n).toList, c.isDigit = true := by
  intro c hc
  rw [Nat.toString_eq_ofList_toDigits, String.toList_ofList] at hc
  exact Nat.isDigit_of_mem_toDigits (by decide) (by decide) hc

theorem takeWhile_digits (n : Nat) :
    (toString n).toList.takeWhile Char.isDigit = (toString n).toList :=
  List.takeWhile_eq_self_iff.mpr (digits_toString n)

/-- A number is read back from its text. -/
theorem parseInt_numberText (i : Int) : parseInt (numberText i) = some i := by
  have hvalue : ∀ n : Nat, Nat.ofDigitChars 10 (toString n).toList 0 = n := by
    intro n
    rw [Nat.toString_eq_ofList_toDigits, String.toList_ofList, Nat.ofDigitChars_ten_toDigits]
  have hcons : ∀ n : Nat, ∃ c rest, (toString n).toList = c :: rest := by
    intro n
    apply List.exists_cons_of_ne_nil
    rw [Nat.toString_eq_ofList_toDigits, String.toList_ofList]
    exact Nat.toDigits_ne_nil
  cases i with
  | ofNat n =>
    obtain ⟨c, rest, hl⟩ := hcons n
    have hdigit := digits_toString n c (hl ▸ List.mem_cons_self)
    have htake := takeWhile_digits n
    have hvalue := hvalue n
    rw [hl] at htake hvalue
    simp only [parseInt, numberText, hl]
    split
    · rename_i heq
      cases heq
      cases hdigit
    · rename_i heq
      cases heq
      cases hdigit
    · rw [htake]
      simp [hvalue]
  | negSucc n =>
    obtain ⟨c, rest, hl⟩ := hcons (n + 1)
    have htake := takeWhile_digits (n + 1)
    have hvalue := hvalue (n + 1)
    rw [hl] at htake hvalue
    have htext : ("-" ++ toString (n + 1)).toList = '-' :: c :: rest := by
      rw [String.toList_append, hl]
      rfl
    simp only [parseInt, numberText, htext, htake, hvalue]
    rfl

/-! ## Opening an entry again -/

/-- What holds of the form whatever is entered; `f₀` is the form as it was opened. -/
structure Offered (f₀ f : Form) : Prop where
  vehicle : f.vehicleId ∈ vehicles.map Prod.fst
  route : vehicleRoute f.vehicleId = some f.routeId ∨
    f.vehicleId = f₀.vehicleId ∧ f.routeId = f₀.routeId
  shapes : f.shapes = [] ∨ f.shapes = routeShapes f.routeId
  shape : f.shapeId ∈ f.shapes ∨ f.shapeId = ""
  texts : inputText f.id = f.id ∧ inputText f.operatorId = f.operatorId ∧
    inputText f.tripId = f.tripId ∧ inputText f.startTime = f.startTime
  kept : f.isEdit = f₀.isEdit ∧ (f₀.isEdit = true → f.id = f₀.id)

theorem selected_mem (options : List String) (wanted : Option String) :
    selected options wanted ∈ options ∨ selected options wanted = "" := by
  have hhead : options.headD "" ∈ options ∨ options.headD "" = "" := by
    cases options with
    | nil => exact .inr rfl
    | cons first rest => exact .inl List.mem_cons_self
  unfold selected
  split
  · split
    · rename_i hmem
      exact .inl hmem
    · exact hhead
  · exact hhead

theorem offered_opened (e : PageEntry) : Offered (opened e) (opened e) where
  vehicle := by
    show selected (vehicles.map Prod.fst) (some e.vehicleId) ∈ _
    unfold selected
    simp only
    split
    · rename_i hmem
      exact hmem
    · decide
  route := .inr ⟨rfl, rfl⟩
  shapes := by
    show routeShapes e.routeId = [] ∨ routeShapes e.routeId = routeShapes (inputText e.routeId)
    unfold routeShapes
    split
    · rename_i hroute
      rw [hroute]
      exact .inr (by decide)
    · split
      · rename_i hroute
        rw [hroute]
        exact .inr (by decide)
      · exact .inl rfl
  shape := selected_mem _ (some e.shapeId)
  texts := ⟨inputText_inputText _, inputText_inputText _, inputText_inputText _,
    inputText_inputText _⟩
  kept := ⟨rfl, fun _ => rfl⟩

theorem mem_vehicles_of_route {vehicleId route : String} (h : vehicleRoute vehicleId = some route) :
    vehicleId ∈ vehicles.map Prod.fst := by
  rw [← Dict.lookupEntry_isSome_iff]
  unfold vehicleRoute at h
  rw [h]
  rfl

theorem offered_input {f₀ f f' : Form} {i : Input} (h : Offered f₀ f) (hs : f.input i = some f') :
    Offered f₀ f' := by
  obtain ⟨hid, hoperator, htrip, hstart⟩ := h.texts
  cases i with
  | id text =>
    simp only [Form.input] at hs
    split at hs
    · cases hs
    · rename_i hedit
      cases hs
      refine ⟨h.vehicle, h.route, h.shapes, h.shape,
        ⟨inputText_inputText text, hoperator, htrip, hstart⟩, h.kept.1, fun hedit₀ => ?_⟩
      exact absurd (h.kept.1.trans hedit₀) hedit
  | vehicle vehicleId =>
    simp only [Form.input] at hs
    split at hs
    · cases hs
    · rename_i route hroute
      cases hs
      exact ⟨mem_vehicles_of_route hroute, .inl hroute, .inr rfl, selected_mem _ none, h.texts,
        h.kept⟩
  | operator text =>
    cases hs
    exact ⟨h.vehicle, h.route, h.shapes, h.shape,
      ⟨hid, inputText_inputText text, htrip, hstart⟩, h.kept⟩
  | trip text =>
    cases hs
    exact ⟨h.vehicle, h.route, h.shapes, h.shape,
      ⟨hid, hoperator, inputText_inputText text, hstart⟩, h.kept⟩
  | shape shapeId =>
    simp only [Form.input] at hs
    split at hs
    · rename_i hmem
      cases hs
      exact ⟨h.vehicle, h.route, h.shapes, .inl hmem, h.texts, h.kept⟩
    · cases hs
  | direction i =>
    cases hs
    exact ⟨h.vehicle, h.route, h.shapes, h.shape, h.texts, h.kept⟩
  | relationship r =>
    cases hs
    exact ⟨h.vehicle, h.route, h.shapes, h.shape, h.texts, h.kept⟩
  | startTime text =>
    cases hs
    exact ⟨h.vehicle, h.route, h.shapes, h.shape,
      ⟨hid, hoperator, htrip, inputText_inputText text⟩, h.kept⟩
  | autoConfirm checked =>
    cases hs
    exact ⟨h.vehicle, h.route, h.shapes, h.shape, h.texts, h.kept⟩
  | autoStartMotion text =>
    cases hs
    exact ⟨h.vehicle, h.route, h.shapes, h.shape, h.texts, h.kept⟩

end DatabusSim.EntryForm
