import DatabusSim.Services.Scheduler

/-!
# The serializers of the schedule document

`ScheduleDocumentSerializer` and the serializers it nests: the fields with their
defaults, the checks of the serializers' own and the gathering of the errors. How
Django REST framework reads a value out of the request data is a parameter, and so is
the data: a JSON body or a form.
-/

namespace DatabusSim

/-- What a field finds in the request data: nothing, `null` or a value. -/
inductive Given (Data : Type) where
  | absent
  | null
  | value (data : Data)

/-- An error message; the value is the one whose `repr` ends it. -/
structure Message where
  text : String
  value : Option String := none
  deriving DecidableEq, Repr

/-- The messages at one place of the request data. -/
structure FieldErrors where
  path : List String
  messages : List Message
  deriving DecidableEq, Repr

/-- A validated value, or all the errors that were found. -/
def Checked (α : Type) : Type := Except (List FieldErrors) α

namespace Checked

variable {α β : Type}

def fail (messages : List Message) : Checked α := .error [⟨[], messages⟩]

/-- The errors of a part, placed under its name. -/
def under (name : String) : Checked α → Checked α
  | .ok a => .ok a
  | .error errors => .error (errors.map fun e => { e with path := name :: e.path })

/-- Two parts are checked each for itself: the errors of both are reported. -/
def both (f : Checked (α → β)) (a : Checked α) : Checked β :=
  match f, a with
  | .ok f, .ok a => .ok (f a)
  | .ok _, .error errors => .error errors
  | .error errors, .ok _ => .error errors
  | .error errors, .error more => .error (errors ++ more)

instance : Applicative Checked where
  pure a := .ok a
  seq f a := both f (a ())

/-- The items of a list are checked each for itself, its errors under its index. -/
def each (check : α → Checked β) (i : Nat) : List α → Checked (List β)
  | [] => pure []
  | a :: rest => List.cons <$> under (toString i) (check a) <*> each check (i + 1) rest

end Checked

/-- How Django REST framework reads request data: the members of a mapping, as each
field's `get_value` finds them, the items of a list, and the conversion of a value by a
field of each kind, validators included. -/
structure RestFramework (Data : Type) where
  mapping : Data → Except (List Message) (String → Given Data)
  list : Data → Except (List Message) (List (Given Data))
  charField : Data → Except (List Message) String
  integerField : (minValue : Option Int) → Data → Except (List Message) Int
  choiceField : (choices : List String) → Data → Except (List Message) {s : String // s ∈ choices}
  booleanField : Data → Except (List Message) Bool

/-- A field of a serializer: what it makes of a value, its default when it is not
required, and what `null` is for it when it allows one. -/
structure SerializerField (Data α : Type) where
  name : String
  convert : Data → Checked α
  default : Option α := none
  null : Option α := none

namespace SerializerField

variable {Data α : Type}

/-- `run_validation`. -/
def runValidation (f : SerializerField Data α) : Given Data → Checked α
  | .absent =>
      match f.default with
      | some a => pure a
      | none => .fail [⟨"This field is required.", none⟩]
  | .null =>
      match f.null with
      | some a => pure a
      | none => .fail [⟨"This field may not be null.", none⟩]
  | .value data => f.convert data

/-- The field's part of a mapping. -/
def read (f : SerializerField Data α) (get : String → Given Data) : Checked α :=
  (f.runValidation (get f.name)).under f.name

end SerializerField

/-- A run of the document. `validate_direction_id` has let its direction through. -/
structure ScheduleEntry where
  id : String
  vehicleId : String
  operatorId : String
  routeId : String
  tripId : String
  directionId : {i : Int // i = 0 ∨ i = 1}
  shapeId : String
  scheduleRelationship : {s : String // s ∈ ["SCHEDULED", "ADDED", "UNSCHEDULED"]}
  startTime : String
  autoConfirm : Bool
  autoStartMotionAfterS : Option Int

/-- `validated_data` of the document. The defaults are absent when the request has
none; `validate` has let the runs through. -/
structure ScheduleDocument where
  defaults : Option Defaults
  runs : List ScheduleEntry
  named : ∀ e ∈ runs, e.id ≠ ""
  distinct : (runs.map ScheduleEntry.id).Nodup

/-! ## The validated data as plain values -/

def ScheduleEntry.items (e : ScheduleEntry) : List (Key × PyVal) :=
  [(.str "id", .str e.id), (.str "vehicle_id", .str e.vehicleId),
    (.str "operator_id", .str e.operatorId), (.str "route_id", .str e.routeId),
    (.str "trip_id", .str e.tripId), (.str "direction_id", .int e.directionId),
    (.str "shape_id", .str e.shapeId),
    (.str "schedule_relationship", .str e.scheduleRelationship),
    (.str "start_time", .str e.startTime), (.str "auto_confirm", .bool e.autoConfirm),
    (.str "auto_start_motion_after_s", (e.autoStartMotionAfterS.map PyVal.int).getD .null)]

def Defaults.items (d : Defaults) : List (Key × PyVal) :=
  [(.str "pre_run_idle_s", .int d.preRunIdleS), (.str "post_run_idle_s", .int d.postRunIdleS),
    (.str "auto_confirm_delay_s", .int d.autoConfirmDelayS)]

/-- A request without defaults is stored with the default `{}` of the field. -/
def ScheduleDocument.items (doc : ScheduleDocument) : List (Key × PyVal) :=
  [(.str "defaults", .dict ((doc.defaults.map Defaults.items).getD [])),
    (.str "runs", .list (doc.runs.map fun e => .dict e.items))]

namespace Serializers

variable {Data : Type} (drf : RestFramework Data)

/-- The conversion of a value by a field that is not a serializer. -/
def plain {α : Type} : Except (List Message) α → Checked α
  | .ok a => pure a
  | .error messages => .fail messages

/-- A serializer: the data has to be a mapping, and the fields are read from it. -/
def fields {α : Type} (read : (String → Given Data) → Checked α) (data : Data) : Checked α :=
  match drf.mapping data with
  | .ok get => read get
  | .error messages => Checked.under "non_field_errors" (.fail messages)

/-! ## `ScheduleDefaultsSerializer` -/

/-- `IntegerField(default=default, min_value=0)`. -/
def secondsField (name : String) (default : Int) : SerializerField Data Int :=
  { name, convert := fun data => plain (drf.integerField (some 0) data), default := some default }

def scheduleDefaults : Data → Checked Defaults :=
  fields drf fun get =>
    Defaults.mk <$> (secondsField drf "pre_run_idle_s" 30).read get
      <*> (secondsField drf "post_run_idle_s" 30).read get
      <*> (secondsField drf "auto_confirm_delay_s" 5).read get

/-! ## `ScheduleEntrySerializer` -/

/-- `CharField()`. -/
def charField (name : String) : SerializerField Data String :=
  { name, convert := fun data => plain (drf.charField data) }

/-- `validate_direction_id`. -/
def validateDirectionId (value : Int) : Checked {i : Int // i = 0 ∨ i = 1} :=
  if h : value = 0 ∨ value = 1 then pure ⟨value, h⟩
  else .fail [⟨"direction_id must be 0 or 1", none⟩]

def directionIdField : SerializerField Data {i : Int // i = 0 ∨ i = 1} where
  name := "direction_id"
  convert data :=
    match drf.integerField none data with
    | .ok value => validateDirectionId value
    | .error messages => .fail messages

def scheduleRelationshipField :
    SerializerField Data {s : String // s ∈ ["SCHEDULED", "ADDED", "UNSCHEDULED"]} where
  name := "schedule_relationship"
  convert data := plain (drf.choiceField ["SCHEDULED", "ADDED", "UNSCHEDULED"] data)
  default := some ⟨"SCHEDULED", by simp⟩

def autoConfirmField : SerializerField Data Bool where
  name := "auto_confirm"
  convert data := plain (drf.booleanField data)
  default := some false

def autoStartMotionAfterSField : SerializerField Data (Option Int) where
  name := "auto_start_motion_after_s"
  convert data := some <$> plain (drf.integerField none data)
  default := some none
  null := some none

def scheduleEntry : Data → Checked ScheduleEntry :=
  fields drf fun get =>
    ScheduleEntry.mk <$> (charField drf "id").read get
      <*> (charField drf "vehicle_id").read get
      <*> (charField drf "operator_id").read get
      <*> (charField drf "route_id").read get
      <*> (charField drf "trip_id").read get
      <*> (directionIdField drf).read get
      <*> (charField drf "shape_id").read get
      <*> (scheduleRelationshipField drf).read get
      <*> (charField drf "start_time").read get
      <*> (autoConfirmField drf).read get
      <*> (autoStartMotionAfterSField drf).read get

/-! ## `ScheduleDocumentSerializer` -/

def defaultsField : SerializerField Data (Option Defaults) where
  name := "defaults"
  convert data := some <$> scheduleDefaults drf data
  default := some none

/-- The child of the list: an entry may not be `null`. -/
def childField : SerializerField Data ScheduleEntry where
  name := ""
  convert := scheduleEntry drf

def runsField : SerializerField Data (List ScheduleEntry) where
  name := "runs"
  convert data :=
    match drf.list data with
    | .ok items => Checked.each (childField drf).runValidation 0 items
    | .error messages => .fail messages
  default := some []

/-- The loop of `validate`. -/
def checkIds : List ScheduleEntry → List String → Except Message Unit
  | [], _ => .ok ()
  | e :: rest, seen =>
      if e.id = "" then .error ⟨"Each schedule entry must have an 'id' field", none⟩
      else if e.id ∈ seen then .error ⟨"Duplicate schedule entry id: ", some e.id⟩
      else checkIds rest (e.id :: seen)

theorem checkIds_ok {runs : List ScheduleEntry} {seen : List String} :
    checkIds runs seen = .ok () ↔
      (∀ e ∈ runs, e.id ≠ "" ∧ e.id ∉ seen) ∧ (runs.map ScheduleEntry.id).Nodup := by
  induction runs generalizing seen with
  | nil => simp [checkIds]
  | cons e rest ih =>
    simp only [checkIds, List.map_cons, List.nodup_cons, List.mem_map, List.forall_mem_cons]
    by_cases hid : e.id = ""
    · simp [hid]
    · by_cases hseen : e.id ∈ seen
      · simp [hid, hseen]
      · rw [if_neg hid, if_neg hseen, ih]
        simp only [List.mem_cons, not_or]
        constructor
        · rintro ⟨hrest, hnodup⟩
          refine ⟨⟨⟨hid, hseen⟩, fun d hd => ⟨(hrest d hd).1, (hrest d hd).2.2⟩⟩, ?_, hnodup⟩
          rintro ⟨d, hd, heq⟩
          exact (hrest d hd).2.1 heq
        · rintro ⟨⟨-, hrest⟩, hnew, hnodup⟩
          exact ⟨fun d hd => ⟨(hrest d hd).1, fun heq => hnew ⟨d, hd, heq⟩, (hrest d hd).2⟩, hnodup⟩

/-- `validate`. -/
def validate (defaults : Option Defaults) (runs : List ScheduleEntry) : Checked ScheduleDocument :=
  match h : checkIds runs [] with
  | .ok () =>
      pure ⟨defaults, runs, fun e he => ((checkIds_ok.mp h).1 e he).1, (checkIds_ok.mp h).2⟩
  | .error message => Checked.under "non_field_errors" (.fail [message])

/-- `is_valid` with its `validated_data` or its `errors`: `validate` runs when every
field is in order. -/
def scheduleDocument (data : Data) : Checked ScheduleDocument :=
  match fields drf (fun get => Prod.mk <$> (defaultsField drf).read get
      <*> (runsField drf).read get) data with
  | .ok (defaults, runs) => validate defaults runs
  | .error errors => .error errors

end Serializers

end DatabusSim
