import DatabusSim.Api.Serializers
import DatabusSim.Static.Js

/-!
# What a serializer has let through is let through again

A schedule that went through `ScheduleDocumentSerializer` and comes back as JSON goes through
once more, and means the same (`scheduleDocument_resubmitted`). Of Django REST framework this
takes that its fields read their own values back from JSON.
-/

namespace DatabusSim

namespace Checked

variable {α β : Type}

theorem seq_ok {f : Checked (α → β)} {a : Checked α} {b : β} :
    f <*> a = (.ok b : Checked β) ↔ ∃ g x, f = (.ok g : Checked (α → β)) ∧
      a = (.ok x : Checked α) ∧ g x = b := by
  constructor
  · intro h
    cases f with
    | error errors => cases a <;> cases h
    | ok g =>
      cases a with
      | error errors => cases h
      | ok x => exact ⟨g, x, rfl, rfl, Except.ok.inj h⟩
  · rintro ⟨g, x, rfl, rfl, rfl⟩
    rfl

theorem map_ok {f : α → β} {a : Checked α} {b : β} :
    f <$> a = (.ok b : Checked β) ↔ ∃ x, a = (.ok x : Checked α) ∧ f x = b := by
  constructor
  · intro h
    obtain ⟨g, x, hg, hx, hb⟩ := seq_ok.mp h
    cases hg
    exact ⟨x, hx, hb⟩
  · rintro ⟨x, rfl, rfl⟩
    rfl

theorem under_ok {name : String} {c : Checked α} {a : α} :
    under name c = (.ok a : Checked α) ↔ c = (.ok a : Checked α) := by
  cases c with
  | error errors => exact ⟨fun h => (nomatch h), fun h => (nomatch h)⟩
  | ok x => exact Iff.rfl

theorem each_ok {check : α → Checked β} {i : Nat} {l : List α} {bs : List β} :
    each check i l = (.ok bs : Checked (List β)) ↔
      List.Forall₂ (fun a b => check a = (.ok b : Checked β)) l bs := by
  induction l generalizing i bs with
  | nil =>
    rw [List.forall₂_nil_left_iff]
    exact ⟨fun h => (Except.ok.inj h).symm, fun h => by rw [h]; rfl⟩
  | cons a l ih =>
    rw [List.forall₂_cons_left_iff]
    constructor
    · intro h
      obtain ⟨g, rest, hg, hrest, rfl⟩ := seq_ok.mp h
      obtain ⟨b, hb, rfl⟩ := map_ok.mp hg
      exact ⟨b, rest, under_ok.mp hb, ih.mp hrest, rfl⟩
    · rintro ⟨b, rest, hb, hrest, rfl⟩
      exact seq_ok.mpr ⟨_, rest, map_ok.mpr ⟨b, under_ok.mpr hb, rfl⟩, ih.mpr hrest, rfl⟩

/-- What a list comes to are results of its items. -/
theorem each_mem {check : α → Checked β} {i : Nat} {l : List α} {bs : List β}
    (h : each check i l = (.ok bs : Checked (List β))) {b : β} (hb : b ∈ bs) :
    ∃ a, check a = (.ok b : Checked β) := by
  induction each_ok.mp h generalizing i with
  | nil => cases hb
  | @cons a b' l bs hab hrest ih =>
    rcases List.mem_cons.mp hb with rfl | hb
    · exact ⟨a, hab⟩
    · exact ih (each_ok (i := i) |>.mpr hrest) hb

end Checked

open Checked

/-! ## The framework over JSON -/

/-- What a field finds: `undefined` is not sent. -/
def Js.given : Js → Given Js
  | .undefined => .absent
  | .null => .null
  | v => .value v

/-- Django REST framework reads JSON: the members of an object, the items of an array, and in its
fields the values that they make themselves. -/
structure ReadsJson (drf : RestFramework Js) : Prop where
  mapping (props) : drf.mapping (.obj props) = .ok fun name => ((Js.obj props).prop name).given
  list (xs) : drf.list (.arr xs) = .ok (xs.map Js.given)
  charField {data s} : drf.charField data = .ok s → drf.charField (.str s) = .ok s
  integerMinimum {least data i} : drf.integerField (some least) data = .ok i → least ≤ i
  integerField {minValue : Option Int} {i : Int} (h : ∀ least, minValue = some least → least ≤ i)
    (hsafe : Js.Safe i) : drf.integerField minValue (.num i) = .ok i
  choiceField {choices} (s : {s : String // s ∈ choices}) :
    drf.choiceField choices (.str s) = .ok s
  booleanField (b) : drf.booleanField (.bool b) = .ok b

namespace Serializers

variable {drf : RestFramework Js}

/-- A field that has to be there finds a value. -/
theorem runValidation_required {α : Type} {f : SerializerField Js α} {given : Given Js} {a : α}
    (hdefault : f.default = none) (hnull : f.null = none)
    (h : f.runValidation given = (.ok a : Checked α)) :
    ∃ data, f.convert data = (.ok a : Checked α) := by
  unfold SerializerField.runValidation at h
  rw [hdefault, hnull] at h
  cases given with
  | absent => cases h
  | null => cases h
  | value data => exact ⟨data, h⟩

theorem read_value {α : Type} {f : SerializerField Js α} {get : String → Given Js} {data : Js}
    {a : α}
    (hget : get f.name = .value data) (h : f.convert data = (.ok a : Checked α)) :
    f.read get = (.ok a : Checked α) := by
  apply under_ok.mpr
  unfold SerializerField.runValidation
  rw [hget]
  exact h

theorem plain_ok {α : Type} {r : Except (List Message) α} {a : α} :
    plain r = (.ok a : Checked α) ↔ r = .ok a := by
  cases r with
  | error messages => exact ⟨fun h => (nomatch h), fun h => (nomatch h)⟩
  | ok b => exact ⟨fun h => congrArg Except.ok (Except.ok.inj h), fun h => by rw [Except.ok.inj h]; rfl⟩

/-- What `validate` lets through it keeps. -/
theorem validate_ok {defaults : Option Defaults} {runs : List ScheduleEntry}
    {doc : ScheduleDocument} :
    validate defaults runs = (.ok doc : Checked ScheduleDocument) ↔
      doc.defaults = defaults ∧ doc.runs = runs := by
  constructor
  · intro h
    unfold validate at h
    split at h
    · cases h
      exact ⟨rfl, rfl⟩
    · cases h
  · rintro ⟨rfl, rfl⟩
    have hids : checkIds doc.runs [] = .ok () :=
      checkIds_ok.mpr ⟨fun e he => ⟨doc.named e he, List.not_mem_nil⟩, doc.distinct⟩
    unfold validate
    split
    · rfl
    · rename_i message hmessage
      rw [hids] at hmessage
      cases hmessage

/-! ## The strings of an entry -/

/-- The strings of an entry, each of which a `CharField` makes. -/
def stringsOf (e : ScheduleEntry) : List String :=
  [e.id, e.vehicleId, e.operatorId, e.routeId, e.tripId, e.shapeId, e.startTime]

variable (drf) in
/-- A `CharField` leaves the strings of the entry as they are. -/
def Canonical (e : ScheduleEntry) : Prop := ∀ s ∈ stringsOf e, drf.charField (.str s) = .ok s

theorem charField_read (h : ReadsJson drf) {name s : String} {get : String → Given Js}
    (hread : (charField drf name).read get = (.ok s : Checked String)) :
    drf.charField (.str s) = .ok s := by
  obtain ⟨data, hdata⟩ := runValidation_required rfl rfl (under_ok.mp hread)
  exact h.charField (plain_ok.mp hdata)

theorem scheduleEntry_canonical (h : ReadsJson drf) {data : Js} {e : ScheduleEntry}
    (he : scheduleEntry drf data = (.ok e : Checked ScheduleEntry)) : Canonical drf e := by
  unfold scheduleEntry fields at he
  split at he
  · rename_i get _
    obtain ⟨_, _, he, -, h₁⟩ := seq_ok.mp he
    obtain ⟨_, _, he, -, h₂⟩ := seq_ok.mp he
    obtain ⟨_, _, he, hstart, h₃⟩ := seq_ok.mp he
    obtain ⟨_, _, he, -, h₄⟩ := seq_ok.mp he
    obtain ⟨_, _, he, hshape, h₅⟩ := seq_ok.mp he
    obtain ⟨_, _, he, -, h₆⟩ := seq_ok.mp he
    obtain ⟨_, _, he, htrip, h₇⟩ := seq_ok.mp he
    obtain ⟨_, _, he, hroute, h₈⟩ := seq_ok.mp he
    obtain ⟨_, _, he, hoperator, h₉⟩ := seq_ok.mp he
    obtain ⟨_, _, he, hvehicle, h₁₀⟩ := seq_ok.mp he
    obtain ⟨_, hid, h₁₁⟩ := map_ok.mp he
    -- from the constructor on, each part is applied to the next
    subst h₁₁ h₁₀ h₉ h₈ h₇ h₆ h₅ h₄ h₃ h₂ h₁
    intro s hs
    simp only [stringsOf, List.mem_cons, List.not_mem_nil, or_false] at hs
    rcases hs with rfl | rfl | rfl | rfl | rfl | rfl | rfl
    · exact charField_read h hid
    · exact charField_read h hvehicle
    · exact charField_read h hoperator
    · exact charField_read h hroute
    · exact charField_read h htrip
    · exact charField_read h hshape
    · exact charField_read h hstart
  · cases he

/-! ## An entry in JSON -/

/-- An object has the values of an entry. -/
structure Renders (e : ScheduleEntry) (v : Js) : Prop where
  object : ∃ props, v = .obj props
  id : v.prop "id" = .str e.id
  vehicleId : v.prop "vehicle_id" = .str e.vehicleId
  operatorId : v.prop "operator_id" = .str e.operatorId
  routeId : v.prop "route_id" = .str e.routeId
  tripId : v.prop "trip_id" = .str e.tripId
  directionId : v.prop "direction_id" = .num (e.directionId : Int)
  shapeId : v.prop "shape_id" = .str e.shapeId
  scheduleRelationship : v.prop "schedule_relationship" = .str e.scheduleRelationship
  startTime : v.prop "start_time" = .str e.startTime
  autoConfirm : v.prop "auto_confirm" = .bool e.autoConfirm
  autoStartMotionAfterS : v.prop "auto_start_motion_after_s" =
    (e.autoStartMotionAfterS.map fun i => Js.num (i : Int)).getD .null

/-- What a field finds in an object. -/
def members (v : Js) (name : String) : Given Js := (v.prop name).given

theorem charField_value {name s : String} {v : Js} (hv : v.prop name = .str s)
    (hs : drf.charField (.str s) = .ok s) :
    (charField drf name).read (members v) = (.ok s : Checked String) := by
  have hget : members v name = .value (.str s) := by
    rw [members, hv]
    rfl
  exact read_value hget (plain_ok.mpr hs)

section Reads

variable (h : ReadsJson drf)

include h

theorem directionIdField_value {v : Js} (i : {i : Int // i = 0 ∨ i = 1})
    (hv : v.prop "direction_id" = .num (i : Int)) :
    (directionIdField drf).read (members v) = (.ok i : Checked {i : Int // i = 0 ∨ i = 1}) := by
  have hget : members v "direction_id" = .value (.num (i : Int)) := by
    rw [members, hv]
    rfl
  have hsafe : Js.Safe i := by
    rcases i.2 with hi | hi <;> rw [hi] <;> decide
  have hint : drf.integerField none (.num (i : Int)) = .ok (i : Int) :=
    h.integerField (fun least hleast => (nomatch hleast)) hsafe
  apply read_value hget
  unfold directionIdField
  dsimp only
  rw [hint]
  dsimp only [validateDirectionId]
  rw [dif_pos i.2]
  rfl

theorem autoStartMotionAfterSField_value {v : Js} (i : Option Int)
    (hsafe : ∀ n, i = some n → Js.Safe n)
    (hv : v.prop "auto_start_motion_after_s" = (i.map fun i => Js.num (i : Int)).getD .null) :
    (autoStartMotionAfterSField drf).read (members v) = (.ok i : Checked (Option Int)) := by
  cases i with
  | none =>
    have hget : members v "auto_start_motion_after_s" = .null := by
      rw [members, hv]
      rfl
    have hnull : (autoStartMotionAfterSField drf).runValidation
        (members v "auto_start_motion_after_s") = (.ok none : Checked (Option Int)) := by
      rw [hget]
      rfl
    exact under_ok.mpr hnull
  | some i =>
    have hget : members v "auto_start_motion_after_s" = .value (.num (i : Int)) := by
      rw [members, hv]
      rfl
    have hint : drf.integerField none (.num (i : Int)) = .ok i :=
      h.integerField (fun least hleast => (nomatch hleast)) (hsafe i rfl)
    exact read_value hget (map_ok.mpr ⟨i, plain_ok.mpr hint, rfl⟩)

/-- An entry whose strings are canonical comes out of its JSON. -/
theorem scheduleEntry_renders {e : ScheduleEntry} {v : Js} (hv : Renders e v)
    (he : Canonical drf e) (hsafe : ∀ n, e.autoStartMotionAfterS = some n → Js.Safe n) :
    scheduleEntry drf v = (.ok e : Checked ScheduleEntry) := by
  obtain ⟨props, rfl⟩ := hv.object
  unfold scheduleEntry fields
  rw [h.mapping]
  have hstr : ∀ {name s}, (Js.obj props).prop name = .str s → s ∈ stringsOf e →
      (charField drf name).read (members (.obj props)) = (.ok s : Checked String) :=
    fun hname hs => charField_value hname (he _ hs)
  have hid := hstr hv.id (by simp [stringsOf])
  have hvehicle := hstr hv.vehicleId (by simp [stringsOf])
  have hoperator := hstr hv.operatorId (by simp [stringsOf])
  have hroute := hstr hv.routeId (by simp [stringsOf])
  have htrip := hstr hv.tripId (by simp [stringsOf])
  have hdirection := directionIdField_value h e.directionId hv.directionId
  have hshape := hstr hv.shapeId (by simp [stringsOf])
  have hrelationship : (scheduleRelationshipField drf).read (members (.obj props)) =
      (.ok e.scheduleRelationship : Checked _) := by
    have hget : members (.obj props) "schedule_relationship" =
        .value (.str e.scheduleRelationship) := by
      rw [members, hv.scheduleRelationship]
      rfl
    exact read_value hget (plain_ok.mpr (h.choiceField _))
  have hstart := hstr hv.startTime (by simp [stringsOf])
  have hconfirm : (autoConfirmField drf).read (members (.obj props)) =
      (.ok e.autoConfirm : Checked Bool) := by
    have hget : members (.obj props) "auto_confirm" = .value (.bool e.autoConfirm) := by
      rw [members, hv.autoConfirm]
      rfl
    exact read_value hget (plain_ok.mpr (h.booleanField _))
  have hmotion := autoStartMotionAfterSField_value h e.autoStartMotionAfterS hsafe
    hv.autoStartMotionAfterS
  -- from the first field on, each is handed to the constructor
  have h₁ : ScheduleEntry.mk <$> (charField drf "id").read (members (.obj props)) =
      (.ok (ScheduleEntry.mk e.id) : Checked _) := map_ok.mpr ⟨_, hid, rfl⟩
  have h₂ := seq_ok.mpr ⟨_, _, h₁, hvehicle, rfl⟩
  have h₃ := seq_ok.mpr ⟨_, _, h₂, hoperator, rfl⟩
  have h₄ := seq_ok.mpr ⟨_, _, h₃, hroute, rfl⟩
  have h₅ := seq_ok.mpr ⟨_, _, h₄, htrip, rfl⟩
  have h₆ := seq_ok.mpr ⟨_, _, h₅, hdirection, rfl⟩
  have h₇ := seq_ok.mpr ⟨_, _, h₆, hshape, rfl⟩
  have h₈ := seq_ok.mpr ⟨_, _, h₇, hrelationship, rfl⟩
  have h₉ := seq_ok.mpr ⟨_, _, h₈, hstart, rfl⟩
  have h₁₀ := seq_ok.mpr ⟨_, _, h₉, hconfirm, rfl⟩
  exact seq_ok.mpr ⟨_, _, h₁₀, hmotion, rfl⟩

/-! ## The document -/

/-- An object has the values of the defaults. -/
structure RendersDefaults (d : Defaults) (v : Js) : Prop where
  object : ∃ props, v = .obj props
  preRunIdleS : v.prop "pre_run_idle_s" = .num d.preRunIdleS
  postRunIdleS : v.prop "post_run_idle_s" = .num d.postRunIdleS
  autoConfirmDelayS : v.prop "auto_confirm_delay_s" = .num d.autoConfirmDelayS

/-- The numbers of the defaults. -/
def secondsOf (d : Defaults) : List Int := [d.preRunIdleS, d.postRunIdleS, d.autoConfirmDelayS]

/-- No default is negative. -/
structure NonNegative (d : Defaults) : Prop where
  preRunIdleS : 0 ≤ d.preRunIdleS
  postRunIdleS : 0 ≤ d.postRunIdleS
  autoConfirmDelayS : 0 ≤ d.autoConfirmDelayS

theorem secondsField_nonneg {name : String} {default i : Int} {get : String → Given Js}
    (hdefault : 0 ≤ default)
    (hread : (secondsField drf name default).read get = (.ok i : Checked Int)) : 0 ≤ i := by
  have hread := under_ok.mp hread
  unfold SerializerField.runValidation at hread
  cases hget : get (secondsField drf name default).name with
  | absent =>
    rw [hget] at hread
    cases hread
    exact hdefault
  | null =>
    rw [hget] at hread
    cases hread
  | value data =>
    rw [hget] at hread
    exact h.integerMinimum (plain_ok.mp hread)

theorem secondsField_value {name : String} (default : Int) {i : Int} {v : Js}
    (hv : v.prop name = .num i) (hi : 0 ≤ i) (hsafe : Js.Safe i) :
    (secondsField drf name default).read (members v) = (.ok i : Checked Int) := by
  have hget : members v name = .value (.num i) := by
    rw [members, hv]
    rfl
  refine read_value hget (plain_ok.mpr (h.integerField (fun least hleast => ?_) hsafe))
  rw [← Option.some.inj hleast]
  exact hi

theorem scheduleDefaults_nonneg {data : Js} {d : Defaults}
    (hd : scheduleDefaults drf data = (.ok d : Checked Defaults)) : NonNegative d := by
  unfold scheduleDefaults fields at hd
  split at hd
  · obtain ⟨_, _, hd, hconfirm, h₁⟩ := seq_ok.mp hd
    obtain ⟨_, _, hd, hpost, h₂⟩ := seq_ok.mp hd
    obtain ⟨_, hpre, h₃⟩ := map_ok.mp hd
    subst h₃ h₂ h₁
    exact ⟨secondsField_nonneg h (by decide) hpre, secondsField_nonneg h (by decide) hpost,
      secondsField_nonneg h (by decide) hconfirm⟩
  · cases hd

theorem scheduleDefaults_renders {d : Defaults} {v : Js} (hv : RendersDefaults d v)
    (hd : NonNegative d) (hsafe : ∀ i ∈ secondsOf d, Js.Safe i) :
    scheduleDefaults drf v = (.ok d : Checked Defaults) := by
  obtain ⟨props, rfl⟩ := hv.object
  unfold scheduleDefaults fields
  rw [h.mapping]
  have hpre := secondsField_value h 30 hv.preRunIdleS hd.preRunIdleS
    (hsafe _ (by simp [secondsOf]))
  have hpost := secondsField_value h 30 hv.postRunIdleS hd.postRunIdleS
    (hsafe _ (by simp [secondsOf]))
  have hconfirm := secondsField_value h 5 hv.autoConfirmDelayS hd.autoConfirmDelayS
    (hsafe _ (by simp [secondsOf]))
  have h₁ : Defaults.mk <$> (secondsField drf "pre_run_idle_s" 30).read (members (.obj props)) =
      (.ok (Defaults.mk d.preRunIdleS) : Checked _) := map_ok.mpr ⟨_, hpre, rfl⟩
  have h₂ := seq_ok.mpr ⟨_, _, h₁, hpost, rfl⟩
  exact seq_ok.mpr ⟨_, _, h₂, hconfirm, rfl⟩

/-- What the serializer lets through: defaults that are not negative, and strings that a `CharField`
leaves as they are. -/
theorem scheduleDocument_canonical {data : Js} {doc : ScheduleDocument}
    (hdoc : scheduleDocument drf data = (.ok doc : Checked ScheduleDocument)) :
    (∀ d, doc.defaults = some d → NonNegative d) ∧ ∀ e ∈ doc.runs, Canonical drf e := by
  unfold scheduleDocument at hdoc
  split at hdoc
  · rename_i defaults runs hfields
    obtain ⟨rfl, rfl⟩ := validate_ok.mp hdoc
    unfold fields at hfields
    split at hfields
    · rename_i get _
      obtain ⟨_, _, hfields, hruns, h₁⟩ := seq_ok.mp hfields
      obtain ⟨_, hdefaults, h₂⟩ := map_ok.mp hfields
      subst h₂
      cases h₁
      constructor
      · intro d hd
        rw [hd] at hdefaults
        have hread := under_ok.mp hdefaults
        unfold SerializerField.runValidation at hread
        cases hget : get (defaultsField drf).name with
        | absent =>
          rw [hget] at hread
          cases hread
        | null =>
          rw [hget] at hread
          cases hread
        | value data =>
          rw [hget] at hread
          obtain ⟨d', hd', heq⟩ := map_ok.mp hread
          cases heq
          exact scheduleDefaults_nonneg h hd'
      · intro e he
        have hread := under_ok.mp hruns
        unfold SerializerField.runValidation at hread
        cases hget : get (runsField drf).name with
        | absent =>
          rw [hget] at hread
          rw [← Except.ok.inj hread] at he
          cases he
        | null =>
          rw [hget] at hread
          cases hread
        | value data =>
          rw [hget] at hread
          have hconvert : (runsField drf).convert data =
              (.ok doc.runs : Checked (List ScheduleEntry)) := hread
          unfold runsField at hconvert
          dsimp only at hconvert
          split at hconvert
          · obtain ⟨given, hgiven⟩ := each_mem hconvert he
            obtain ⟨entry, hentry⟩ := runValidation_required rfl rfl hgiven
            exact scheduleEntry_canonical h hentry
          · cases hconvert
    · cases hfields
  · cases hdoc

/-- A document comes out of its JSON. -/
theorem scheduleDocument_resubmitted {doc : ScheduleDocument} {d : Defaults} {defaults : Js}
    {runs : List Js} (hsome : doc.defaults = some d) (hobject : ∃ props, defaults = .obj props)
    (hdefaults : scheduleDefaults drf defaults = (.ok d : Checked Defaults))
    (hruns : List.Forall₂ Renders doc.runs runs)
    (hcanonical : ∀ e ∈ doc.runs, Canonical drf e)
    (hsafe : ∀ e ∈ doc.runs, ∀ n, e.autoStartMotionAfterS = some n → Js.Safe n) :
    scheduleDocument drf (.obj [("defaults", defaults), ("runs", .arr runs)]) =
      (.ok doc : Checked ScheduleDocument) := by
  have hread₁ : (defaultsField drf).read (members (.obj [("defaults", defaults),
      ("runs", .arr runs)])) = (.ok (some d) : Checked (Option Defaults)) := by
    obtain ⟨props, rfl⟩ := hobject
    have hconvert : (defaultsField drf).convert (.obj props) =
        (.ok (some d) : Checked (Option Defaults)) :=
      map_ok.mpr ⟨d, hdefaults, rfl⟩
    exact read_value rfl hconvert
  have hread₂ : (runsField drf).read (members (.obj [("defaults", defaults),
      ("runs", .arr runs)])) = (.ok doc.runs : Checked (List ScheduleEntry)) := by
    have heach : each (childField drf).runValidation 0 (runs.map Js.given) =
        (.ok doc.runs : Checked (List ScheduleEntry)) := by
      rw [each_ok, List.forall₂_map_left_iff]
      have heach : ∀ e ∈ doc.runs, Canonical drf e ∧
          ∀ i, e.autoStartMotionAfterS = some i → Js.Safe i :=
        fun e he => ⟨hcanonical e he, hsafe e he⟩
      refine ((List.forall₂_and_left _ _).mpr ⟨heach, hruns⟩).flip.imp ?_
      rintro v e ⟨⟨he, hsafe⟩, hv⟩
      obtain ⟨props, rfl⟩ := hv.object
      exact scheduleEntry_renders h hv he hsafe
    have hconvert : (runsField drf).convert (.arr runs) =
        (.ok doc.runs : Checked (List ScheduleEntry)) := by
      unfold runsField
      dsimp only
      rw [h.list]
      exact heach
    exact read_value rfl hconvert
  have hfields : fields drf (fun get => Prod.mk <$> (defaultsField drf).read get
      <*> (runsField drf).read get) (.obj [("defaults", defaults), ("runs", .arr runs)]) =
      (.ok (some d, doc.runs) : Checked (Option Defaults × List ScheduleEntry)) := by
    unfold fields
    rw [h.mapping]
    have hpair : Prod.mk <$> (defaultsField drf).read (members (.obj [("defaults", defaults),
        ("runs", .arr runs)])) =
        (.ok (Prod.mk (some d)) : Checked (List ScheduleEntry → Option Defaults × _)) :=
      map_ok.mpr ⟨_, hread₁, rfl⟩
    exact seq_ok.mpr ⟨_, _, hpair, hread₂, rfl⟩
  unfold scheduleDocument
  rw [hfields]
  exact validate_ok.mpr ⟨hsome, rfl⟩

end Reads

end Serializers

end DatabusSim
