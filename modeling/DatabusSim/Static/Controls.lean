import DatabusSim.Domain.ControlFrame
import DatabusSim.Runtime
import DatabusSim.Static.Store

/-!
# The controls on their way from the page to the fleet

The cards of the fleet tab publish control topics; the client of the browser makes a POST of each,
whose path Django's patterns take apart again. Which topics get to which view
(`published_iff`), and what the controls of a card do to the fleet (`card_control_applied`).
-/

namespace DatabusSim.Controls

open WsClient

/-! ## `publish` -/

/-- What `.` does not stand for. -/
def lineTerminator (c : Char) : Bool :=
  c = '\n' || c = '\r' || c = Char.ofNat 0x2028 || c = Char.ofNat 0x2029

/-- `controlPath`: what `(.+)` stands for is put behind the root. -/
def controlPath (topic : String) : Option String :=
  if "sim/control/".toList <+: topic.toList then
    let m := topic.toList.drop 12
    if m ≠ [] ∧ m.all (fun c => !lineTerminator c) then
      some ("/sim/control/" ++ String.ofList m)
    else none
  else none

theorem controlPath_iff {topic path : String} :
    controlPath topic = some path ↔ ∃ m : String, topic = "sim/control/" ++ m ∧ m ≠ "" ∧
      m.toList.all (fun c => !lineTerminator c) ∧ path = "/sim/control/" ++ m := by
  have hlen : "sim/control/".toList.length = 12 := by decide
  unfold controlPath
  constructor
  · intro h
    split at h
    · rename_i hprefix
      obtain ⟨m, hm⟩ := hprefix
      have hdrop : topic.toList.drop 12 = m := by rw [← hm, ← hlen, List.drop_left]
      dsimp only at h
      rw [hdrop] at h
      split at h
      · rename_i hchars
        refine ⟨String.ofList m, ?_, ?_, ?_, (Option.some.inj h).symm⟩
        · apply String.toList_inj.mp
          have hlist : (String.ofList m).toList = m := String.toList_ofList
          rw [String.toList_append, hlist]
          exact hm.symm
        · intro hempty
          rw [← String.toList_inj, String.toList_ofList] at hempty
          exact hchars.1 hempty
        · rw [String.toList_ofList]
          exact hchars.2
      · cases h
    · cases h
  · rintro ⟨m, rfl, hne, hchars, rfl⟩
    have hdrop : ("sim/control/" ++ m).toList.drop 12 = m.toList := by
      rw [String.toList_append, ← hlen, List.drop_left]
    have hm : m.toList ≠ [] := by
      intro h
      exact hne (String.toList_inj.mp h)
    rw [if_pos (by rw [String.toList_append]; exact List.prefix_append _ _)]
    dsimp only
    rw [hdrop, if_pos ⟨hm, hchars⟩, String.ofList_toList]

/-! ## The views -/

/-- The views of the API with the arguments they are called with. -/
inductive View where
  | healthz
  | fleet
  | schedule
  | scheduleReload
  | runDetail (runId : String)
  | trackRun
  | controlGlobal (knob : String)
  | controlVehicle (vehicleId knob : String)
  | geometry
  deriving DecidableEq

/-- A part of a route: a text, or `<str:name>`. -/
inductive Segment where
  | text (s : String)
  | str

/-- `path(route, …)` on the parts of a path: the values of its `<str:name>`, none of them empty. -/
def matchRoute : List Segment → List String → Option (List String)
  | [], [] => some []
  | .text s :: route, part :: parts => if part = s then matchRoute route parts else none
  | .str :: route, part :: parts =>
      if part = "" then none else (matchRoute route parts).map (part :: ·)
  | _, _ => none

/-- A view that takes nothing out of its path. -/
def plainView (view : View) : List String → Option View
  | [] => some view
  | _ => none

/-- `urlpatterns`, in order. -/
def urlpatterns : List (List Segment × (List String → Option View)) :=
  [([.text "healthz"], plainView .healthz),
    ([.text "fleet"], plainView .fleet),
    ([.text "schedule"], plainView .schedule),
    ([.text "schedule", .text "reload"], plainView .scheduleReload),
    ([.text "run", .str], fun
      | [runId] => some (.runDetail runId)
      | _ => none),
    ([.text "runs", .text "track"], plainView .trackRun),
    ([.text "control", .text "global", .str], fun
      | [knob] => some (.controlGlobal knob)
      | _ => none),
    ([.text "control", .str, .str], fun
      | [vehicleId, knob] => some (.controlVehicle vehicleId knob)
      | _ => none),
    ([.text "geometry"], plainView .geometry)]

/-- The first pattern that matches what is left of the path. -/
def route (parts : List String) : Option View :=
  urlpatterns.findSome? fun p => (matchRoute p.1 parts).bind p.2

/-- The view that a path of the API is resolved to. -/
def resolve (path : String) : Option View :=
  match (levels path).map String.ofList with
  | front :: root :: parts => if front = "" ∧ root = "sim" then route parts else none
  | _ => none

/-- The two patterns of the controls, in their order. -/
theorem route_control {parts : List String} {view : View} :
    route ("control" :: parts) = some view ↔
      (∃ knob, knob ≠ "" ∧ parts = ["global", knob] ∧ view = .controlGlobal knob) ∨
      ∃ vid knob, vid ≠ "" ∧ knob ≠ "" ∧ vid ≠ "global" ∧ parts = [vid, knob] ∧
        view = .controlVehicle vid knob := by
  unfold route urlpatterns
  rcases parts with _ | ⟨vid, _ | ⟨knob, _ | ⟨l, parts⟩⟩⟩
  · simp [matchRoute]
  · simp [matchRoute]
  · by_cases hvid : vid = "global"
    · by_cases hknob : knob = ""
      · simp [matchRoute, hvid, hknob]
      · simp [matchRoute, hvid, hknob, eq_comm (a := view)]
    · by_cases hempty : vid = ""
      · simp [matchRoute, hempty]
      · by_cases hknob : knob = ""
        · simp [matchRoute, hvid, hempty, hknob]
        · simp [matchRoute, hvid, hempty, hknob, eq_comm (a := view)]
  · simp [matchRoute]

theorem levels_pair {m vid knob : String} :
    (levels m).map String.ofList = [vid, knob] ↔
      m = vid ++ "/" ++ knob ∧ '/' ∉ vid.toList ∧ '/' ∉ knob.toList := by
  constructor
  · intro h
    have hlevels : levels m = [vid.toList, knob.toList] := by
      have hmap := congrArg (List.map String.toList) h
      have hid : String.toList ∘ String.ofList = id := funext fun l => String.toList_ofList
      rw [List.map_map, hid, List.map_id] at hmap
      exact hmap
    have hm : m = vid ++ "/" ++ knob := by
      apply String.toList_inj.mp
      have hjoin : List.intercalate ['/'] (levels m) = m.toList := List.intercalate_splitOn '/'
      rw [← hjoin, hlevels, String.toList_append, String.toList_append]
      simp [List.intercalate]
    rw [hm, levels_append_slash] at hlevels
    obtain ⟨v, vs, hv⟩ := List.exists_cons_of_ne_nil (levels_ne_nil vid)
    obtain ⟨k, ks, hk⟩ := List.exists_cons_of_ne_nil (levels_ne_nil knob)
    have hlen := congrArg List.length hlevels
    rw [hv, hk] at hlen
    simp only [List.length_append, List.length_cons, List.length_nil] at hlen
    have hvs : vs = [] := List.length_eq_zero_iff.mp (by omega)
    have hks : ks = [] := List.length_eq_zero_iff.mp (by omega)
    subst hvs hks
    exact ⟨hm, not_mem_of_levels hv, not_mem_of_levels hk⟩
  · rintro ⟨rfl, hvid, hknob⟩
    rw [levels_append_slash, levels_named hvid, levels_named hknob]
    simp

/-- The path of a control topic gets to one of the two views of the controls. -/
theorem resolve_control (m : String) :
    resolve ("/sim/control/" ++ m) = route ("control" :: (levels m).map String.ofList) := by
  have hroot : "/sim/control/".toList = "/sim/control".toList ++ ['/'] := by decide
  have hfront : "/sim/control".toList.splitOn '/' =
      ["".toList, "sim".toList, "control".toList] := by decide
  unfold resolve
  rw [levels_append hroot m, hfront]
  simp

/-! ## Which topic gets where -/

/-- The characters of a path that a URL keeps as they are. -/
def plainChar (c : Char) : Bool := c.isAlphanum || c = '-' || c = '_' || c = '/'

/-- Only such characters, and no empty level. -/
structure Plain (s : String) : Prop where
  chars : s.toList.all plainChar = true
  levels : ∀ l ∈ levels s, l ≠ []

/-- What the server is asked for when a topic is published; `arrive` is the way of a path from
`fetch` to the server. -/
def requested (arrive : String → String) (topic : String) : Option View :=
  (controlPath topic).bind fun path => resolve (arrive path)

theorem not_lineTerminator {c : Char} (h : plainChar c = true) : (!lineTerminator c) = true := by
  rw [Bool.not_eq_true', Bool.eq_false_iff]
  intro hc
  simp only [lineTerminator, Bool.or_eq_true, decide_eq_true_eq] at hc
  rcases hc with ((rfl | rfl) | rfl) | rfl <;> revert h <;> decide

/-- Of the plain topics those of two levels under `sim/control` get to a view of the controls, the
ones of `global` to that of all vehicles; the others get nowhere. -/
theorem published_iff {arrive : String → String}
    (harrive : ∀ topic, Plain topic → arrive ("/" ++ topic) = "/" ++ topic) {topic : String}
    (hplain : Plain topic) (view : View) :
    requested arrive topic = some view ↔
      (∃ knob, topic = "sim/control/global/" ++ knob ∧ Named knob ∧
        view = .controlGlobal knob) ∨
      ∃ vid knob, topic = "sim/control/" ++ vid ++ "/" ++ knob ∧ Named vid ∧ Named knob ∧
        vid ≠ "global" ∧ view = .controlVehicle vid knob := by
  unfold requested
  rw [Option.bind_eq_some_iff]
  constructor
  · rintro ⟨path, hpath, hview⟩
    obtain ⟨m, rfl, -, -, rfl⟩ := controlPath_iff.mp hpath
    have harrived : arrive ("/sim/control/" ++ m) = "/sim/control/" ++ m := by
      have h := harrive _ hplain
      rwa [← String.append_assoc] at h
    rw [harrived, resolve_control] at hview
    rcases route_control.mp hview with ⟨knob, hne, hparts, rfl⟩ | ⟨vid, knob, hvid, hknob,
      hglobal, hparts, rfl⟩
    · obtain ⟨rfl, -, hslash⟩ := levels_pair.mp hparts
      refine .inl ⟨knob, ?_, ⟨hne, hslash⟩, rfl⟩
      rw [← String.append_assoc, ← String.append_assoc]
      rfl
    · obtain ⟨rfl, hvid', hknob'⟩ := levels_pair.mp hparts
      refine .inr ⟨vid, knob, ?_, ⟨hvid, hvid'⟩, ⟨hknob, hknob'⟩, hglobal, rfl⟩
      rw [← String.append_assoc, ← String.append_assoc]
  · intro h
    -- either way the topic is the root and two levels
    have hm : ∃ m : String, topic = "sim/control/" ++ m ∧ m ≠ "" ∧
        route ("control" :: (levels m).map String.ofList) = some view := by
      rcases h with ⟨knob, rfl, hknob, rfl⟩ | ⟨vid, knob, rfl, hvid, hknob, hglobal, rfl⟩
      · refine ⟨"global" ++ "/" ++ knob, ?_, ?_, ?_⟩
        · rw [← String.append_assoc, ← String.append_assoc]
          rfl
        · simp
        · exact route_control.mpr (.inl ⟨knob, hknob.1,
            levels_pair.mpr ⟨rfl, by decide, hknob.2⟩, rfl⟩)
      · refine ⟨vid ++ "/" ++ knob, ?_, ?_, ?_⟩
        · rw [← String.append_assoc, ← String.append_assoc]
        · simp
        · exact route_control.mpr (.inr ⟨vid, knob, hvid.1, hknob.1, hglobal,
            levels_pair.mpr ⟨rfl, hvid.2, hknob.2⟩, rfl⟩)
    obtain ⟨m, rfl, hne, hroute⟩ := hm
    have hchars : m.toList.all (fun c => !lineTerminator c) = true := by
      apply List.all_eq_true.mpr
      intro c hc
      apply not_lineTerminator
      apply List.all_eq_true.mp hplain.chars
      rw [String.toList_append]
      exact List.mem_append_right _ hc
    refine ⟨_, controlPath_iff.mpr ⟨m, rfl, hne, hchars, rfl⟩, ?_⟩
    have harrived : arrive ("/sim/control/" ++ m) = "/sim/control/" ++ m := by
      have h := harrive _ hplain
      rwa [← String.append_assoc] at h
    rw [harrived, resolve_control, hroute]

/-! ## From the body of the POST to the handler -/

mutual

/-- `json.loads(JSON.stringify(v))`: an integer is written without exponent below 1e21, and what
has none and no point is read as an `int`. -/
def received : Js → PyVal
  | .undefined => .null
  | .null => .null
  | .bool b => .bool b
  | .num q => if q.den = 1 ∧ q.num.natAbs < 1000000000000000000000 then .int q.num else .float q
  | .str s => .str s
  | .arr xs => .list (receivedElements xs)
  | .obj props => .dict (receivedItems props)

def receivedElements : List Js → List PyVal
  | [] => []
  | x :: xs => received x :: receivedElements xs

/-- `undefined` is left out. -/
def receivedItems : List (String × Js) → List (Key × PyVal)
  | [] => []
  | (_, .undefined) :: props => receivedItems props
  | (k, v) :: props => (.str k, received v) :: receivedItems props

end

/-- `request.data if isinstance(request.data, dict) else {}`. -/
def payloadOf : PyVal → Control.Payload
  | .dict items => items
  | _ => []

/-- What a view of the controls makes happen; `start_run` and `reload_schedule` are
`_GLOBAL_KNOBS`. -/
def View.event (now : ℚ) (file : Except PyExc ShapesFile) (d : Draws) (payload : Control.Payload) :
    View → Option Runtime.Event
  | .controlVehicle vehicleId knob => some (.control now file d vehicleId knob payload)
  | .controlGlobal knob =>
      if knob = "start_run" then some (.startRun now payload)
      else if knob = "reload_schedule" then some (.scheduler now .reload)
      else none
  | _ => none

/-- `publish`: the event at the server, if there is one. -/
def publish (arrive : String → String) (now : ℚ) (file : Except PyExc ShapesFile) (d : Draws)
    (topic : String) (payload : Js) : Option Runtime.Event :=
  (requested arrive topic).bind
    (View.event now file d (payloadOf (received (payload.orElse (.obj [])))))

/-! ## The card of a vehicle -/

/-- The listeners of `wireCardControls`, with what the sliders and the forms give. -/
inductive CardControl where
  | transmit (checked : Bool)
  | moving (checked : Bool)
  /-- The slider, or the reset of its override. -/
  | speed (value : Option ℚ)
  | occupancy (value : Option Int)
  | startMotion
  | jumpTerminal
  | injectFault (kind : FaultKind) (ticks : Int)
  | dwell (stopId : Option String) (ticks : Int)

/-- The values of the radio buttons. -/
def faultText : FaultKind → String
  | .staleTs => "stale_ts"
  | .outOfBounds => "out_of_bounds"
  | .malformed => "malformed"

namespace CardControl

def topic (vid : String) : CardControl → String
  | .transmit _ => "sim/control/" ++ vid ++ "/" ++ "transmit"
  | .moving _ => "sim/control/" ++ vid ++ "/" ++ "moving"
  | .speed _ => "sim/control/" ++ vid ++ "/" ++ "speed"
  | .occupancy _ => "sim/control/" ++ vid ++ "/" ++ "occupancy"
  | .startMotion => "sim/control/global/" ++ "start_run"
  | .jumpTerminal => "sim/control/" ++ vid ++ "/" ++ "jump_to_terminal"
  | .injectFault _ _ => "sim/control/" ++ vid ++ "/" ++ "inject_fault"
  | .dwell _ _ => "sim/control/" ++ vid ++ "/" ++ "dwell"

def payload (vid : String) : CardControl → Js
  | .transmit checked => .obj [("on", .bool checked)]
  | .moving checked => .obj [("on", .bool checked)]
  | .speed value => .obj [("value", (value.map Js.num).getD .null)]
  | .occupancy value => .obj [("value", (value.map fun i => Js.num (i : Int)).getD .null)]
  | .startMotion => .obj [("vehicle_id", .str vid)]
  | .jumpTerminal => .obj []
  | .injectFault kind ticks => .obj [("kind", .str (faultText kind)), ("duration_ticks", .num ticks)]
  | .dwell stopId ticks =>
      .obj [("stop_id", (stopId.map Js.str).getD .null), ("ticks", .num ticks)]

/-- What the slider of the occupancy and the forms let through; their numbers are not so large that
a double rounds them. -/
def Entered : CardControl → Prop
  | .occupancy value => ∀ pct ∈ value, 0 ≤ pct ∧ pct ≤ 100
  | .injectFault _ ticks => 1 ≤ ticks ∧ Js.Safe ticks
  | .dwell _ ticks => 1 ≤ ticks ∧ Js.Safe ticks
  | _ => True

/-- What a control is for: the vehicle before and after it. -/
def Effect (env : Control.Env) (v : Vehicle) : CardControl → Vehicle → Prop
  | .transmit checked, v' =>
      v' = { v with transmitting := checked, lastStateChangeAt := some env.now }
  | .moving checked, v' => v' = { v with moving := checked, lastStateChangeAt := some env.now }
  | .speed value, v' => v' = { v with speedOverride := value }
  | .occupancy value, v' => v' = { v with occupancyOverride := value }
  | .startMotion, v' => v' = { v with moving := true, lastStateChangeAt := some env.now }
  -- a shape that cannot be found leaves the vehicle where it is
  | .jumpTerminal, v' =>
      (∃ file shape total, env.file = .ok file ∧ Kinematics.getShape v file.shapes = .ok shape ∧
        Kinematics.totalDistM shape = .ok total ∧
        v' = { v with progressM := max 0 (total - 1), moving := true }) ∨
      (¬ ∃ file shape total, env.file = .ok file ∧
        Kinematics.getShape v file.shapes = .ok shape ∧
        Kinematics.totalDistM shape = .ok total) ∧ v' = v
  | .injectFault kind ticks, v' =>
      v' = { v with
        kin := some { Kinematics.initKin env.draws v with
          fault := some kind
          faultTicks := ticks } }
  | .dwell stopId ticks, v' =>
      v' = { v with
        dwellOverride := some { stopId := (stopId.map PyVal.str).getD .null, ticks }
        kin := v.kin.map fun kin =>
          { kin with
            dwellRemaining := ticks
            lastStopId :=
              if ((stopId.map PyVal.str).getD .null).truthy then
                (stopId.map PyVal.str).getD .null
              else kin.lastStopId } }

end CardControl

/-! ## What a card does -/

/-- The request changes the one vehicle as `E` says, and nothing else of the runtime. -/
def Changes (cfg : Settings) (s : Runtime) (vid : String) (E : Vehicle → Prop)
    (request : Option Runtime.Event) : Prop :=
  ∃ ev s' v', request = some ev ∧ Runtime.step cfg s ev = some s' ∧
    s' = { s with fleet := s'.fleet } ∧ s'.fleet.get vid = some v' ∧ E v' ∧
    ∀ w, w ≠ vid → s'.fleet.get w = s.fleet.get w

/-- A vehicle id or a knob that a URL keeps as it is. -/
structure PlainPart (s : String) : Prop where
  chars : s.toList.all plainChar = true
  named : Named s

theorem plain_pair {vid knob : String} (hvid : PlainPart vid) (hknob : PlainPart knob) :
    Plain ("sim/control/" ++ vid ++ "/" ++ knob) := by
  have hroot : "sim/control/".toList = "sim/control".toList ++ ['/'] := by decide
  have hfront : "sim/control".toList.splitOn '/' = ["sim".toList, "control".toList] := by decide
  constructor
  · simp only [String.toList_append, List.all_append, Bool.and_eq_true]
    exact ⟨⟨⟨by decide, hvid.chars⟩, by decide⟩, hknob.chars⟩
  · rw [levels_append_slash, levels_append hroot vid, hfront, levels_named hvid.named.2,
      levels_named hknob.named.2]
    have hne : ∀ {s : String}, s ≠ "" → s.toList ≠ [] := fun hs h => hs (String.toList_inj.mp h)
    intro l hl
    simp only [List.mem_append, List.mem_cons, List.not_mem_nil, or_false] at hl
    rcases hl with (((rfl | rfl) | rfl) | rfl)
    · decide
    · decide
    · exact hne hvid.named.1
    · exact hne hknob.named.1

section Publish

variable {arrive : String → String}
  (harrive : ∀ topic, Plain topic → arrive ("/" ++ topic) = "/" ++ topic)

include harrive

theorem requested_vehicle {vid knob : String} (hvid : PlainPart vid) (hknob : PlainPart knob)
    (hglobal : vid ≠ "global") :
    requested arrive ("sim/control/" ++ vid ++ "/" ++ knob) = some (.controlVehicle vid knob) :=
  (published_iff harrive (plain_pair hvid hknob) _).mpr
    (.inr ⟨vid, knob, rfl, hvid.named, hknob.named, hglobal, rfl⟩)

theorem requested_global {knob : String} (hknob : PlainPart knob) :
    requested arrive ("sim/control/global/" ++ knob) = some (.controlGlobal knob) := by
  have hpart : PlainPart "global" := ⟨by decide, by decide⟩
  have hplain : Plain ("sim/control/global/" ++ knob) := plain_pair hpart hknob
  exact (published_iff harrive hplain _).mpr (.inl ⟨knob, rfl, hknob.named, rfl⟩)

end Publish

/-- A control whose payload is accepted makes its assignment, and no other. -/
theorem applyControl_accepted {env : Control.Env} {f : FleetState} {vid knob : String}
    {payload : Control.Payload} {v v' : Vehicle} (hv : f.get vid = some v)
    (h : Control.Accepted env payload knob v v') :
    (Control.applyControl env f vid knob payload).get vid = some v' ∧
      ∀ w, w ≠ vid → (Control.applyControl env f vid knob payload).get w = f.get w := by
  have happlied := Control.applied env f vid knob payload
  refine ⟨?_, fun w hw => happlied.others hw⟩
  generalize Control.applyControl env f vid knob payload = f' at happlied
  cases happlied with
  | accepted named acc written =>
    cases hv.symm.trans named
    rw [← acc.unique h]
    rcases written with rfl | rfl
    · exact FleetState.get_put_self f vid _
    · exact FleetState.get_put_self f vid _
  | unchanged rejected => exact absurd h (rejected v v' hv)

/-- A control whose payload is not accepted changes nothing. -/
theorem applyControl_rejected {env : Control.Env} {f : FleetState} {vid knob : String}
    {payload : Control.Payload} {v : Vehicle} (hv : f.get vid = some v)
    (h : ∀ v', ¬ Control.Accepted env payload knob v v') :
    Control.applyControl env f vid knob payload = f := by
  have happlied := Control.applied env f vid knob payload
  generalize Control.applyControl env f vid knob payload = f' at happlied
  cases happlied with
  | accepted named acc written =>
    cases hv.symm.trans named
    exact absurd acc (h _)
  | unchanged rejected => rfl

section Card

variable {cfg : Settings} {s : Runtime} {vid : String} {v : Vehicle} {now : ℚ}
  {file : Except PyExc ShapesFile} {d : Draws}

/-- The POST of an accepted payload. -/
theorem changes_accepted (hv : s.fleet.get vid = some v) {knob : String}
    {payload : Control.Payload} {v' : Vehicle} {E : Vehicle → Prop} (hE : E v')
    (h : Control.Accepted ⟨cfg.ticks.geo, now, file, d⟩ payload knob v v') :
    Changes cfg s vid E ((some (View.controlVehicle vid knob)).bind
      (View.event now file d payload)) := by
  obtain ⟨hself, hothers⟩ := applyControl_accepted hv h
  exact ⟨.control now file d vid knob payload, _, v', rfl, rfl, rfl, hself, hE, hothers⟩

theorem ofValue_faultText (kind : FaultKind) : FaultKind.ofValue (faultText kind) = some kind := by
  cases kind <;> rfl

theorem received_int {i : Int} (h : i.natAbs < 1000000000000000000000) :
    received (.num (i : Int)) = .int i := by
  simp [received, h]

theorem lt_pow_sub_pow {a k m n : Nat} (ha : a < 2 ^ k) (hk : k ≤ m) (hm : m + 1 ≤ n) :
    a < 2 ^ n - 2 ^ m := by
  have hmono : 2 ^ k ≤ 2 ^ m := Nat.pow_le_pow_right (by decide) hk
  have hdouble : 2 ^ (m + 1) ≤ 2 ^ n := Nat.pow_le_pow_right (by decide) hm
  rw [Nat.pow_succ] at hdouble
  omega

theorem lt_floatLimit : 1000000000000000000000 < floatLimit := by
  have hsmall : 1000000000000000000000 < 2 ^ 70 := by decide
  unfold floatLimit
  exact lt_pow_sub_pow hsmall (by decide) (by decide)

theorem speedValue_received (q : ℚ) : Control.SpeedValue (received (.num q)) (some q) := by
  unfold received
  split
  · rename_i h
    have hq : (q.num : ℚ) = q := (Rat.den_eq_one_iff q).mp h.1
    have hfits : floatOfInt q.num = .ok q :=
      floatOfInt_ok_iff.mpr ⟨h.2.trans lt_floatLimit, hq.symm⟩
    exact .int rfl hfits
  · exact .float q

/-- Every control of a card, published under the id of a vehicle of the fleet, gets to the handler
that is meant, whose effect on this vehicle it has. -/
theorem card_control_applied {arrive : String → String}
    (harrive : ∀ topic, Plain topic → arrive ("/" ++ topic) = "/" ++ topic)
    (hv : s.fleet.get vid = some v) (hvid : PlainPart vid) (hglobal : vid ≠ "global")
    {c : CardControl} (hc : c.Entered) (now : ℚ) (file : Except PyExc ShapesFile) (d : Draws) :
    Changes cfg s vid (c.Effect ⟨cfg.ticks.geo, now, file, d⟩ v)
      (publish arrive now file d (c.topic vid) (c.payload vid)) := by
  cases c with
  | transmit checked =>
    unfold publish CardControl.topic
    rw [requested_vehicle harrive hvid ⟨by decide, by decide⟩ hglobal]
    exact changes_accepted hv rfl ⟨checked, rfl, rfl⟩
  | moving checked =>
    unfold publish CardControl.topic
    rw [requested_vehicle harrive hvid ⟨by decide, by decide⟩ hglobal]
    exact changes_accepted hv rfl ⟨checked, rfl, rfl⟩
  | speed value =>
    unfold publish CardControl.topic
    rw [requested_vehicle harrive hvid ⟨by decide, by decide⟩ hglobal]
    refine changes_accepted hv rfl ⟨value, ?_, rfl⟩
    cases value with
    | none => exact .null
    | some q => exact speedValue_received q
  | occupancy value =>
    unfold publish CardControl.topic
    rw [requested_vehicle harrive hvid ⟨by decide, by decide⟩ hglobal]
    refine changes_accepted hv rfl ⟨value, ?_, rfl⟩
    cases value with
    | none => exact .null
    | some pct =>
      obtain ⟨hnonneg, hle⟩ := hc pct rfl
      show Control.OccupancyValue (received (.num (pct : Int))) (some pct)
      rw [received_int (by omega)]
      exact .int rfl hnonneg hle
  | startMotion =>
    unfold publish CardControl.topic
    rw [requested_global harrive ⟨by decide, by decide⟩]
    have hstart : Control.globalStartRun now s.fleet (payloadOf (received (Js.orElse
        (CardControl.payload vid .startMotion) (.obj [])))) =
        (s.fleet.put vid { v with moving := true, lastStateChangeAt := some now }).notify := by
      show (if (s.fleet.get vid).isNone then s.fleet
        else settle (raisingAt s.fleet (s.fleet.setMoving now vid true))) = _
      rw [hv]
      unfold FleetState.setMoving
      rw [FleetState.mutate_eq, hv]
      rfl
    refine ⟨.startRun now _, _, _, rfl, rfl, rfl, ?_, rfl, ?_⟩
    · show (Control.globalStartRun now s.fleet _).get vid = _
      rw [hstart]
      exact FleetState.get_put_self s.fleet vid _
    · intro w hw
      show (Control.globalStartRun now s.fleet _).get w = _
      rw [hstart]
      exact FleetState.get_put_ne s.fleet _ hw
  | jumpTerminal =>
    unfold publish CardControl.topic
    rw [requested_vehicle harrive hvid ⟨by decide, by decide⟩ hglobal]
    by_cases hshape : ∃ shapes shape total, file = .ok shapes ∧
        Kinematics.getShape v shapes.shapes = .ok shape ∧ Kinematics.totalDistM shape = .ok total
    · obtain ⟨shapes, shape, total, hfile, hshape, htotal⟩ := hshape
      have hjump : Control.Accepted ⟨cfg.ticks.geo, now, file, d⟩ [] "jump_to_terminal" v
          { v with progressM := max 0 (total - 1), moving := true } :=
        ⟨shapes, shape, total, hfile, hshape, htotal, rfl⟩
      exact changes_accepted hv (.inl ⟨shapes, shape, total, hfile, hshape, htotal, rfl⟩) hjump
    · have hsame : Control.applyControl ⟨cfg.ticks.geo, now, file, d⟩ s.fleet vid
          "jump_to_terminal" [] = s.fleet := by
        apply applyControl_rejected hv
        rintro v' ⟨shapes, shape, total, hfile, hgot, htotal, -⟩
        exact hshape ⟨shapes, shape, total, hfile, hgot, htotal⟩
      have hstep : Runtime.step cfg s (.control now file d vid "jump_to_terminal" []) = some s := by
        show some { s with fleet := Control.applyControl _ s.fleet vid "jump_to_terminal" [] } = _
        rw [hsame]
      exact ⟨_, s, v, rfl, hstep, rfl, hv, .inr ⟨hshape, rfl⟩, fun _ _ => rfl⟩
  | injectFault kind ticks =>
    unfold publish CardControl.topic
    rw [requested_vehicle harrive hvid ⟨by decide, by decide⟩ hglobal]
    obtain ⟨hpos, hsafe⟩ := hc
    have hlt : ticks.natAbs ≤ 9007199254740991 := hsafe
    refine changes_accepted hv rfl ⟨faultText kind, kind, ticks, rfl, ofValue_faultText kind, ?_,
      by omega, rfl⟩
    show Control.asInt (received (.num (ticks : Int))) = some ticks
    rw [received_int (by omega)]
    rfl
  | dwell stopId ticks =>
    unfold publish CardControl.topic
    rw [requested_vehicle harrive hvid ⟨by decide, by decide⟩ hglobal]
    obtain ⟨hpos, hsafe⟩ := hc
    have hlt : ticks.natAbs ≤ 9007199254740991 := hsafe
    have hstop : Control.field (payloadOf (received (Js.orElse
        (CardControl.payload vid (.dwell stopId ticks)) (.obj [])))) "stop_id" =
        (stopId.map PyVal.str).getD .null := by
      cases stopId <;> rfl
    refine changes_accepted hv rfl ⟨ticks, ?_, by omega, ?_⟩
    · have hticks : PyVal.getItem? (payloadOf (received (Js.orElse
          (CardControl.payload vid (.dwell stopId ticks)) (.obj [])))) "ticks" =
          some (received (.num (ticks : Int))) := by
        cases stopId <;> rfl
      rw [hticks, received_int (by omega)]
      rfl
    · rw [hstop]

end Card

/-! ## A concrete card -/

/-- `unit-01` as it starts. -/
def firstUnit : Vehicle where
  vehicleId := "unit-01"
  routeId := "bUCR_L1"
  defaultShapeId := "hacia_artes"
  kin := some { speed := 6, occupancyPct := 45 }

/-- The slider of its speed. -/
theorem speed_applied : Changes Runtime.plainSettings
    (Runtime.plainStart Runtime.noFile Runtime.noFile) "unit-01"
    (fun v' => v' = { firstUnit with speedOverride := some (15 / 2) })
    (publish id 0 Runtime.noFile Runtime.steadyDraws "sim/control/unit-01/speed"
      (.obj [("value", .num (15 / 2))])) :=
  card_control_applied (fun _ _ => rfl) rfl ⟨by decide, by decide⟩ (by decide)
    (c := .speed (some (15 / 2))) trivial 0 Runtime.noFile Runtime.steadyDraws

/-- Its topic gets to the view of the vehicle's controls. -/
theorem speed_requested :
    requested id "sim/control/unit-01/speed" = some (.controlVehicle "unit-01" "speed") := by
  have hvid : PlainPart "unit-01" := ⟨by decide, by decide⟩
  have hknob : PlainPart "speed" := ⟨by decide, by decide⟩
  exact (published_iff (fun _ _ => rfl) (plain_pair hvid hknob) _).mpr
    (.inr ⟨"unit-01", "speed", rfl, hvid.named, hknob.named, by decide, rfl⟩)

end DatabusSim.Controls
